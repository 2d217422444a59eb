import StreamingService.Auth.Reuse
import StreamingService.Lib.Halfway

/-!
# Auth — Atomicity

Registration, login and refresh when a statement fails. Each is several
statements without a transaction around them: a registration inserts the
user before it signs the access token, a refresh revokes the presented row
before it issues the next one. What fails after that leaves the accounts
changed; a login writes nothing before its last statement.
-/

namespace StreamingService

open Lib

/-- The account tables of `s'` are those of `s`. -/
def SameAccounts (s s' : Store) : Prop :=
  s'.users = s.users ∧ s'.refreshTokens = s.refreshTokens

/-- `ConflictException` and `UnauthorizedException`, the documented rejections. -/
def Exception.isRejection : Exception → Bool
  | .conflict _ | .unauthorized _ => true
  | _ => false

theorem Exception.not_rejection {e : Exception} (h : e.isHttp = false) : e.isRejection = false := by
  cases e <;> first | rfl | cases h

/-- What is left of a call leaves the accounts of `s₀` if it throws, unless to
reject. -/
abbrev LeavesAccounts {α : Type} (s₀ : Store) (p : App α) (os : Nat → Ambient) (s : Store) : Prop :=
  Prog.AllOrNothing exec (SameAccounts s₀) Exception.isRejection p os s

/-- The call leaves the accounts as they were if it throws, unless to reject. -/
abbrev SessionAllOrNothing {α : Type} (p : App α) (os : Nat → Ambient) (s : Store) : Prop :=
  LeavesAccounts s p os s

/-! ## What may still fail -/

/-- `issueTokens` gets through: its statements do not fail, and the row of the
next refresh token is one the table admits. -/
structure IssuesTokens (cfg : AppConfig) (tokens : Table RefreshToken) (userId : String)
    (os : Nat → Ambient) : Prop where
  signed : (os 0).fault = none
  drawn : (os 1).fault = none
  stored : (os 3).fault = none
  admitted : ∃ expiresAt,
    prismaDate (validDate (some ((os 2).now + AuthService.parseDurationToMs cfg.jwt.refreshTtl))) =
        some expiresAt ∧
      tokens.Admits ⟨(os 3).fresh, userId, .sha256 (os 1).fresh, expiresAt, none⟩

/-- A registration gets as far as to insert its user. -/
structure InsertsUser (s : Store) (email : String) (os : Nat → Ambient) : Prop where
  looked : (os 0).fault = none
  unknown : ∀ user ∈ s.users, user.email ≠ email
  hashed : (os 1).fault = none
  stored : (os 2).fault = none
  admitted : s.users.Admits ⟨(os 2).fresh, email, (os 1).fresh, .USER⟩

/-- A refresh that presents the token of `record` gets as far as to revoke it. -/
structure RevokesPresented (s : Store) (record : RefreshToken) (os : Nat → Ambient) : Prop where
  looked : (os 0).fault = none
  owned : ∃ user ∈ s.users, user.id = record.userId
  active : record.revokedAt = none
  unexpired : (os 1).now ≤ record.expiresAt
  stored : (os 3).fault = none

/-! ## Statement by statement -/

section

variable {cfg : AppConfig} {s₀ s s' : Store} {os : Nat → Ambient} {α : Type} {c : Cmd}
  {f : c.Resp → App α}

/-- A statement before the accounts are changed. -/
theorem session_before (hsame : SameAccounts s₀ s) :
    LeavesAccounts s₀ (stmt c >>= f) os s ↔
      ∀ a s', exec (os 0) c s = (.ok a, s') → LeavesAccounts s₀ (f a) (fun n => os (n + 1)) s' := by
  refine Prog.AllOrNothing.before_iff fun e s' hex => ?_
  rw [exec_refused hex]
  exact hsame

/-- A statement after they are. -/
theorem session_after (ho : (os 0).Foreign) (hdiffers : ¬ SameAccounts s₀ s) :
    LeavesAccounts s₀ (stmt c >>= f) os s ↔
      ∃ a s', exec (os 0) c s = (.ok a, s') ∧ LeavesAccounts s₀ (f a) (fun n => os (n + 1)) s' := by
  refine Prog.AllOrNothing.after_iff fun e s' hex => ?_
  obtain rfl := exec_refused hex
  exact ⟨Exception.not_rejection (exec_foreign ho (by rw [hex])), hdiffers⟩

/-- The clock, before or after. -/
theorem session_now {g : Millis → App α} :
    LeavesAccounts s₀ (now >>= g) os s ↔
      LeavesAccounts s₀ (g (os 0).now) (fun n => os (n + 1)) s :=
  Prog.AllOrNothing.ok_iff rfl

/-- The statement that stores the next token. -/
theorem createToken_answers {o : Ambient} {userId : String} {tokenHash : TokenHash}
    {expiresAt : Option Millis} {user : User}
    (huser : s.users.find? (fun u => u.id == userId) = some user) :
    (∃ a s', exec o (.account (.createToken userId tokenHash expiresAt)) s = (.ok a, s')) ↔
      o.fault = none ∧ ∃ e, prismaDate expiresAt = some e ∧
        s.refreshTokens.Admits ⟨o.fresh, userId, tokenHash, e, none⟩ := by
  simp only [exec_ok_iff (c := Cmd.account (.createToken userId tokenHash expiresAt)) (by simp),
    exists_and_left]
  refine and_congr_right fun _ => ?_
  simp only [answer, AccountStmt.answer, huser]
  cases prismaDate expiresAt with
  | none =>
      refine iff_of_false ?_ (by simp)
      rintro ⟨_, _, hans⟩
      cases hans
  | some e =>
      simp only [Option.some.injEq, exists_eq_left', Table.admits_iff]
      cases s.refreshTokens.insert? ⟨o.fresh, userId, tokenHash, e, none⟩ with
      | none =>
          refine iff_of_false ?_ (by simp)
          rintro ⟨_, _, hans⟩
          cases hans
      | some rs => exact iff_of_true ⟨_, _, rfl⟩ ⟨rs, rfl⟩

/-- `issueTokens` in a call that has written. -/
theorem issueTokens_after {userId email : String} {role : Role} {user : User}
    (hos : ∀ n, (os n).Foreign) (hdiffers : ¬ SameAccounts s₀ s)
    (huser : s.users.find? (fun u => u.id == userId) = some user) :
    LeavesAccounts s₀ (AuthService.issueTokens cfg userId email role) os s ↔
      IssuesTokens cfg s.refreshTokens userId os := by
  have hchain : LeavesAccounts s₀ (AuthService.issueTokens cfg userId email role) os s ↔
      (os 0).fault = none ∧ (os 1).fault = none ∧ (os 3).fault = none ∧ ∃ e,
        prismaDate (validDate (some
            ((os 2).now + AuthService.parseDurationToMs cfg.jwt.refreshTtl))) = some e ∧
          s.refreshTokens.Admits ⟨(os 3).fresh, userId, .sha256 (os 1).fresh, e, none⟩ := by
    refine ((session_after (hos 0) hdiffers).trans (exec_exists (by simp) rfl)).trans
      (and_congr_right fun _ => ?_)
    refine ((session_after (hos 1) hdiffers).trans (exec_exists (by simp) rfl)).trans
      (and_congr_right fun _ => ?_)
    refine session_now.trans ?_
    refine (session_after (hos 3) hdiffers).trans (Iff.trans ?_ (createToken_answers huser))
    exact exists₂_congr fun a s' => and_iff_left (.done _)
  refine hchain.trans ⟨?_, fun h => ⟨h.signed, h.drawn, h.stored, h.admitted⟩⟩
  rintro ⟨hsigned, hdrawn, hstored, hadmitted⟩
  exact ⟨hsigned, hdrawn, hstored, hadmitted⟩

/-- In a call that has not, it does no harm: it writes with its last statement. -/
theorem issueTokens_before {userId email : String} {role : Role} (hsame : SameAccounts s₀ s) :
    LeavesAccounts s₀ (AuthService.issueTokens cfg userId email role) os s := by
  refine (session_before hsame).mpr ((exec_forall (by simp) rfl).mpr fun _ => ?_)
  refine (session_before hsame).mpr ((exec_forall (by simp) rfl).mpr fun _ => ?_)
  refine session_now.mpr ?_
  exact (session_before hsame).mpr fun _ _ _ => .done _

/-- The statement that inserts a user. -/
theorem createUser_forall {o : Ambient} {email passwordHash : String} {P : User → Store → Prop} :
    (∀ user s', exec o (.account (.createUser email passwordHash)) s = (.ok user, s') → P user s') ↔
      (o.fault = none → ∀ us, s.users.insert? ⟨o.fresh, email, passwordHash, .USER⟩ = some us →
        P ⟨o.fresh, email, passwordHash, .USER⟩ { s with users := us }) := by
  cases hins : s.users.insert? ⟨o.fresh, email, passwordHash, .USER⟩ with
  | some us =>
      have hans : answer o (.account (.createUser email passwordHash)) s =
          (.ok ⟨o.fresh, email, passwordHash, .USER⟩, { s with users := us }) := by
        simp only [answer, AccountStmt.answer, hins]
        rfl
      refine (exec_forall (by simp) hans).trans (forall_congr' fun _ => ?_)
      simp only [Option.some.injEq, forall_eq']
  | none =>
      refine iff_of_true ?_ fun _ us hus => by cases hus
      intro user s' hex
      have hans := exec_ok hex
      simp only [answer, AccountStmt.answer, hins] at hans
      cases hans

theorem users_differ {us : Table User} {user : User} (hins : s.users.insert? user = some us) :
    ¬ SameAccounts s { s with users := us } := by
  rintro ⟨hsame, -⟩
  have hrows := Table.insert?_eq_some hins
  rw [show us = s.users from hsame] at hrows
  simpa using congrArg List.length hrows

/-- A rejection counts as no failure. -/
theorem session_reject {e : Exception} (he : e.isRejection = true) :
    LeavesAccounts s₀ (throw e : App α) os s := by
  refine Prog.AllOrNothing.throw_iff.mpr fun hnot => ?_
  rw [he] at hnot
  cases hnot

theorem register_leaves {email password : String} (hos : ∀ n, (os n).Foreign) :
    SessionAllOrNothing (AuthService.register cfg email password) os s ↔
      (InsertsUser s email os →
        IssuesTokens cfg s.refreshTokens (os 2).fresh fun n => os (n + 3)) := by
  have hchain : SessionAllOrNothing (AuthService.register cfg email password) os s ↔
      ((os 0).fault = none → (∀ user ∈ s.users, user.email ≠ email) → (os 1).fault = none →
        (os 2).fault = none → s.users.Admits ⟨(os 2).fresh, email, (os 1).fresh, .USER⟩ →
        IssuesTokens cfg s.refreshTokens (os 2).fresh fun n => os (n + 3)) := by
    refine ((session_before ⟨rfl, rfl⟩).trans (exec_forall (by simp) rfl)).trans
      (forall_congr' fun _ => ?_)
    cases hfind : s.users.find? fun u => u.email == email with
    | some user =>
        obtain ⟨huser, hemail⟩ := Table.mem_of_find? hfind
        exact iff_of_true (session_reject rfl) fun hunknown =>
          absurd (by simpa using hemail) (hunknown user huser)
    | none =>
        have hunknown : ∀ user ∈ s.users, user.email ≠ email := by
          simpa using Table.find?_eq_none.mp hfind
        refine Iff.trans ?_ (imp_iff_right hunknown).symm
        refine ((session_before ⟨rfl, rfl⟩).trans (exec_forall (by simp) rfl)).trans
          (forall_congr' fun _ => ?_)
        refine ((session_before ⟨rfl, rfl⟩).trans createUser_forall).trans
          (forall_congr' fun _ => ?_)
        rw [Table.admits_iff, exists_imp]
        refine forall_congr' fun us => forall_congr' fun hins => ?_
        have huser : us.find? (fun u => u.id == (os 2).fresh) =
            some ⟨(os 2).fresh, email, (os 1).fresh, .USER⟩ :=
          users_find? ((Table.mem_insert? hins).mpr (.inr rfl)) rfl
        exact Prog.AllOrNothing.answer_iff.trans
          (issueTokens_after (fun n => hos (n + 3)) (users_differ hins) huser)
  exact hchain.trans
    ⟨fun h hin => h hin.looked hin.unknown hin.hashed hin.stored hin.admitted,
      fun h hlooked hunknown hhashed hstored hadmitted =>
        h ⟨hlooked, hunknown, hhashed, hstored, hadmitted⟩⟩

theorem login_leaves {email password : String} :
    SessionAllOrNothing (AuthService.login cfg email password) os s := by
  refine (session_before ⟨rfl, rfl⟩).mpr ((exec_forall (by simp) rfl).mpr fun _ => ?_)
  cases s.users.find? fun u => u.email == email with
  | none => exact session_reject rfl
  | some user =>
      refine (session_before ⟨rfl, rfl⟩).mpr ((exec_forall (by simp) rfl).mpr fun _ => ?_)
      cases (os 1).accepts with
      | false => exact session_reject rfl
      | true => exact Prog.AllOrNothing.answer_iff.mpr (issueTokens_before ⟨rfl, rfl⟩)

theorem findToken_answer (o : Ambient) (tokenHash : TokenHash) :
    answer o (.account (.findToken tokenHash)) s =
      (.ok ((s.refreshTokens.find? fun r => r.tokenHash == tokenHash).bind fun r =>
        (s.users.find? fun u => u.id == r.userId).map fun u => (r, u)), s) := by
  simp only [answer, AccountStmt.answer]
  cases s.refreshTokens.find? fun r => r.tokenHash == tokenHash <;> rfl

/-- An accepted revocation of an active row leaves another table of tokens. -/
theorem tokens_differ {record : RefreshToken} {revokedAt : Millis} (hrecord : record ∈ s.refreshTokens)
    (hactive : record.revokedAt = none) :
    ¬ SameAccounts s { s with
      refreshTokens := s.refreshTokens.update (fun r => r.id == record.id) (.revoke revokedAt)
        fun _ _ => rfl } := by
  rintro ⟨-, hsame⟩
  have hrevoked := (Table.update_eq_self s.refreshTokens (p := fun r => r.id == record.id)
    (f := .revoke revokedAt) fun _ _ => rfl).mp hsame record hrecord (by simp)
  rw [← hrevoked] at hactive
  cases hactive

theorem issuesTokens_update {tokens : Table RefreshToken} {userId : String} {p : RefreshToken → Bool}
    {g : RefreshToken → RefreshToken} (hg : ∀ a b, Indexed.clash (g a) b = Indexed.clash a b) :
    IssuesTokens cfg (tokens.update p g hg) userId os ↔ IssuesTokens cfg tokens userId os := by
  constructor
  · rintro ⟨hsigned, hdrawn, hstored, e, he, hadmitted⟩
    exact ⟨hsigned, hdrawn, hstored, e, he, (Table.admits_update hg).mp hadmitted⟩
  · rintro ⟨hsigned, hdrawn, hstored, e, he, hadmitted⟩
    exact ⟨hsigned, hdrawn, hstored, e, he, (Table.admits_update hg).mpr hadmitted⟩

/-- A refresh whose token is stored for a user. -/
theorem refresh_leaves_record {token : String} {record : RefreshToken} {user : User}
    (hos : ∀ n, (os n).Foreign)
    (hfind : s.refreshTokens.find? (fun r => r.tokenHash == .sha256 token) = some record)
    (huser : s.users.find? (fun u => u.id == record.userId) = some user) :
    SessionAllOrNothing (AuthService.refresh cfg token) os s ↔
      (RevokesPresented s record os →
        IssuesTokens cfg s.refreshTokens record.userId fun n => os (n + 4)) := by
  obtain ⟨hrecord, -⟩ := Table.mem_of_find? hfind
  obtain ⟨hmem, hid⟩ := Table.mem_of_find? huser
  have hid : user.id = record.userId := by simpa using hid
  have hrevokes : answer (os 3) (.account (.revokeToken record.id (os 2).now)) s =
      (.ok (), { s with
        refreshTokens := s.refreshTokens.update (fun r => r.id == record.id) (.revoke (os 2).now)
          fun _ _ => rfl }) := by
    simp only [answer, AccountStmt.answer, refreshTokens_find? hrecord rfl]
    rfl
  have hchain : SessionAllOrNothing (AuthService.refresh cfg token) os s ↔
      ((os 0).fault = none → record.revokedAt = none → (os 1).now ≤ record.expiresAt →
        (os 3).fault = none →
        IssuesTokens cfg s.refreshTokens record.userId fun n => os (n + 4)) := by
    refine ((session_before ⟨rfl, rfl⟩).trans (exec_forall (by simp) (findToken_answer _ _))).trans
      (forall_congr' fun _ => ?_)
    rw [AuthService.hashRefreshToken, hfind, Option.bind_some, huser, Option.map_some]
    by_cases hrevoked : record.revokedAt.isSome = true
    · -- the reuse signal ends in a 401
      refine iff_of_true ?_ fun hactive => ?_
      · refine (Prog.AllOrNothing.pos_iff hrevoked).mpr (session_now.mpr ?_)
        exact (session_before ⟨rfl, rfl⟩).mpr fun _ _ _ => session_reject rfl
      · rw [hactive] at hrevoked
        cases hrevoked
    · have hactive : record.revokedAt = none := by simpa using hrevoked
      refine Iff.trans ?_ (imp_iff_right hactive).symm
      refine (Prog.AllOrNothing.neg_iff hrevoked).trans (session_now.trans ?_)
      by_cases hexpired : record.expiresAt < (os 1).now
      · refine iff_of_true ?_ fun hunexpired => absurd hexpired (not_lt.mpr hunexpired)
        exact (Prog.AllOrNothing.pos_iff hexpired).mpr (session_reject rfl)
      · refine Iff.trans ?_ (imp_iff_right (not_lt.mp hexpired)).symm
        refine (Prog.AllOrNothing.neg_iff hexpired).trans (session_now.trans ?_)
        refine ((session_before ⟨rfl, rfl⟩).trans (exec_forall (by simp) hrevokes)).trans
          (forall_congr' fun _ => ?_)
        rw [hid]
        exact (issueTokens_after (fun n => hos (n + 4)) (tokens_differ hrecord hactive) huser).trans
          (issuesTokens_update (g := .revoke (os 2).now) fun _ _ => rfl)
  exact hchain.trans
    ⟨fun h hin => h hin.looked hin.active hin.unexpired hin.stored,
      fun h hlooked hactive hunexpired hstored =>
        h ⟨hlooked, ⟨user, hmem, hid⟩, hactive, hunexpired, hstored⟩⟩

/-- A refresh that finds no token, or none of a user, reads only. -/
theorem refresh_leaves_unknown {token : String}
    (hnone : (s.refreshTokens.find? fun r => r.tokenHash == .sha256 token).bind (fun r =>
      (s.users.find? fun u => u.id == r.userId).map fun u => (r, u)) = none) :
    SessionAllOrNothing (AuthService.refresh cfg token) os s := by
  refine (session_before ⟨rfl, rfl⟩).mpr
    ((exec_forall (by simp) (findToken_answer _ _)).mpr fun _ => ?_)
  rw [AuthService.hashRefreshToken, hnone]
  exact session_reject rfl

theorem refresh_leaves {token : String} (hos : ∀ n, (os n).Foreign) :
    SessionAllOrNothing (AuthService.refresh cfg token) os s ↔
      ∀ record ∈ s.refreshTokens, record.tokenHash = .sha256 token → RevokesPresented s record os →
        IssuesTokens cfg s.refreshTokens record.userId fun n => os (n + 4) := by
  cases hfind : s.refreshTokens.find? fun r => r.tokenHash == .sha256 token with
  | none =>
      refine iff_of_true (refresh_leaves_unknown (by rw [hfind]; rfl)) fun record hrecord hhash => ?_
      have hother := Table.find?_eq_none.mp hfind record hrecord
      exact absurd hhash (by simpa using hother)
  | some record =>
      refine Iff.trans ?_ (Table.forall_iff_of_find? RefreshToken.tokenHash
        (fun a b h => by simp [Indexed.clash, h]) hfind).symm
      cases huser : s.users.find? fun u => u.id == record.userId with
      | none =>
          refine iff_of_true (refresh_leaves_unknown (by rw [hfind, Option.bind_some, huser]; rfl)) ?_
          intro hin
          obtain ⟨user, hmem, hid⟩ := hin.owned
          exact absurd hid (by simpa using Table.find?_eq_none.mp huser user hmem)
      | some user => exact refresh_leaves_record hos hfind huser

end

/-! ## The exact condition -/

/-- **When the session operations are all-or-nothing**: a login always; a
registration and a refresh exactly when, once they have written, the tokens
come to be issued. -/
theorem session_operations_all_or_nothing (cfg : AppConfig) (s : Store) {os : Nat → Ambient}
    (hos : ∀ n, (os n).Foreign) :
    (∀ email password, SessionAllOrNothing (AuthService.register cfg email password) os s ↔
      (InsertsUser s email os →
        IssuesTokens cfg s.refreshTokens (os 2).fresh fun n => os (n + 3))) ∧
    (∀ email password, SessionAllOrNothing (AuthService.login cfg email password) os s) ∧
    ∀ token, SessionAllOrNothing (AuthService.refresh cfg token) os s ↔
      ∀ record ∈ s.refreshTokens, record.tokenHash = .sha256 token → RevokesPresented s record os →
        IssuesTokens cfg s.refreshTokens record.userId fun n => os (n + 4) :=
  ⟨fun _ _ => register_leaves hos, fun _ _ => login_leaves, fun _ => refresh_leaves hos⟩

/-- The statement with this number fails, in an environment that generates
`fresh` otherwise. -/
def failingAt (n : Nat) (fresh : String) (k : Nat) : Ambient :=
  { (Ambient.quiet k).generating fresh with
    fault := if k = n then some (.error "signing failed") else none }

/-- `user-1` with the refresh token `token-1`. -/
def sampleSignedIn : Store :=
  { Store.empty with
    users := ⟨[⟨"user-1", "amina@example.com", "hash-1", .USER⟩], by decide⟩
    refreshTokens := ⟨[⟨"rt-1", "user-1", .sha256 "token-1", 5000, none⟩], by decide⟩ }

/-- The hash cannot be computed: nothing is written, and the registration is
all-or-nothing; so is a refresh whose revocation fails. -/
theorem session_operations_all_or_nothing_sample :
    SessionAllOrNothing (AuthService.register sampleConfig "amina@example.com" "a-password")
      (failingAt 1 "new") .empty ∧
    SessionAllOrNothing (AuthService.refresh sampleConfig "token-1") (failingAt 3 "new")
      sampleSignedIn := by
  have hos : ∀ n k, ((failingAt n "new") k).Foreign := by
    intro n k e he
    simp only [failingAt, Option.mem_def] at he
    split at he <;> cases he
    rfl
  refine ⟨((session_operations_all_or_nothing sampleConfig .empty (hos 1)).1 _ _).mpr fun hin => ?_,
    ((session_operations_all_or_nothing sampleConfig sampleSignedIn (hos 3)).2.2 _).mpr
      fun _ _ _ hin => ?_⟩
  · exact absurd hin.hashed (by simp [failingAt])
  · exact absurd hin.stored (by simp [failingAt])

/-- Signing fails after the insert of the user, and after the revocation of the
presented token. -/
theorem session_operations_tear :
    ¬ SessionAllOrNothing (AuthService.register sampleConfig "amina@example.com" "a-password")
        (failingAt 3 "new") .empty ∧
    ¬ SessionAllOrNothing (AuthService.refresh sampleConfig "token-1") (failingAt 4 "new")
        sampleSignedIn := by
  constructor
  · intro hall
    obtain ⟨husers, -⟩ := hall (.error "signing failed") (by decide +kernel) rfl
    exact absurd husers (by decide +kernel)
  · intro hall
    obtain ⟨-, htokens⟩ := hall (.error "signing failed") (by decide +kernel) rfl
    exact absurd htokens (by decide +kernel)

end StreamingService
