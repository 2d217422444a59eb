import StreamingService.Auth.Reuse
import StreamingService.Frontend.ApiClient

/-!
# Frontend — Refresh

One refresh in a fair environment: nothing fails, generated values are new,
the clock stays within a refresh token's lifetime, and the tokens issued
verify. A refresh that meets its token unrevoked and unexpired then answers
a new pair.
-/

namespace StreamingService

open Lib

namespace ApiClient

/-! ## Live tokens -/

theorem exec_knows (o : Ambient) (c : Cmd) {s : Store} {userId : String}
    (h : ∃ u ∈ s.users, u.id = userId) : ∃ u ∈ (exec o c s).2.users, u.id = userId := by
  cases c with
  | account c =>
      apply exec_cases (P := fun out => ∃ u ∈ out.2.users, u.id = userId) (fun _ => h)
      obtain ⟨u, hu, hid⟩ := h
      cases c with
      | createUser email passwordHash =>
          simp only [answer, AccountStmt.answer]
          split
          · exact ⟨u, hu, hid⟩
          · rename_i us hins
            exact ⟨u, (Table.mem_insert? hins).mpr (.inl hu), hid⟩
      | findToken tokenHash =>
          simp only [answer, AccountStmt.answer]
          split <;> exact ⟨u, hu, hid⟩
      | revokeToken id revokedAt =>
          simp only [answer, AccountStmt.answer]
          split <;> exact ⟨u, hu, hid⟩
      | createToken userId' tokenHash expiresAt =>
          simp only [answer, AccountStmt.answer]
          split
          · exact ⟨u, hu, hid⟩
          · split
            · exact ⟨u, hu, hid⟩
            · split <;> exact ⟨u, hu, hid⟩
      | _ => exact ⟨u, hu, hid⟩
  | _ =>
      rw [((exec_frame o s _).accounts (by simp)).1]
      exact h

/-- The token's row and its user are stored, and it does not expire before `t`. -/
def Unexpired (t : Millis) (token : String) (s : Store) : Prop :=
  ∃ r ∈ s.refreshTokens, r.tokenHash = AuthService.hashRefreshToken token ∧ t ≤ r.expiresAt ∧
    ∃ u ∈ s.users, u.id = r.userId

def Unrevoked (token : String) (s : Store) : Prop :=
  ∃ r ∈ s.refreshTokens, r.tokenHash = AuthService.hashRefreshToken token ∧ r.revokedAt = none

theorem Unexpired.exec {t : Millis} {token : String} {s : Store} (h : Unexpired t token s)
    (o : Ambient) (c : Cmd) : Unexpired t token (exec o c s).2 := by
  obtain ⟨r, hr, hhash, ht, huser⟩ := h
  obtain ⟨r', hr', hlater⟩ := exec_tokensKept o c s r hr
  exact ⟨r', hr', hlater.tokenHash.trans hhash, by rw [hlater.expiresAt]; exact ht,
    by rw [hlater.userId]; exact exec_knows o c huser⟩

/-- The statements that may revoke the token. -/
def Revokes (token : String) (s : Store) : Cmd → Prop
  | .account (.revokeAllOfUser _ _) | .account (.revokeByHash _ _) => True
  | .account (.revokeToken id _) =>
      ∃ r ∈ s.refreshTokens, r.id = id ∧ r.tokenHash = AuthService.hashRefreshToken token
  | _ => False

/-- **Only a revocation revokes.** -/
theorem Unrevoked.exec {token : String} {s : Store} (h : Unrevoked token s) (o : Ambient) (c : Cmd)
    (hc : ¬ Revokes token s c) : Unrevoked token (exec o c s).2 := by
  obtain ⟨r, hr, hhash, hactive⟩ := h
  refine ⟨r, (exec_tokenStep o c s).unrevoked hr ?_, hhash, hactive⟩
  rw [← Bool.not_eq_true]
  intro hrevokes
  refine hc ?_
  unfold revokes at hrevokes
  split at hrevokes
  · rename_i id revokedAt u heq
    obtain ⟨rfl, -⟩ := Sigma.mk.inj_iff.mp heq
    have hid : id = r.id := by simpa using hrevokes
    exact ⟨r, hr, hid.symm, hhash⟩
  · rename_i heq
    obtain ⟨rfl, -⟩ := Sigma.mk.inj_iff.mp heq
    trivial
  · rename_i heq
    obtain ⟨rfl, -⟩ := Sigma.mk.inj_iff.mp heq
    trivial
  · cases hrevokes

/-! ## Fair environments -/

/-- The payload a statement signs. -/
def signs : Cmd → Option JwtAccessPayload
  | .service (.signJwt payload) => some payload
  | _ => none

/-- The statements that answer a generated text the browser gets to see. -/
def generates : Cmd → Bool
  | .service (.signJwt _) | .service .randomBytes => true
  | _ => false

/-- How long a refresh token lives. -/
def refreshLifetime (cfg : AppConfig) : Int := AuthService.parseDurationToMs cfg.jwt.refreshTtl

/-- The environment of one statement is fair up to `t`: nothing fails, a token
issued now is alive until `t`, what is generated is a new text, and access
tokens verify. -/
structure Fair (cfg : AppConfig) (verify : String → Option JwtAccessPayload) (t : Millis)
    (s : Store) (o : Ambient) (c : Cmd) : Prop where
  fault : o.fault = none
  clock : o.now ≤ t
  lifetime : t ≤ o.now + refreshLifetime cfg
  text : generates c = true → o.fresh ≠ ""
  verifies : ∀ payload ∈ signs c, verify o.fresh = some payload
  inserts : issues c = true → (exec o c s).1.isOk = true

instance (cfg : AppConfig) (verify : String → Option JwtAccessPayload) (t : Millis) (s : Store)
    (o : Ambient) (c : Cmd) : Decidable (Fair cfg verify t s o c) :=
  decidable_of_iff (o.fault = none ∧ o.now ≤ t ∧ t ≤ o.now + refreshLifetime cfg ∧
      (generates c = true → o.fresh ≠ "") ∧ (∀ payload ∈ signs c, verify o.fresh = some payload) ∧
      (issues c = true → (exec o c s).1.isOk = true))
    ⟨fun h => ⟨h.1, h.2.1, h.2.2.1, h.2.2.2.1, h.2.2.2.2.1, h.2.2.2.2.2⟩,
      fun h => ⟨h.fault, h.clock, h.lifetime, h.text, h.verifies, h.inserts⟩⟩

/-- The statements a fair environment always answers, once the rows they name
are there. -/
def answersAlways : Cmd → Bool
  | .now | .service _ => true
  | .account (.findToken _) | .account (.findUserWithActive _) => true
  | .account (.createToken _ _ _) | .account (.revokeToken _ _) => true
  | _ => false

/-- What such an answer shows. -/
def Shows (cfg : AppConfig) (verify : String → Option JwtAccessPayload) (t : Millis) (s : Store) :
    Prog.Entry Sig → Prop
  | ⟨.now, .ok (instant : Millis)⟩ => instant ≤ t ∧ t ≤ instant + refreshLifetime cfg
  | ⟨.account (.findToken _), .ok found⟩ => ∃ (record : RefreshToken) (user : User),
      found = some (record, user) ∧ record.revokedAt = none ∧ t ≤ record.expiresAt ∧
        ∃ u ∈ s.users, u.id = user.id
  | ⟨.account (.findUserWithActive _), .ok found⟩ => found ≠ none
  | ⟨.account (.createToken _ tokenHash expiresAt), .ok row⟩ => row.tokenHash = tokenHash ∧
      expiresAt = some row.expiresAt ∧ ∃ u ∈ s.users, u.id = row.userId
  | ⟨.service (.signJwt payload), .ok token⟩ => token ≠ "" ∧ verify token = some payload
  | ⟨.service .randomBytes, .ok token⟩ => token ≠ ""
  | _ => True

/-- An answer in a fair environment, when every refresh meets its token
unrevoked. -/
structure FairAnswer (cfg : AppConfig) (verify : String → Option JwtAccessPayload) (t : Millis)
    (s : Store) (e : Prog.Entry Sig) : Prop where
  refused : ∀ x, e.2 = .error x → ∃ p, x = .prisma p
  answered : answersAlways e.1 = true → ∀ x, e.2 ≠ .error x
  shows : Shows cfg verify t s e

section

variable {cfg : AppConfig} {verify : String → Option JwtAccessPayload} {t : Millis} {s : Store}
  {o : Ambient}

theorem FairAnswer.calm {e : Prog.Entry Sig} (h : FairAnswer cfg verify t s e) : CalmAnswer e := by
  refine ⟨?_, ?_⟩
  · intro x hx
    obtain ⟨p, rfl⟩ := h.refused x hx
    simp [Exception.status]
  · rintro id rfl
    exact h.shows rfl

/-- A statement that has answered. -/
theorem FairAnswer.ok {c : Cmd} {a : c.Resp} (h : Shows cfg verify t s ⟨c, .ok a⟩) :
    FairAnswer cfg verify t s ⟨c, .ok a⟩ :=
  ⟨fun x hx => (by cases hx), fun _ x hx => (by cases hx), h⟩

theorem FairAnswer.not_error {c : Cmd} {x : Exception} {α : Prop}
    (h : FairAnswer cfg verify t s ⟨c, .error x⟩) (hc : answersAlways c = true) : α :=
  absurd rfl (h.answered hc x)

theorem FairAnswer.exec {e : Prog.Entry Sig} (h : FairAnswer cfg verify t s e) (o : Ambient)
    (c : Cmd) : FairAnswer cfg verify t (exec o c s).2 e where
  refused := h.refused
  answered := h.answered
  shows := by
    have hshows := h.shows
    unfold Shows at hshows ⊢
    split at hshows
    · exact hshows
    · obtain ⟨record, user, hfound, hactive, ht, huser⟩ := hshows
      exact ⟨record, user, hfound, hactive, ht, exec_knows o c huser⟩
    · exact hshows
    · exact ⟨hshows.1, hshows.2.1, exec_knows o c hshows.2.2⟩
    all_goals exact hshows

/-- The rows a statement of a refresh or a profile names are there. -/
def NamesStored (t : Millis) (s : Store) : Cmd → Prop
  | .account (.findToken tokenHash) => ∃ r ∈ s.refreshTokens, r.tokenHash = tokenHash ∧
      r.revokedAt = none ∧ t ≤ r.expiresAt ∧ ∃ u ∈ s.users, u.id = r.userId
  | .account (.revokeToken id _) => ∃ r ∈ s.refreshTokens, r.id = id
  | .account (.findUserWithActive id) => ∃ u ∈ s.users, u.id = id
  | _ => True

theorem findToken_stored {tokenHash : TokenHash}
    (h : NamesStored t s (.account (.findToken tokenHash))) :
    ∃ record user, (answer o (.account (.findToken tokenHash)) s).1 = .ok (some (record, user)) ∧
      record.revokedAt = none ∧ t ≤ record.expiresAt ∧ ∃ u ∈ s.users, u.id = user.id := by
  obtain ⟨r, hr, hhash, hactive, ht, u, hu, hid⟩ := h
  have hrow : (s.refreshTokens.find? fun r => r.tokenHash == tokenHash) = some r :=
    refreshTokens_find_hash? hr hhash
  have huser : (s.users.find? fun u => u.id == r.userId) = some u := users_find? hu hid
  refine ⟨r, u, ?_, hactive, ht, u, hu, rfl⟩
  simp only [answer, AccountStmt.answer, hrow, huser]
  rfl

/-- **One fair statement.** -/
theorem exec_fair {c : Cmd} (hfair : Fair cfg verify t s o c) (hnames : NamesStored t s c) :
    FairAnswer cfg verify t (exec o c s).2 ⟨c, (exec o c s).1⟩ := by
  rw [exec_answer hfair.fault]
  have refused : ∀ x, (answer o c s).1 = .error x → ∃ p, x = .prisma p := fun x hx => answer_error hx
  cases c with
  | now =>
      exact .ok ⟨hfair.clock, hfair.lifetime⟩
  | service c =>
      cases c with
      | signJwt payload =>
          exact .ok ⟨hfair.text rfl, hfair.verifies payload rfl⟩
      | randomBytes => exact .ok (hfair.text rfl)
      | _ => exact .ok trivial
  | account c =>
      cases c with
      | findToken tokenHash =>
          obtain ⟨record, user, hok, hactive, ht, huser⟩ := findToken_stored (o := o) hnames
          have huser' := exec_knows o (.account (.findToken tokenHash)) huser
          rw [exec_answer hfair.fault] at huser'
          rw [hok]
          exact .ok ⟨record, user, rfl, hactive, ht, huser'⟩
      | findUserWithActive id =>
          obtain ⟨u, hu, hid⟩ := hnames
          obtain ⟨u', hu'⟩ := Table.find?_isSome (p := fun u : User => u.id == id) hu (beq_iff_eq.mpr hid)
          refine .ok ?_
          intro hnone
          have hmissing := Option.map_eq_none_iff.mp hnone
          rw [hu'] at hmissing
          cases hmissing
      | revokeToken id revokedAt =>
          obtain ⟨r, hr, hid⟩ := hnames
          obtain ⟨r', hr'⟩ := Table.find?_isSome (p := fun r : RefreshToken => r.id == id) hr
            (beq_iff_eq.mpr hid)
          simp only [answer, AccountStmt.answer, hr']
          exact .ok trivial
      | createToken userId tokenHash expiresAt =>
          have hinserts := hfair.inserts rfl
          rw [exec_answer hfair.fault] at hinserts
          obtain ⟨row, hok⟩ := Except.exists_of_isOk hinserts
          have hexec : (exec o (.account (.createToken userId tokenHash expiresAt)) s).1 = .ok row := by
            rw [exec_answer hfair.fault, hok]
          have hins := createToken_inserted hexec
          have huser := exec_knows o (.account (.createToken userId tokenHash expiresAt)) hins.user
          rw [exec_answer hfair.fault] at huser
          rw [hok]
          exact .ok ⟨hins.tokenHash, hins.expiresAt, by rw [hins.userId]; exact huser⟩
      | _ => exact ⟨refused, fun hc => (by cases hc), trivial⟩
  | _ => exact ⟨refused, fun hc => (by cases hc), trivial⟩

end

/-! ## The path of a refresh -/

/-- The requests of a browser's session. -/
def ofSession : Request → Bool
  | .refresh (some (.str _)) => true
  | q => q.ofPage

/-- What the statements about tokens and profiles owe to the request and to the
statements before them. -/
def PathStep (cfg : AppConfig) (q : Request) (h : List (Prog.Entry Sig)) (e : Prog.Entry Sig) :
    Prop :=
  match e.1 with
  | .account (.findToken tokenHash) => ∃ token, q = refreshWith token ∧
      tokenHash = AuthService.hashRefreshToken token
  | .account (.revokeToken id _) => ∃ token record user, q = refreshWith token ∧
      ⟨.account (.findToken (AuthService.hashRefreshToken token)), .ok (some (record, user))⟩ ∈ h ∧
      id = record.id
  | .account (.createToken _ _ expiresAt) => ∃ token instant, q = refreshWith token ∧
      ⟨.now, .ok instant⟩ ∈ h ∧ expiresAt = validDate (some (instant + refreshLifetime cfg))
  | .account (.revokeAllOfUser _ _) => ∃ tokenHash record user,
      ⟨.account (.findToken tokenHash), .ok (some (record, user))⟩ ∈ h ∧
        record.revokedAt.isSome = true
  | .account (.revokeByHash _ _) => False
  | .account (.findUserWithActive id) => ∃ payload, q = .me (some payload) ∧ id = payload.sub
  | _ => True

/-- How a refresh ends in a fair environment. -/
def Renewed (verify : String → Option JwtAccessPayload) (r : Except Exception AuthService.AuthTokens)
    (h : List (Prog.Entry Sig)) : Prop :=
  ∃ (tokens : AuthService.AuthTokens) (record : RefreshToken) (user : User) (row : RefreshToken)
    (tokenHash : TokenHash) (expiresAt : Option Millis), r = .ok tokens ∧ tokens.refreshToken ≠ "" ∧
      bearer verify (some tokens.accessToken) = some ⟨user.id, user.email, user.role⟩ ∧
      ⟨.account (.findToken tokenHash), .ok (some (record, user))⟩ ∈ h ∧
      ⟨.account (.createToken user.id (AuthService.hashRefreshToken tokens.refreshToken) expiresAt),
        .ok row⟩ ∈ h

section

variable {cfg : AppConfig} {verify : String → Option JwtAccessPayload} {t : Millis} {token : String}

theorem issueTokens_path {q : Request} {userId email : String} {role : Role}
    {h : List (Prog.Entry Sig)} (hq : q = refreshWith token) :
    (AuthService.issueTokens cfg userId email role).Emits (PathStep cfg q) (fun _ _ => True) h := by
  refine .perform_bind (fun accessToken => ⟨trivial, ?_⟩) fun e => ⟨trivial, trivial⟩
  refine .perform_bind (fun refreshToken => ⟨trivial, ?_⟩) fun e => ⟨trivial, trivial⟩
  refine .perform_bind (fun (instant : Millis) => ⟨trivial, ?_⟩) fun e => ⟨trivial, trivial⟩
  exact .perform_bind (fun row => ⟨⟨token, instant, hq, by simp, rfl⟩, trivial⟩)
    fun e => ⟨⟨token, instant, hq, by simp, rfl⟩, trivial⟩

theorem refresh_path {q : Request} (hq : q = refreshWith token) :
    (AuthService.refresh cfg token).Emits (PathStep cfg q) (fun _ _ => True) [] := by
  refine .perform_bind (fun found => ⟨⟨token, hq, rfl⟩, ?_⟩) fun e => ⟨⟨token, hq, rfl⟩, trivial⟩
  match found with
  | none => trivial
  | some (record, user) =>
      refine .ite (fun hrevoked => ?_) fun _ => ?_
      · refine .perform_bind (fun revokedAt => ⟨trivial, ?_⟩) fun e => ⟨trivial, trivial⟩
        exact .perform_bind
          (fun _ => ⟨⟨AuthService.hashRefreshToken token, record, user, by simp, hrevoked⟩, trivial⟩)
          fun e => ⟨⟨AuthService.hashRefreshToken token, record, user, by simp, hrevoked⟩, trivial⟩
      · refine .perform_bind (fun (instant : Millis) => ⟨trivial, ?_⟩) fun e => ⟨trivial, trivial⟩
        refine .ite (fun _ => trivial) fun _ => ?_
        refine .perform_bind (fun revokedAt => ⟨trivial, ?_⟩) fun e => ⟨trivial, trivial⟩
        exact .perform_bind
          (fun _ => ⟨⟨token, record, user, hq, by simp, rfl⟩, issueTokens_path hq⟩)
          fun e => ⟨⟨token, record, user, hq, by simp, rfl⟩, trivial⟩

theorem getMe_path {payload : JwtAccessPayload} {h : List (Prog.Entry Sig)} :
    (AuthService.getMe payload.sub).Emits (PathStep cfg (.me (some payload)))
      (fun _ _ => True) h := by
  refine .perform_bind (fun found => ⟨⟨payload, rfl, rfl⟩, ?_⟩)
    fun e => ⟨⟨payload, rfl, rfl⟩, trivial⟩
  match found with
  | none => trivial
  | some (user, none) => trivial
  | some (user, some latest) =>
      exact .perform_bind (fun _ => ⟨trivial, trivial⟩) fun e => ⟨trivial, trivial⟩

/-- Whatever is outside the accounts owes nothing. -/
theorem PathStep.of_other {q : Request} {h : List (Prog.Entry Sig)} {e : Prog.Entry Sig}
    (he : ∀ c, e.1 ≠ .account c) : PathStep cfg q h e := by
  unfold PathStep
  split
  all_goals first | exact absurd ‹_› (he _) | trivial

theorem session_path (cfg : AppConfig) (q : Request) :
    (handle cfg q).Emits (fun h e => ofSession q = true → PathStep cfg q h e)
      (fun _ _ => True) [] := by
  have other : (∀ c, Within q.footprint c → ∀ c', c ≠ .account c') →
      (handle cfg q).Emits (fun h e => ofSession q = true → PathStep cfg q h e)
        (fun _ _ => True) [] := fun hpart =>
    .of_calls (handle_calls cfg q) (fun _ _ hc _ => .of_other (hpart _ hc)) fun _ _ => trivial
  have outside : ofSession q = false →
      (handle cfg q).Emits (fun h e => ofSession q = true → PathStep cfg q h e)
        (fun _ _ => True) [] := fun hq =>
    .mono (fun _ _ _ hq' => by rw [hq] at hq'; cases hq') (fun _ _ _ => trivial) (.always _ _)
  cases q with
  | register email password => exact outside rfl
  | login email password => exact outside rfl
  | logout presented => exact outside rfl
  | refresh presented =>
      by_cases hpresented : ∃ token, presented = some (.str token)
      · obtain ⟨token, rfl⟩ := hpresented
        refine .bind (Q := fun _ _ => True) ?_ (fun _ _ _ => trivial) fun _ _ _ => trivial
        exact .ite (fun _ => trivial) fun _ =>
          (refresh_path rfl).mono (fun _ _ hstep _ => hstep) fun _ _ _ => trivial
      · refine outside ?_
        unfold ofSession
        split
        · rename_i token heq
          cases heq
          exact absurd ⟨token, rfl⟩ hpresented
        · rfl
  | me user =>
      refine .mono (fun _ _ hstep _ => hstep) (fun _ _ _ => trivial) ?_
        (P := PathStep cfg (.me user)) (Q := fun _ _ => True)
      cases user with
      | none => trivial
      | some payload =>
          refine emits_guard ?_
          exact .bind getMe_path (fun _ _ _ => trivial) fun _ _ _ => trivial
  | _ =>
      refine other ?_
      rintro c hc c' rfl
      cases hc

/-- A statement that a fair environment always answers has not failed. -/
theorem Renewed.of_failed {c : Cmd} {x : Exception} {h : List (Prog.Entry Sig)}
    {r : Except Exception AuthService.AuthTokens} (hc : answersAlways c = true) :
    ∀ s, (∀ e ∈ (⟨c, .error x⟩ : Prog.Entry Sig) :: h, FairAnswer cfg verify t s e) →
      Renewed verify r (⟨c, .error x⟩ :: h) :=
  fun _ hall => (hall _ List.mem_cons_self).not_error hc

theorem issueTokens_renewed (tokenHash : TokenHash) (record : RefreshToken) {user : User}
    {h : List (Prog.Entry Sig)}
    (hfind : ⟨.account (.findToken tokenHash), .ok (some (record, user))⟩ ∈ h) :
    (AuthService.issueTokens cfg user.id user.email user.role).Emits (fun _ _ => True)
      (fun r h => ∀ s, (∀ e ∈ h, FairAnswer cfg verify t s e) → Renewed verify r h) h := by
  refine .perform_bind (fun (accessToken : String) => ⟨trivial, ?_⟩)
    fun e => ⟨trivial, .of_failed rfl⟩
  refine .perform_bind (fun (refreshToken : String) => ⟨trivial, ?_⟩)
    fun e => ⟨trivial, .of_failed rfl⟩
  refine .perform_bind (fun (instant : Millis) => ⟨trivial, ?_⟩) fun e => ⟨trivial, .of_failed rfl⟩
  refine .perform_bind (fun (row : RefreshToken) => ⟨trivial, ?_⟩)
    fun e => ⟨trivial, .of_failed rfl⟩
  intro s hall
  obtain ⟨hne, hverify⟩ : accessToken ≠ "" ∧
      verify accessToken = some ⟨user.id, user.email, user.role⟩ :=
    (hall ⟨.service (.signJwt ⟨user.id, user.email, user.role⟩), .ok accessToken⟩ (by simp)).shows
  have hrefresh : refreshToken ≠ "" :=
    (hall ⟨.service .randomBytes, .ok refreshToken⟩ (by simp)).shows
  exact ⟨_, record, user, row, tokenHash, _, rfl, hrefresh, (bearer_some hne).trans hverify,
    by simp [hfind], List.mem_cons_self⟩

/-- **A refresh in a fair environment answers a new pair.** -/
theorem refresh_renewed :
    (AuthService.refresh cfg token).Emits (fun _ _ => True)
      (fun r h => ∀ s, (∀ e ∈ h, FairAnswer cfg verify t s e) → Renewed verify r h) [] := by
  refine .perform_bind (fun found => ⟨trivial, ?_⟩) fun e => ⟨trivial, .of_failed rfl⟩
  match found with
  | none =>
      intro s hall
      obtain ⟨record, user, hfound, -⟩ := (hall _ List.mem_cons_self).shows
      cases hfound
  | some (record, user) =>
      have shown : ∀ s (h' : List (Prog.Entry Sig)), (∀ e ∈ h', FairAnswer cfg verify t s e) →
          (⟨.account (.findToken (AuthService.hashRefreshToken token)), .ok (some (record, user))⟩ :
            Prog.Entry Sig) ∈ h' → record.revokedAt = none ∧ t ≤ record.expiresAt := by
        intro s h' hall hmem
        obtain ⟨record', user', hfound, hactive, ht, -⟩ := (hall _ hmem).shows
        cases hfound
        exact ⟨hactive, ht⟩
      refine .ite (fun hrevoked => ?_) fun _ => ?_
      · -- a revoked row is not what it met
        have fair : ∀ r s (h' : List (Prog.Entry Sig)), (∀ e ∈ h', FairAnswer cfg verify t s e) →
            (⟨.account (.findToken (AuthService.hashRefreshToken token)),
              .ok (some (record, user))⟩ : Prog.Entry Sig) ∈ h' → Renewed verify r h' := by
          intro r s h' hall hmem
          obtain ⟨hactive, -⟩ := shown s h' hall hmem
          rw [hactive] at hrevoked
          cases hrevoked
        refine .perform_bind (fun revokedAt => ⟨trivial, ?_⟩) fun e => ⟨trivial, .of_failed rfl⟩
        exact .perform_bind (fun _ => ⟨trivial, fun s hall => fair _ s _ hall (by simp)⟩)
          fun e => ⟨trivial, fun s hall => fair _ s _ hall (by simp)⟩
      · refine .perform_bind (fun (instant : Millis) => ⟨trivial, ?_⟩)
          fun e => ⟨trivial, .of_failed rfl⟩
        refine .ite (fun hexpired s hall => ?_) fun _ => ?_
        · -- nor is an expired one
          obtain ⟨-, ht⟩ := shown s _ hall (by simp)
          obtain ⟨hinstant, -⟩ : instant ≤ t ∧ t ≤ instant + refreshLifetime cfg :=
            (hall ⟨.now, .ok instant⟩ (by simp)).shows
          exact absurd (Int.le_trans hinstant ht) (Int.not_le.mpr hexpired)
        · refine .perform_bind (fun revokedAt => ⟨trivial, ?_⟩) fun e => ⟨trivial, .of_failed rfl⟩
          refine .perform_bind (fun _ => ⟨trivial, ?_⟩) fun e => ⟨trivial, .of_failed rfl⟩
          exact issueTokens_renewed (AuthService.hashRefreshToken token) record (by simp)

/-- So does its handler. -/
theorem handle_renewed (htoken : token ≠ "") :
    (handle cfg (refreshWith token)).Emits (fun _ _ => True)
      (fun r h => ∀ s, (∀ e ∈ h, FairAnswer cfg verify t s e) →
        ∃ tokens, r = .ok (.tokens tokens) ∧ Renewed verify (.ok tokens) h) [] := by
  refine .bind (Q := fun r h => ∀ s, (∀ e ∈ h, FairAnswer cfg verify t s e) → Renewed verify r h)
    ?_ ?_ ?_
  · refine .ite (fun hmissing => ?_) fun _ => refresh_renewed
    simp [JsVal.truthy, htoken] at hmissing
  · intro tokens h hrenewed s hall
    exact ⟨tokens, rfl, hrenewed s hall⟩
  · intro x h hrenewed s hall
    obtain ⟨tokens, -, -, -, -, -, hr, -⟩ := hrenewed s hall
    cases hr

end

/-- How the handlers end: a refresh with a token. -/
theorem renewed_path (cfg : AppConfig) (verify : String → Option JwtAccessPayload) (t : Millis)
    (q : Request) :
    (handle cfg q).Emits (fun _ _ => True)
      (fun r h => ∀ token, q = refreshWith token → token ≠ "" → ∀ s,
        (∀ e ∈ h, FairAnswer cfg verify t s e) →
          ∃ tokens, r = .ok (.tokens tokens) ∧ Renewed verify (.ok tokens) h) [] := by
  by_cases hq : ∃ token, q = refreshWith token ∧ token ≠ ""
  · obtain ⟨token, rfl, hne⟩ := hq
    refine (@handle_renewed cfg verify t token hne).mono (fun _ _ h => h) ?_
    intro r h hr token' heq _
    cases heq
    exact hr
  · exact .mono (fun _ _ h => h)
      (fun r h _ token heq hne => absurd ⟨token, heq, hne⟩ hq) (.always _ _)

/-- And a page's request with a verified bearer. -/
theorem page_path (cfg : AppConfig) (q : Request) :
    (handle cfg q).Emits (fun _ _ => True)
      (fun r h => ∀ q₀ user, q = Request.withUser user q₀ → q₀.ofPage = true → user.isSome = true →
        (∀ e ∈ h, CalmAnswer e) → ∀ e, r = .error e → e.status ≠ 401) [] := by
  by_cases hq : ∃ q₀ user, q = Request.withUser user q₀ ∧ q₀.ofPage = true ∧ user.isSome = true
  · obtain ⟨q₀, user, rfl, hpage, huser⟩ := hq
    exact ((page_authorized cfg hpage fun _ => huser).emits []).mono (fun _ _ h => h)
      fun r h hr q₁ user' _ _ _ => hr
  · exact .mono (fun _ _ h => h)
      (fun r h _ q₀ user heq hpage huser => absurd ⟨q₀, user, heq, hpage, huser⟩ hq) (.always _ _)

end ApiClient

end StreamingService
