import Mathlib.Logic.Relation
import StreamingService.Auth.Tokens

/-!
# Auth — Rotation

The family of a session: the token a login or registration issued, and the
successors refreshes issued for it. A refresh reads the presented row,
checks `revokedAt` in memory and revokes the row by id in a later statement,
so two refreshes of one token can both pass the check. As long as no row is
spent twice, the family is a chain with at most its last token unrevoked;
two refreshes that overlap fork it.
-/

namespace StreamingService

open Lib

/-! ## Issuing and spending -/

/-- The row an accepted `createToken` issued. -/
def created : Prog.Entry Sig → Option RefreshToken
  | ⟨.account (.createToken _ _ _), .ok row⟩ => some row
  | _ => none

/-- The row an accepted `revokeToken` spent. -/
def spent : Prog.Entry Sig → Option String
  | ⟨.account (.revokeToken id _), .ok _⟩ => some id
  | _ => none

def spends : Event Sig Request → Option String
  | .began _ _ => none
  | .did _ e => spent e

/-- The thread that issued a row. -/
def issuer : Event Sig Request → Option Nat
  | .began _ _ => none
  | .did tid e => (created e).map fun _ => tid

/-- The rows a thread has issued. -/
def issuedBy (tid : Nat) (tr : Trace) : List RefreshToken :=
  (own tid tr).filterMap created

def Request.beginsSession : Request → Bool
  | .register _ _ | .login _ _ => true
  | _ => false

/-- A request to refresh with this token. -/
def refreshWith (token : String) : Request := .refresh (some (.str token))

/-- The row descends from the login or registration `root`: issued by it, or
by a refresh that presented a token descending from it. -/
inductive Descends (tr : Trace) (root : Nat) : RefreshToken → Prop
  | issued {q : Request} {row : RefreshToken} (hbegan : Event.began root q ∈ tr)
      (hq : q.beginsSession = true) (hrow : row ∈ issuedBy root tr) : Descends tr root row
  | rotated {row row' : RefreshToken} {tid : Nat} {token : String} (h : Descends tr root row)
      (hbegan : Event.began tid (refreshWith token) ∈ tr)
      (htoken : row.tokenHash = AuthService.hashRefreshToken token)
      (hrow : row' ∈ issuedBy tid tr) : Descends tr root row'

/-- The condition on a step: an accepted `revokeToken` spends a row that none
before it has spent. -/
def spendsOnce (sys : AppState) : Action Ambient Request → Prop
  | .begin _ => True
  | .step tid o => ∀ c, sys.pending tid = some c → ∀ id, spent ⟨c, (exec o c sys.store).1⟩ = some id →
      ∀ ev ∈ sys.trace, spends ev ≠ some id

instance (sys : AppState) (act : Action Ambient Request) : Decidable (spendsOnce sys act) :=
  match act with
  | .begin _ => isTrue trivial
  | .step tid o => inferInstanceAs (Decidable (∀ c ∈ sys.pending tid,
      ∀ id ∈ spent ⟨c, (exec o c sys.store).1⟩, ∀ ev ∈ sys.trace, spends ev ≠ some id))

/-! ## The path of a refresh -/

/-- The handler found the presented token's row and spent it. -/
def Rotates (token : String) (h : List (Prog.Entry Sig)) : Prop :=
  ∃ (record : RefreshToken) (user : User) (e : Prog.Entry Sig),
    ⟨.account (.findToken (AuthService.hashRefreshToken token)), .ok (some (record, user))⟩ ∈ h ∧
      e ∈ h ∧ spent e = some record.id

theorem Rotates.mono {token : String} {h h' : List (Prog.Entry Sig)} (hr : Rotates token h)
    (hsub : ∀ e ∈ h, e ∈ h') : Rotates token h' := by
  obtain ⟨record, user, e, hfind, he, hspent⟩ := hr
  exact ⟨record, user, e, hsub _ hfind, hsub _ he, hspent⟩

/-- What an insert of a token owes to the statements before it: it is the
handler's first, and a refresh has spent the presented row. -/
def SessionStep (q : Request) (h : List (Prog.Entry Sig)) (e : Prog.Entry Sig) : Prop :=
  (created e).isSome = true →
    (∀ e' ∈ h, created e' = none) ∧ ∀ token, q = refreshWith token → Rotates token h

/-- How a request ends: a refresh that answers tokens has spent the presented
row. -/
def SessionEnd (q : Request) (r : Except Exception Reply) (h : List (Prog.Entry Sig)) : Prop :=
  ∀ token tokens, q = refreshWith token → r = .ok (.tokens tokens) → Rotates token h

theorem created_error (c : Cmd) (e : Exception) : created ⟨c, .error e⟩ = none := by
  cases c with
  | account c => cases c <;> rfl
  | _ => rfl

/-- A row once issued is stored. -/
theorem TokenAnswer.of_created {s : Store} {e : Prog.Entry Sig} {row : RefreshToken}
    (h : TokenAnswer s e) (hcreated : created e = some row) : row.StoredIn s := by
  unfold created at hcreated
  split at hcreated
  · cases hcreated
    exact h
  · cases hcreated

/-- The statement that issues tokens. -/
def issues : Cmd → Bool
  | .account (.createToken _ _ _) => true
  | _ => false

theorem issues_of_created {e : Prog.Entry Sig} (h : (created e).isSome = true) :
    issues e.1 = true := by
  unfold created at h
  split at h
  · rfl
  · cases h

section

variable {cfg : AppConfig} {q : Request} {h : List (Prog.Entry Sig)}

theorem SessionStep.quiet {c : Cmd} (r : Except Exception c.Resp) (hc : issues c = false) :
    SessionStep q h ⟨c, r⟩ := by
  intro hsome
  rw [issues_of_created hsome] at hc
  cases hc

/-- A handler that issues nothing. -/
theorem session_of_calls {α : Type} {p : App α} {R : Except Exception α → List (Prog.Entry Sig) → Prop}
    (hp : p.Calls fun c => issues c = false) (hR : ∀ r h, R r h) : p.Emits (SessionStep q) R h :=
  .of_calls hp (fun _ e he => SessionStep.quiet e.2 he) hR

theorem issueTokens_emits {userId email : String} {role : Role}
    (hnone : ∀ e ∈ h, created e = none) (hrot : ∀ token, q = refreshWith token → Rotates token h) :
    (AuthService.issueTokens cfg userId email role).Emits (SessionStep q)
      (fun _ h' => ∀ e ∈ h, e ∈ h') h := by
  refine .mono (fun _ _ hstep => hstep) (fun _ _ hend => hend.2)
    (Prog.Emits.grows (Q := fun _ _ => True) ?_)
  refine .perform_bind (fun accessToken => ⟨.quiet _ rfl, ?_⟩) fun e => ⟨.quiet _ rfl, trivial⟩
  refine .perform_bind (fun refreshToken => ⟨.quiet _ rfl, ?_⟩) fun e => ⟨.quiet _ rfl, trivial⟩
  refine .perform_bind (fun instant => ⟨.quiet _ rfl, ?_⟩) fun e => ⟨.quiet _ rfl, trivial⟩
  -- the insert: the three statements before it issue nothing
  refine .perform_bind (fun row => ⟨fun _ => ⟨?_, ?_⟩, trivial⟩)
    fun e => ⟨?_, trivial⟩
  · intro e' he'
    rcases List.mem_cons.mp he' with rfl | he'
    · rfl
    · rcases List.mem_cons.mp he' with rfl | he'
      · rfl
      · rcases List.mem_cons.mp he' with rfl | he'
        · rfl
        · exact hnone e' he'
  · intro token htoken
    exact (hrot token htoken).mono fun e he => by simp [he]
  · intro hsome
    rw [created_error] at hsome
    cases hsome

theorem register_emits {email password : String} (hq : ∀ token, q ≠ refreshWith token) :
    (AuthService.register cfg email password).Emits (SessionStep q) (fun _ _ => True) [] := by
  refine .perform_bind (fun existing => ⟨.quiet _ rfl, ?_⟩) fun e => ⟨.quiet _ rfl, trivial⟩
  refine .ite (fun _ => trivial) fun _ => ?_
  refine .perform_bind (fun passwordHash => ⟨.quiet _ rfl, ?_⟩) fun e => ⟨.quiet _ rfl, trivial⟩
  refine .perform_bind (fun user => ⟨.quiet _ rfl, ?_⟩) fun e => ⟨.quiet _ rfl, trivial⟩
  refine .bind (issueTokens_emits ?_ fun token htoken => absurd htoken (hq token))
    (fun _ _ _ => trivial) fun _ _ _ => trivial
  intro e he
  simp only [List.mem_cons, List.not_mem_nil, or_false] at he
  rcases he with rfl | rfl | rfl <;> rfl

theorem login_emits {email password : String} (hq : ∀ token, q ≠ refreshWith token) :
    (AuthService.login cfg email password).Emits (SessionStep q) (fun _ _ => True) [] := by
  refine .perform_bind (fun user => ⟨.quiet _ rfl, ?_⟩) fun e => ⟨.quiet _ rfl, trivial⟩
  match user with
  | none => trivial
  | some user =>
      refine .perform_bind (fun passwordMatches => ⟨.quiet _ rfl, ?_⟩)
        fun e => ⟨.quiet _ rfl, trivial⟩
      refine .ite (fun _ => trivial) fun _ => ?_
      refine .bind (issueTokens_emits ?_ fun token htoken => absurd htoken (hq token))
        (fun _ _ _ => trivial) fun _ _ _ => trivial
      intro e he
      simp only [List.mem_cons, List.not_mem_nil, or_false] at he
      rcases he with rfl | rfl <;> rfl

/-- A refresh that answers tokens has spent the presented row before it issued
the successor. -/
theorem refresh_emits {token : String} :
    (AuthService.refresh cfg token).Emits (SessionStep (refreshWith token))
      (fun r h => ∀ tokens, r = .ok tokens → Rotates token h) [] := by
  refine .perform_bind (fun found => ⟨.quiet _ rfl, ?_⟩)
    fun e => ⟨.quiet _ rfl, fun _ hr => nomatch hr⟩
  match found with
  | none => exact fun _ hr => nomatch hr
  | some (record, user) =>
      refine .ite (fun _ => ?_) fun _ => ?_
      · -- the reuse signal ends in a 401
        refine .perform_bind (fun revokedAt => ⟨.quiet _ rfl, ?_⟩)
          fun e => ⟨.quiet _ rfl, fun _ hr => nomatch hr⟩
        exact .perform_bind (fun _ => ⟨.quiet _ rfl, fun _ hr => nomatch hr⟩)
          fun e => ⟨.quiet _ rfl, fun _ hr => nomatch hr⟩
      · refine .perform_bind (fun (instant : Millis) => ⟨.quiet _ rfl, ?_⟩)
          fun e => ⟨.quiet _ rfl, fun _ hr => nomatch hr⟩
        refine .ite (fun _ _ hr => nomatch hr) fun _ => ?_
        refine .perform_bind (fun revokedAt => ⟨.quiet _ rfl, ?_⟩)
          fun e => ⟨.quiet _ rfl, fun _ hr => nomatch hr⟩
        refine .perform_bind (fun u => ⟨.quiet _ rfl, ?_⟩)
          fun e => ⟨.quiet _ rfl, fun _ hr => nomatch hr⟩
        have hrot : Rotates token [⟨.account (.revokeToken record.id revokedAt), .ok u⟩,
            ⟨.now, .ok revokedAt⟩, ⟨.now, .ok instant⟩,
            ⟨.account (.findToken (AuthService.hashRefreshToken token)),
              .ok (some (record, user))⟩] :=
          ⟨record, user, ⟨.account (.revokeToken record.id revokedAt), .ok u⟩, by simp, by simp, rfl⟩
        refine .mono (fun _ _ hstep => hstep) (fun _ _ hsub _ _ => hrot.mono hsub)
          (issueTokens_emits ?_ ?_)
        · intro e he
          simp only [List.mem_cons, List.not_mem_nil, or_false] at he
          rcases he with rfl | rfl | rfl | rfl <;> rfl
        · intro token' htoken
          cases htoken
          exact hrot

end

theorem logout_issues_nothing (presented : JsVal) :
    (AuthController.logout presented).Calls fun c => issues c = false := by
  unfold AuthController.logout
  split
  · refine .ofExcept_bind ?_
    intro token _
    exact .perform_bind rfl fun revokedAt => ⟨rfl, fun _ => trivial⟩
  · trivial

theorem getMe_issues_nothing (userId : String) :
    (AuthService.getMe userId).Calls fun c => issues c = false := by
  refine .perform_bind rfl ?_
  intro user
  split
  · trivial
  · trivial
  · exact .perform_bind rfl fun instant => trivial

def Request.opensSession : Request → Bool
  | .register _ _ | .login _ _ | .refresh _ => true
  | _ => false

/-- Every other request issues nothing. -/
theorem issues_nothing (cfg : AppConfig) {q : Request} (hq : q.opensSession = false) :
    (handle cfg q).Calls fun c : Cmd => issues c = false := by
  cases q with
  | register email password => cases hq
  | login email password => cases hq
  | refresh presented => cases hq
  | logout presented => exact .bind (logout_issues_nothing presented) fun _ => trivial
  | me user =>
      refine .bind (jwtAuthGuard_calls user) ?_
      intro user
      exact .bind (getMe_issues_nothing user.sub) fun _ => trivial
  | _ =>
      -- the footprint has no statement of the accounts
      refine (handle_calls cfg _).mono ?_
      intro c hc
      cases c with
      | account c => cases hc
      | _ => rfl

theorem session_emits (cfg : AppConfig) (q : Request) :
    (handle cfg q).Emits (SessionStep q) (SessionEnd q) [] := by
  cases q with
  | register email password =>
      exact .bind (register_emits fun _ heq => nomatch heq)
        (fun _ _ _ _ _ htoken => nomatch htoken) fun _ _ _ _ _ htoken => nomatch htoken
  | login email password =>
      exact .bind (login_emits fun _ heq => nomatch heq)
        (fun _ _ _ _ _ htoken => nomatch htoken) fun _ _ _ _ _ htoken => nomatch htoken
  | refresh presented =>
      refine .bind (Q := fun r h => ∀ token, presented = some (.str token) →
        ∀ tokens, r = .ok tokens → Rotates token h) ?_ ?_ ?_
      · unfold AuthController.refresh
        refine .ite (fun _ _ _ _ hr => nomatch hr) fun _ => ?_
        refine .ofExcept_bind ?_ fun e _ _ _ _ hr => nomatch hr
        intro token htoken
        have hpresented : presented = some (.str token) := by
          unfold AuthController.tokenText at htoken
          split at htoken
          · cases htoken
            rfl
          · cases htoken
        subst hpresented
        refine .mono (fun _ _ hstep => hstep) ?_
          refresh_emits
        intro r h hrot token' htoken'
        cases htoken'
        exact hrot
      · intro tokens h' hend token tokens' htoken hr
        cases htoken
        exact hend token rfl tokens rfl
      · intro e h' _ _ _ _ hr
        cases hr
  | _ => exact session_of_calls (issues_nothing cfg rfl) fun _ _ _ _ htoken => nomatch htoken

/-! ## The family of a session -/

/-- What is known of a state whose run spent no row twice. -/
structure SpentOnce (b : AppState) : Prop where
  recorded : Machine.Recorded SessionStep SessionEnd b
  answers : ∀ tid e, Event.did tid e ∈ b.trace → TokenAnswer b.store e
  once : Always (fun ev pre => ∀ id, spends ev = some id → ∀ ev' ∈ pre, spends ev' ≠ some id)
    b.trace

theorem spentOnce_run {cfg : AppConfig} {s : Store} {b : AppState}
    (hr : (app cfg).Run spendsOnce (Machine.start s) b) : SpentOnce b where
  recorded := Machine.Run.emits (session_emits cfg) hr
  answers := tokenAnswers_run hr
  once :=
    Machine.Run.keeps (I := fun _ tr => Always (fun ev pre => ∀ id, spends ev = some id →
      ∀ ev' ∈ pre, spends ev' ≠ some id) tr) (fun _ _ _ _ h => ⟨fun _ hid => (nomatch hid), h⟩)
      (fun _ _ _ c h hok hpend => ⟨hok c hpend, h⟩) (a := Machine.start s) trivial hr

/-- The successor relation of the family. -/
def Rotation (tr : Trace) (row row' : RefreshToken) : Prop :=
  ∃ tid token, Event.began tid (refreshWith token) ∈ tr ∧
    row.tokenHash = AuthService.hashRefreshToken token ∧ row' ∈ issuedBy tid tr

theorem mem_issuedBy {tid : Nat} {tr : Trace} {row : RefreshToken} :
    row ∈ issuedBy tid tr ↔ ∃ e, Event.did tid e ∈ tr ∧ created e = some row := by
  simp [issuedBy, mem_own]

namespace SpentOnce

variable {b : AppState} {row row' : RefreshToken}

/-- One thread spends a row. -/
theorem spender (h : SpentOnce b) {tid tid' : Nat} {e e' : Prog.Entry Sig} {id : String}
    (he : Event.did tid e ∈ b.trace) (he' : Event.did tid' e' ∈ b.trace)
    (hid : spent e = some id) (hid' : spent e' = some id) : tid = tid' := by
  have heq : Event.did tid e = Event.did tid' e' :=
    h.once.unique spends (fun _ _ hJ => hJ) he he' hid hid'
  cases heq
  rfl

/-- A thread issues one row. -/
theorem issued_unique (h : SpentOnce b) {tid : Nat} (hrow : row ∈ issuedBy tid b.trace)
    (hrow' : row' ∈ issuedBy tid b.trace) : row = row' := by
  obtain ⟨e, he, hcreated⟩ := mem_issuedBy.mp hrow
  obtain ⟨e', he', hcreated'⟩ := mem_issuedBy.mp hrow'
  have heq : (Event.did tid e : Event Sig Request) = .did tid e' := by
    refine h.recorded.past.unique issuer ?_ he he'
      (k := tid) (by simp [issuer, hcreated]) (by simp [issuer, hcreated'])
    intro ev pre hJ t hkey ev' hmem hkey'
    cases ev with
    | began _ _ => cases hkey
    | did t₁ e₁ =>
        cases ev' with
        | began _ _ => cases hkey'
        | did t₂ e₂ =>
            obtain ⟨r₁, hr₁, rfl⟩ := Option.map_eq_some_iff.mp hkey
            obtain ⟨r₂, hr₂, rfl⟩ := Option.map_eq_some_iff.mp hkey'
            obtain ⟨q, -, hstep⟩ := hJ
            have hnone := (hstep (by rw [hr₁]; rfl)).1 e₂ (mem_own.mpr hmem)
            rw [hr₂] at hnone
            cases hnone
  cases heq
  rw [hcreated] at hcreated'
  exact Option.some.inj hcreated'

/-- A refresh that issued a row has spent the one presented to it. -/
theorem rotates (h : SpentOnce b) {tid : Nat} {token : String}
    (hbegan : Event.began tid (refreshWith token) ∈ b.trace)
    (hrow : row ∈ issuedBy tid b.trace) : Rotates token (own tid b.trace) := by
  obtain ⟨e, he, hcreated⟩ := mem_issuedBy.mp hrow
  obtain ⟨post, pre, htr⟩ := List.append_of_mem he
  have hstep := h.recorded.at_split hbegan htr
  refine ((hstep (by rw [hcreated]; rfl)).2 token rfl).mono ?_
  intro e' he'
  rw [mem_own, htr]
  exact List.mem_append_right _ (List.mem_cons_of_mem _ (mem_own.mp he'))

/-- Handlers that spent the row of one token are one thread. -/
theorem rotates_unique (h : SpentOnce b) {tid tid' : Nat} {token token' : String}
    (hrot : Rotates token (own tid b.trace)) (hrot' : Rotates token' (own tid' b.trace))
    (htoken : AuthService.hashRefreshToken token = AuthService.hashRefreshToken token') :
    tid = tid' := by
  obtain ⟨record, user, e, hfind, he, hspent⟩ := hrot
  obtain ⟨record', user', e', hfind', he', hspent'⟩ := hrot'
  obtain ⟨hstored, hhash⟩ := h.answers _ _ (mem_own.mp hfind)
  obtain ⟨hstored', hhash'⟩ := h.answers _ _ (mem_own.mp hfind')
  have hid : record.id = record'.id := hstored.id_eq hstored' (by rw [hhash, hhash', htoken])
  rw [← hid] at hspent'
  exact h.spender (mem_own.mp he) (mem_own.mp he') hspent hspent'

/-- **A row has one successor.** -/
theorem rotation_rightUnique (h : SpentOnce b) : Relator.RightUnique (Rotation b.trace) := by
  rintro row row₁ row₂ ⟨tid, token, hbegan, htoken, hrow⟩ ⟨tid', token', hbegan', htoken', hrow'⟩
  have heq : tid = tid' := h.rotates_unique (h.rotates hbegan hrow) (h.rotates hbegan' hrow')
    (htoken.symm.trans htoken')
  subst heq
  exact h.issued_unique hrow hrow'

/-- A row with a successor is revoked. -/
theorem rotation_revoked (h : SpentOnce b) (hrot : Rotation b.trace row row')
    (hstored : row.StoredIn b.store) {x : RefreshToken} (hx : x ∈ b.store.refreshTokens)
    (hid : x.id = row.id) : x.revokedAt.isSome = true := by
  obtain ⟨tid, token, hbegan, htoken, hrow⟩ := hrot
  obtain ⟨record, user, e, hfind, he, hspent⟩ := h.rotates hbegan hrow
  obtain ⟨hrecord, hhash⟩ := h.answers _ _ (mem_own.mp hfind)
  have hsame : record.id = row.id := hrecord.id_eq hstored (by rw [hhash, htoken])
  have hanswer := h.answers _ _ (mem_own.mp he)
  unfold spent at hspent
  split at hspent
  · cases hspent
    obtain ⟨r, hr, hrid, hrevoked⟩ := hanswer
    have heq : x = r := refreshTokens_eq_of_id hx hr (by rw [hid, hrid, hsame])
    rw [heq]
    exact hrevoked
  · cases hspent

/-- A descendant is issued, and reached from the row the root issued. -/
theorem chain (h : SpentOnce b) {root : Nat} (hdesc : Descends b.trace root row) :
    row.StoredIn b.store ∧ ∃ first ∈ issuedBy root b.trace,
      Relation.ReflTransGen (Rotation b.trace) first row := by
  have stored : ∀ {tid : Nat} {r : RefreshToken}, r ∈ issuedBy tid b.trace →
      r.StoredIn b.store := by
    intro tid r hr
    obtain ⟨e, he, hcreated⟩ := mem_issuedBy.mp hr
    exact (h.answers _ _ he).of_created hcreated
  induction hdesc with
  | issued hbegan hq hrow => exact ⟨stored hrow, _, hrow, .refl⟩
  | rotated hdesc hbegan htoken hrow ih =>
      obtain ⟨-, first, hfirst, hreach⟩ := ih
      exact ⟨stored hrow, first, hfirst, hreach.tail ⟨_, _, hbegan, htoken, hrow⟩⟩

end SpentOnce

/-! ## The guarantee -/

/-- A stored row of the family of `root`. -/
def InFamily (b : AppState) (root : Nat) (x : RefreshToken) : Prop :=
  x ∈ b.store.refreshTokens ∧ ∃ row, Descends b.trace root row ∧ row.id = x.id

/-- Thread `tid` has refreshed with this token, and answered new tokens. -/
def Refreshed (b : AppState) (tid : Nat) (token : String) : Prop :=
  ∃ tokens, b.threads[tid]? = some ⟨refreshWith token, .done (.ok (.tokens tokens))⟩

/-- A descendant that another unrevoked one leads to is that one. -/
theorem SpentOnce.last {b : AppState} (h : SpentOnce b) {row row' x x' : RefreshToken}
    (hreach : Relation.ReflTransGen (Rotation b.trace) row row') (hstored : row.StoredIn b.store)
    (hx : x ∈ b.store.refreshTokens) (hx' : x' ∈ b.store.refreshTokens) (hid : row.id = x.id)
    (hid' : row'.id = x'.id) (hactive : x.revokedAt = none) : x = x' := by
  rcases hreach.cases_head with heq | ⟨next, hrot, -⟩
  · exact refreshTokens_eq_of_id hx hx' (by rw [← hid, ← hid', heq])
  · have hrevoked := h.rotation_revoked hrot hstored hx hid.symm
    rw [hactive] at hrevoked
    cases hrevoked

/-- **Rotation never forks a session** in a run that spends no row twice: of
every family at most one row is unrevoked, and one token is refreshed at most
once. -/
theorem rotation_never_forks {cfg : AppConfig} {s : Store} {b : AppState}
    (hr : (app cfg).Run spendsOnce (Machine.start s) b) :
    (∀ root x x', InFamily b root x → InFamily b root x' → x.revokedAt = none →
      x'.revokedAt = none → x = x') ∧
    ∀ token tid tid', Refreshed b tid token → Refreshed b tid' token → tid = tid' := by
  have h := spentOnce_run hr
  constructor
  · rintro root x x' ⟨hx, row, hdesc, hid⟩ ⟨hx', row', hdesc', hid'⟩ hactive hactive'
    obtain ⟨hstored, first, hfirst, hreach⟩ := h.chain hdesc
    obtain ⟨hstored', first', hfirst', hreach'⟩ := h.chain hdesc'
    rw [← h.issued_unique hfirst hfirst'] at hreach'
    rcases hreach.total_of_right_unique h.rotation_rightUnique hreach' with hto | hto
    · exact h.last hto hstored hx hx' hid hid' hactive
    · exact (h.last hto hstored' hx' hx hid' hid hactive').symm
  · rintro token tid tid' ⟨tokens, hth⟩ ⟨tokens', hth'⟩
    have hrot := h.recorded.emits tid _ hth token tokens rfl rfl
    have hrot' := h.recorded.emits tid' _ hth' token tokens' rfl rfl
    exact h.rotates_unique hrot hrot' rfl

/-- `sampleUser`'s registration goes on: it issues `token-1` as row `rt-1`. -/
def sampleSession : List (Action Ambient Request) :=
  sampleRegistration ++ [.step 0 (.quiet 4), .step 0 ((Ambient.quiet 5).generating "token-1"),
    .step 0 (.quiet 6), .step 0 ((Ambient.quiet 7).generating "rt-1")]

/-- A refresh of `token-1` up to the check of `revokedAt`, and the rest of it. -/
def sampleCheck (tid : Nat) : List (Action Ambient Request) :=
  [.begin (refreshWith "token-1"), .step tid (.quiet 1000), .step tid (.quiet 1001)]

def sampleRotation (tid : Nat) (token row : String) : List (Action Ambient Request) :=
  [.step tid (.quiet 1002), .step tid (.quiet 1003), .step tid (.quiet 1004),
    .step tid ((Ambient.quiet 1005).generating token), .step tid (.quiet 1006),
    .step tid ((Ambient.quiet 1007).generating row)]

/-- Two refreshes of `token-1`, one after the other: the second is the reuse
signal. -/
theorem rotation_never_forks_sample :
    ∃ b : AppState, b.store.refreshTokens.rows.length = 2 ∧
      (∀ root x x', InFamily b root x → InFamily b root x' → x.revokedAt = none →
        x'.revokedAt = none → x = x') ∧
      ∀ token tid tid', Refreshed b tid token → Refreshed b tid' token → tid = tid' := by
  obtain ⟨b, hr, hb⟩ := Machine.exists_run_of_replay (m := app sampleConfig)
    (a := Machine.start .empty) spendsOnce
    (sampleSession ++ sampleCheck 1 ++ sampleRotation 1 "token-2" "rt-2" ++ sampleCheck 2)
    (fun b => b.store.refreshTokens.rows.length == 2) (by decide +kernel)
  exact ⟨b, by simpa using hb, rotation_never_forks hr⟩

/-! ## Two refreshes that overlap -/

def hasRefreshed (b : AppState) (tid : Nat) (token : String) : Bool :=
  match b.threads[tid]? with
  | some ⟨.refresh (some (.str t)), .done (.ok (.tokens _))⟩ => t == token
  | _ => false

theorem refreshed_of_hasRefreshed {b : AppState} {tid : Nat} {token : String}
    (h : hasRefreshed b tid token = true) : Refreshed b tid token := by
  unfold hasRefreshed at h
  split at h
  · rename_i t tokens hth
    have htoken : t = token := by simpa using h
    subst htoken
    exact ⟨tokens, hth⟩
  · cases h

/-- The row a refresh of `token` by thread `tid` issued is stored, unrevoked
and in the family of thread 0. -/
def forked (b : AppState) (tid : Nat) (token : String) : List RefreshToken :=
  (issuedBy tid b.trace).filter fun row =>
    decide (row ∈ b.store.refreshTokens.rows) && row.revokedAt.isNone &&
      (issuedBy 0 b.trace).any (fun first => first.tokenHash == .sha256 token) &&
      b.trace.any (fun ev => match ev with
        | .began 0 q => q.beginsSession
        | _ => false) &&
      b.trace.any fun ev => match ev with
        | .began t (.refresh (some (.str presented))) => t == tid && presented == token
        | _ => false

theorem inFamily_of_forked {b : AppState} {tid : Nat} {token : String} {x : RefreshToken}
    (h : x ∈ forked b tid token) : InFamily b 0 x ∧ x.revokedAt = none := by
  obtain ⟨hx, hp⟩ := List.mem_filter.mp h
  simp only [Bool.and_eq_true, List.any_eq_true, decide_eq_true_eq, Option.isNone_iff_eq_none,
    beq_iff_eq] at hp
  obtain ⟨⟨⟨⟨hstored, hactive⟩, first, hfirst, htoken⟩, ev, hev, hsession⟩, ev', hev', hrefresh⟩ := hp
  refine ⟨⟨hstored, x, ?_, rfl⟩, hactive⟩
  split at hsession
  · rename_i q
    split at hrefresh
    · rename_i t presented
      simp only [Bool.and_eq_true, beq_iff_eq] at hrefresh
      obtain ⟨rfl, rfl⟩ := hrefresh
      exact .rotated (.issued hev hsession hfirst) hev' htoken hx
    · cases hrefresh
  · cases hsession

/-- Two overlapping refreshes of one token both succeed, and leave two
unrevoked rows of one session. -/
theorem overlapping_refreshes_fork :
    ∃ b : AppState, (app sampleConfig).Run anyAction (Machine.start .empty) b ∧
      (∃ x x', InFamily b 0 x ∧ InFamily b 0 x' ∧ x.revokedAt = none ∧ x'.revokedAt = none ∧
        x ≠ x') ∧ Refreshed b 1 "token-1" ∧ Refreshed b 2 "token-1" := by
  obtain ⟨b, hr, hb⟩ := Machine.exists_run_of_replay (m := app sampleConfig)
    (a := Machine.start .empty) anyAction
    (sampleSession ++ sampleCheck 1 ++ sampleCheck 2 ++ sampleRotation 1 "token-2" "rt-2" ++
      sampleRotation 2 "token-3" "rt-3")
    (fun b => hasRefreshed b 1 "token-1" && hasRefreshed b 2 "token-1" &&
      (forked b 1 "token-1").any fun x => (forked b 2 "token-1").any fun x' => !decide (x = x'))
    (by decide +kernel)
  simp only [Bool.and_eq_true, List.any_eq_true, Bool.not_eq_true', decide_eq_false_iff_not] at hb
  obtain ⟨⟨hone, htwo⟩, x, hx, x', hx', hne⟩ := hb
  obtain ⟨hfamily, hactive⟩ := inFamily_of_forked hx
  obtain ⟨hfamily', hactive'⟩ := inFamily_of_forked hx'
  exact ⟨b, hr, ⟨x, x', hfamily, hfamily', hactive, hactive', hne⟩,
    refreshed_of_hasRefreshed hone, refreshed_of_hasRefreshed htwo⟩

end StreamingService
