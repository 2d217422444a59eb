import StreamingService.Auth.Reuse

/-!
# Auth — SignIn

Where sessions come from. Every pair of tokens goes back, refresh by refresh,
to a registration or to a login whose password was accepted: the row a refresh
is shown was inserted by an earlier handler, for the same user, and the
handler has checked it unrevoked and unexpired.
-/

namespace StreamingService

open Lib

/-! ## Pairs of tokens -/

structure Pair where
  accessToken : String
  refreshToken : String
  deriving DecidableEq, Repr

/-- The handler has issued the pair: it signed the access token for the user,
drew the refresh token and committed its row. -/
structure Issued (h : List (Prog.Entry Sig)) (userId : String) (pair : Pair) : Prop where
  signed : ∃ email role,
    ⟨.service (.signJwt { sub := userId, email, role }), .ok pair.accessToken⟩ ∈ h
  drawn : ⟨.service .randomBytes, .ok pair.refreshToken⟩ ∈ h
  committed : ∃ expiresAt row,
    ⟨.account (.createToken userId (AuthService.hashRefreshToken pair.refreshToken) expiresAt),
      .ok row⟩ ∈ h

/-- The handler has signed a user in: it created the user, or accepted the
password for the user's hash. -/
def SignsIn (h : List (Prog.Entry Sig)) (userId : String) : Request → Prop
  | .register email _ => ∃ passwordHash user,
      ⟨.account (.createUser email passwordHash), .ok user⟩ ∈ h ∧ user.id = userId
  | .login email password => ∃ user : User,
      ⟨.account (.findUserByEmail email), .ok (some user)⟩ ∈ h ∧ user.email = email ∧
        ⟨.service (.bcryptCompare password user.passwordHash), .ok true⟩ ∈ h ∧ user.id = userId
  | _ => False

/-- A revocation of the row has been committed since it was issued. -/
def RevokedBy (tr : Trace) (row : RefreshToken) : Prop :=
  ∃ post pre tid e, tr = post ++ .did tid e :: pre ∧ revokes row e = true ∧
    ∃ t e', Event.did t e' ∈ pre ∧ created e' = some row

/-- The handler's checks of the presented token: the row it read was unrevoked,
no revocation of it had been committed by then, and a later reading of the
clock found it unexpired. -/
def Admits (tr : Trace) (tid : Nat) (userId token : String) : Prop :=
  ∃ (record : RefreshToken) (user : User) (instant : Millis) (post pre : Trace),
    tr = post ++ .did tid ⟨.account (.findToken (AuthService.hashRefreshToken token)),
      .ok (some (record, user))⟩ :: pre ∧
    record.userId = userId ∧ record.revokedAt = none ∧
    (∀ row, row.Later record → ¬ RevokedBy pre row) ∧
    ⟨.now, .ok instant⟩ ∈ own tid post ∧ instant ≤ record.expiresAt

/-- **The provenance of a pair**: a sign-in of the user, or a refresh that
presented the refresh token of a pair of the same user. -/
inductive GoesBack (tr : Trace) (userId : String) : Pair → Prop
  | signIn {tid : Nat} {q : Request} {pair : Pair} (hbegan : Event.began tid q ∈ tr)
      (hsign : SignsIn (own tid tr) userId q) (hissued : Issued (own tid tr) userId pair) :
      GoesBack tr userId pair
  | refreshed {tid : Nat} {previous pair : Pair} (h : GoesBack tr userId previous)
      (hbegan : Event.began tid (refreshWith previous.refreshToken) ∈ tr)
      (hadmits : Admits tr tid userId previous.refreshToken)
      (hissued : Issued (own tid tr) userId pair) : GoesBack tr userId pair

/-! ## A trace that grows -/

section

variable {tr : Trace} {tid : Nat} {userId : String} {pair : Pair}

theorem Issued.mono {h h' : List (Prog.Entry Sig)} (hi : Issued h userId pair)
    (hsub : ∀ e ∈ h, e ∈ h') : Issued h' userId pair := by
  obtain ⟨⟨email, role, hsigned⟩, hdrawn, ⟨expiresAt, row, hcommitted⟩⟩ := hi
  exact ⟨⟨email, role, hsub _ hsigned⟩, hsub _ hdrawn, ⟨expiresAt, row, hsub _ hcommitted⟩⟩

theorem SignsIn.mono {h h' : List (Prog.Entry Sig)} {q : Request} (hs : SignsIn h userId q)
    (hsub : ∀ e ∈ h, e ∈ h') : SignsIn h' userId q := by
  cases q with
  | register email password =>
      obtain ⟨passwordHash, user, hcreated, hid⟩ := hs
      exact ⟨passwordHash, user, hsub _ hcreated, hid⟩
  | login email password =>
      obtain ⟨user, hfound, hemail, haccepted, hid⟩ := hs
      exact ⟨user, hsub _ hfound, hemail, hsub _ haccepted, hid⟩
  | _ => exact hs

theorem mem_own_cons {e : Prog.Entry Sig} (ev : Event Sig Request) (h : e ∈ own tid tr) :
    e ∈ own tid (ev :: tr) :=
  mem_own.mpr (List.mem_cons_of_mem _ (mem_own.mp h))

theorem Admits.cons {token : String} (h : Admits tr tid userId token) (ev : Event Sig Request) :
    Admits (ev :: tr) tid userId token := by
  obtain ⟨record, user, instant, post, pre, rfl, huser, hactive, hnone, hclock, hlive⟩ := h
  exact ⟨record, user, instant, ev :: post, pre, rfl, huser, hactive, hnone,
    mem_own_cons ev hclock, hlive⟩

theorem GoesBack.cons (h : GoesBack tr userId pair) (ev : Event Sig Request) :
    GoesBack (ev :: tr) userId pair := by
  induction h with
  | signIn hbegan hsign hissued =>
      exact .signIn (List.mem_cons_of_mem _ hbegan) (hsign.mono fun _ => mem_own_cons ev)
        (hissued.mono fun _ => mem_own_cons ev)
  | refreshed _ hbegan hadmits hissued ih =>
      exact .refreshed ih (List.mem_cons_of_mem _ hbegan) (hadmits.cons ev)
        (hissued.mono fun _ => mem_own_cons ev)

end

/-! ## The path of the handlers -/

/-- The handler has found the token's row unrevoked, and then unexpired. -/
def ChecksToken (h : List (Prog.Entry Sig)) (userId token : String) : Prop :=
  ∃ (record : RefreshToken) (user : User) (instant : Millis) (later earlier : List (Prog.Entry Sig)),
    h = later ++ ⟨.account (.findToken (AuthService.hashRefreshToken token)),
      .ok (some (record, user))⟩ :: earlier ∧
    user.id = userId ∧ record.revokedAt = none ∧ ⟨.now, .ok instant⟩ ∈ later ∧
    instant ≤ record.expiresAt

/-- A lookup by email answers the user with that email. -/
def EmailAnswer : Prog.Entry Sig → Prop
  | ⟨.account (.findUserByEmail email), .ok (some user)⟩ => User.email user = email
  | _ => True

/-- What lets a handler issue tokens for the user. -/
def Entitling (q : Request) (h : List (Prog.Entry Sig)) (userId : String) : Prop :=
  ((∀ e ∈ h, EmailAnswer e) → SignsIn h userId q) ∨
    ∃ token, q = refreshWith token ∧ ChecksToken h userId token

/-- The half of a pair that comes before its commit. -/
def Drawn (h : List (Prog.Entry Sig)) (userId : String) (pair : Pair) : Prop :=
  (∃ email role,
    ⟨.service (.signJwt { sub := userId, email, role }), .ok pair.accessToken⟩ ∈ h) ∧
    ⟨.service .randomBytes, .ok pair.refreshToken⟩ ∈ h

/-- What a statement that issues tokens owes to the ones before it. -/
def IssueStep (q : Request) (h : List (Prog.Entry Sig)) (e : Prog.Entry Sig) : Prop :=
  match e.1 with
  | .service (.signJwt _) => ∀ e' ∈ h, created e' = none
  | .service .randomBytes => ∀ e' ∈ h, created e' = none
  | .account (.createToken userId tokenHash _) => Entitling q h userId ∧
      ∃ pair : Pair, tokenHash = AuthService.hashRefreshToken pair.refreshToken ∧ Drawn h userId pair
  | _ => True

/-- A pair was complete before the last statement, or that is its commit. -/
theorem Issued.of_cons {q : Request} {h : List (Prog.Entry Sig)} {e : Prog.Entry Sig}
    {userId : String} {pair : Pair} (hstep : IssueStep q h e) (hissued : Issued (e :: h) userId pair) :
    Issued h userId pair ∨ ∃ expiresAt row,
      e = ⟨.account (.createToken userId (AuthService.hashRefreshToken pair.refreshToken) expiresAt),
        .ok row⟩ := by
  obtain ⟨⟨email, role, hsigned⟩, hdrawn, expiresAt, row, hcommitted⟩ := hissued
  rcases List.mem_cons.mp hcommitted with rfl | hcommitted
  · exact .inr ⟨expiresAt, row, rfl⟩
  · -- after its commit nothing else of a pair follows
    have hsome : ¬ ∀ e' ∈ h, created e' = none := by
      intro hnone
      cases hnone _ hcommitted
    refine .inl ⟨⟨email, role, ?_⟩, ?_, expiresAt, row, hcommitted⟩
    · rcases List.mem_cons.mp hsigned with rfl | hsigned
      · exact absurd hstep hsome
      · exact hsigned
    · rcases List.mem_cons.mp hdrawn with rfl | hdrawn
      · exact absurd hstep hsome
      · exact hdrawn

/-- The tokens a reply hands out. -/
def Reply.pair : Reply → Option Pair
  | .session _ issued => some ⟨issued.accessToken, issued.refreshToken⟩
  | .tokens issued => some ⟨issued.accessToken, issued.refreshToken⟩
  | _ => none

/-- A reply that hands tokens out comes from a handler that has issued them. -/
def IssueEnd (r : Except Exception Reply) (h : List (Prog.Entry Sig)) : Prop :=
  ∀ reply pair, r = .ok reply → reply.pair = some pair → ∃ userId, Issued h userId pair

theorem IssueEnd.error {e : Exception} {h : List (Prog.Entry Sig)} : IssueEnd (.error e) h := by
  intro _ _ hr
  cases hr

section

variable {cfg : AppConfig} {q : Request} {h : List (Prog.Entry Sig)}

/-- The end of `issueTokens`. -/
def TokensEnd (userId : String) (r : Except Exception AuthService.AuthTokens)
    (h : List (Prog.Entry Sig)) : Prop :=
  ∀ tokens, r = .ok tokens → Issued h userId ⟨tokens.accessToken, tokens.refreshToken⟩

theorem issueTokens_issues {userId email : String} {role : Role}
    (hnone : ∀ e ∈ h, created e = none) (hentitled : ∀ h', (∃ later, h' = later ++ h) →
      Entitling q h' userId) :
    (AuthService.issueTokens cfg userId email role).Emits (IssueStep q) (TokensEnd userId) h := by
  refine .perform_bind (fun accessToken => ⟨hnone, ?_⟩) fun e => ⟨hnone, fun _ hr => nomatch hr⟩
  have hnone' : ∀ e ∈ (⟨.service (.signJwt { sub := userId, email, role }), .ok accessToken⟩ ::
      h : List (Prog.Entry Sig)), created e = none := by
    intro e he
    rcases List.mem_cons.mp he with rfl | he
    · rfl
    · exact hnone e he
  refine .perform_bind (fun refreshToken => ⟨hnone', ?_⟩) fun e => ⟨hnone', fun _ hr => nomatch hr⟩
  refine .perform_bind (fun (instant : Millis) => ⟨trivial, ?_⟩)
    fun e => ⟨trivial, fun _ hr => nomatch hr⟩
  -- the commit: everything it owes is in the history by now
  have hstep : ∀ (r : Except Exception RefreshToken) expiresAt, IssueStep q
      (⟨.now, .ok instant⟩ :: ⟨.service .randomBytes, .ok refreshToken⟩ ::
        ⟨.service (.signJwt { sub := userId, email, role }), .ok accessToken⟩ :: h)
      ⟨.account (.createToken userId (AuthService.hashRefreshToken refreshToken) expiresAt), r⟩ := by
    intro r expiresAt
    refine ⟨hentitled _ ⟨[_, _, _], rfl⟩, ⟨accessToken, refreshToken⟩, rfl, ⟨email, role, ?_⟩, ?_⟩
    · simp
    · simp
  refine .perform_bind (fun row => ⟨hstep _ _, ?_⟩) fun e => ⟨hstep _ _, fun _ hr => nomatch hr⟩
  rintro tokens ⟨⟩
  exact ⟨⟨email, role, by simp⟩, by simp, ⟨_, row, by simp⟩⟩

theorem register_issues (email password : String) :
    (AuthService.register cfg email password).Emits (IssueStep (.register email password))
      (fun r h => ∀ user tokens, r = .ok (user, tokens) →
        ∃ userId, Issued h userId ⟨tokens.accessToken, tokens.refreshToken⟩) [] := by
  refine .perform_bind (fun existing => ⟨trivial, ?_⟩) fun e => ⟨trivial, fun _ _ hr => nomatch hr⟩
  refine .ite (fun _ _ _ hr => nomatch hr) fun _ => ?_
  refine .perform_bind (fun passwordHash => ⟨trivial, ?_⟩)
    fun e => ⟨trivial, fun _ _ hr => nomatch hr⟩
  refine .perform_bind (fun user => ⟨trivial, ?_⟩) fun e => ⟨trivial, fun _ _ hr => nomatch hr⟩
  refine .bind (issueTokens_issues ?_ ?_) ?_ fun _ _ _ _ _ hr => nomatch hr
  · intro e he
    simp only [List.mem_cons, List.not_mem_nil, or_false] at he
    rcases he with rfl | rfl | rfl <;> rfl
  · rintro _ ⟨later, rfl⟩
    exact .inl fun _ => ⟨passwordHash, user, by simp, rfl⟩
  · rintro tokens h hend _ _ ⟨⟩
    exact ⟨_, hend tokens rfl⟩

theorem login_issues (email password : String) :
    (AuthService.login cfg email password).Emits (IssueStep (.login email password))
      (fun r h => ∀ user tokens, r = .ok (user, tokens) →
        ∃ userId, Issued h userId ⟨tokens.accessToken, tokens.refreshToken⟩) [] := by
  refine .perform_bind (fun found => ⟨trivial, ?_⟩) fun e => ⟨trivial, fun _ _ hr => nomatch hr⟩
  match found with
  | none => exact fun _ _ hr => nomatch hr
  | some user =>
      refine .perform_bind (fun (accepted : Bool) => ⟨trivial, ?_⟩)
        fun e => ⟨trivial, fun _ _ hr => nomatch hr⟩
      refine .ite (fun _ _ _ hr => nomatch hr) fun haccepted => ?_
      have haccepted : accepted = true := by simpa using haccepted
      subst haccepted
      refine .bind (issueTokens_issues ?_ ?_) ?_ fun _ _ _ _ _ hr => nomatch hr
      · intro e he
        simp only [List.mem_cons, List.not_mem_nil, or_false] at he
        rcases he with rfl | rfl <;> rfl
      · rintro _ ⟨later, rfl⟩
        refine .inl fun hans => ⟨user, by simp, ?_, by simp, rfl⟩
        exact hans ⟨.account (.findUserByEmail email), .ok (some user)⟩ (by simp)
      · rintro tokens h hend _ _ ⟨⟩
        exact ⟨_, hend tokens rfl⟩

theorem refresh_issues (token : String) :
    (AuthService.refresh cfg token).Emits (IssueStep (refreshWith token))
      (fun r h => ∀ tokens, r = .ok tokens →
        ∃ userId, Issued h userId ⟨tokens.accessToken, tokens.refreshToken⟩) [] := by
  refine .perform_bind (fun found => ⟨trivial, ?_⟩) fun e => ⟨trivial, fun _ hr => nomatch hr⟩
  match found with
  | none => exact fun _ hr => nomatch hr
  | some (record, user) =>
      refine .ite (fun _ => ?_) fun hactive => ?_
      · -- the reuse signal ends in a 401
        refine .perform_bind (fun revokedAt => ⟨trivial, ?_⟩) fun e => ⟨trivial, fun _ hr => nomatch hr⟩
        exact .perform_bind (fun _ => ⟨trivial, fun _ hr => nomatch hr⟩)
          fun e => ⟨trivial, fun _ hr => nomatch hr⟩
      · refine .perform_bind (fun (instant : Millis) => ⟨trivial, ?_⟩)
          fun e => ⟨trivial, fun _ hr => nomatch hr⟩
        refine .ite (fun _ _ hr => nomatch hr) fun hlive => ?_
        refine .perform_bind (fun (revokedAt : Millis) => ⟨trivial, ?_⟩)
          fun e => ⟨trivial, fun _ hr => nomatch hr⟩
        refine .perform_bind (fun u => ⟨trivial, ?_⟩) fun e => ⟨trivial, fun _ hr => nomatch hr⟩
        refine (issueTokens_issues ?_ ?_).mono (fun _ _ hstep => hstep)
          fun _ _ hend tokens hr => ⟨_, hend tokens hr⟩
        · intro e he
          simp only [List.mem_cons, List.not_mem_nil, or_false] at he
          rcases he with rfl | rfl | rfl | rfl <;> rfl
        · rintro _ ⟨later, rfl⟩
          refine .inr ⟨token, rfl, record, user, instant,
            later ++ [⟨.account (.revokeToken record.id revokedAt), .ok u⟩, ⟨.now, .ok revokedAt⟩,
              ⟨.now, .ok instant⟩], [], by simp, rfl, by simpa using hactive, by simp,
            Int.not_lt.mp hlive⟩

end

/-- What every other request answers hands out no tokens. -/
theorem hands_out_nothing (cfg : AppConfig) {q : Request} (hq : q.opensSession = false) :
    (handle cfg q).Emits (fun _ _ => True)
      (fun r _ => ∀ reply, r = .ok reply → reply.pair = none) [] := by
  have plain : ∀ {α : Type} (p : App α) (f : α → Reply) (h : List (Prog.Entry Sig)),
      (∀ a, (f a).pair = none) → (p >>= fun a => pure (f a) : App Reply).Emits (fun _ _ => True)
        (fun r _ => ∀ reply, r = .ok reply → reply.pair = none) h := by
    intro α p f h hf
    refine .bind (.always p h) ?_ fun _ _ _ _ hr => nomatch hr
    rintro a _ _ reply ⟨⟩
    exact hf a
  have guarded : ∀ {α β : Type} (g : App β) (p : β → App α) (f : α → Reply),
      (∀ a, (f a).pair = none) → (g >>= fun b => p b >>= fun a => pure (f a) : App Reply).Emits
        (fun _ _ => True) (fun r _ => ∀ reply, r = .ok reply → reply.pair = none) [] :=
    fun g p f hf => .bind (.always g []) (fun b h _ => plain (p b) f h hf)
      fun _ _ _ _ hr => nomatch hr
  cases q <;> first
    | exact Bool.noConfusion hq
    | exact plain _ _ _ fun _ => rfl
    | exact guarded _ _ _ fun _ => rfl

/-- **The path of every request.** -/
theorem issue_steps (cfg : AppConfig) (q : Request) :
    (handle cfg q).Emits (IssueStep q) (fun r h => IssueEnd r h) [] := by
  cases hq : q.opensSession with
  | false =>
      refine (((Prog.Emits.of_calls_past (issues_nothing cfg hq) (by simp)).and
        (hands_out_nothing cfg hq))).mono ?_ ?_
      · rintro h e ⟨⟨hissues, hpast⟩, -⟩
        have hnone : ∀ e' ∈ h, created e' = none := by
          intro e' he'
          by_contra hsome
          have hissued := issues_of_created (Option.isSome_iff_ne_none.mpr hsome)
          rw [hpast e' he'] at hissued
          cases hissued
        unfold IssueStep
        split
        · exact hnone
        · exact hnone
        · rename_i heq
          rw [heq] at hissues
          cases hissues
        · trivial
      · rintro r h ⟨-, hpair⟩ reply pair hr hsome
        rw [hpair reply hr] at hsome
        cases hsome
  | true =>
      cases q with
      | register email password =>
          refine .bind (register_issues email password) ?_ fun _ _ _ => .error
          rintro ⟨user, tokens⟩ h hend _ _ ⟨⟩ ⟨⟩
          exact hend user tokens rfl
      | login email password =>
          refine .bind (login_issues email password) ?_ fun _ _ _ => .error
          rintro ⟨user, tokens⟩ h hend _ _ ⟨⟩ ⟨⟩
          exact hend user tokens rfl
      | refresh presented =>
          refine .bind (Q := fun r h => ∀ tokens, r = .ok tokens →
            ∃ userId, Issued h userId ⟨tokens.accessToken, tokens.refreshToken⟩) ?_ ?_
            fun _ _ _ => .error
          · refine .ite (fun _ _ hr => nomatch hr) fun _ => ?_
            refine .ofExcept_bind (fun token htoken => ?_) fun _ _ _ hr => nomatch hr
            have hpresented : presented = some (.str token) := by
              unfold AuthController.tokenText at htoken
              split at htoken
              · cases htoken
                rfl
              · cases htoken
            subst hpresented
            exact refresh_issues token
          · rintro tokens h hend _ _ ⟨⟩ ⟨⟩
            exact hend tokens rfl
      | _ => cases hq

/-! ## The rows of a run -/

/-- Where a stored row comes from: an earlier version, or the commit that
answers it. -/
theorem TokenStep.origin {s s' : Store} {e : Prog.Entry Sig} (h : TokenStep s e s')
    {r' : RefreshToken} (hr' : r' ∈ s'.refreshTokens) :
    (∃ r ∈ s.refreshTokens, r.Later r') ∨ created e = some r' := by
  cases h with
  | same _ hrows =>
      rw [hrows] at hr'
      exact .inl ⟨r', hr', .refl r'⟩
  | revoked _ hrows =>
      rw [← Table.mem_rows, hrows] at hr'
      obtain ⟨r, hr, rfl⟩ := List.mem_map.mp hr'
      refine .inl ⟨r, hr, ?_⟩
      split
      · exact r.later_revoke _
      · exact .refl r
  | inserted hins =>
      rcases (hins.mem r').mp hr' with hr' | rfl
      · exact .inl ⟨r', hr', .refl r'⟩
      · exact .inr rfl

section

variable {cfg : AppConfig} {ok : AppState → Action Ambient Request → Prop} {s : Store}
  {a b : AppState}

/-- From an empty table, every stored row has been issued. -/
theorem stored_issued (hs : s.refreshTokens = .empty) (hr : (app cfg).Run ok (Machine.start s) b) :
    ∀ r ∈ b.store.refreshTokens, ∃ tid e row, Event.did tid e ∈ b.trace ∧ created e = some row ∧
      row.Later r := by
  refine Machine.Run.keeps (I := fun s tr => ∀ r ∈ s.refreshTokens, ∃ tid e row,
    Event.did tid e ∈ tr ∧ created e = some row ∧ row.Later r) ?_ ?_ ?_ hr
  · intro s tr tid q h r hr
    obtain ⟨t, e, row, he, hrow⟩ := h r hr
    exact ⟨t, e, row, List.mem_cons_of_mem _ he, hrow⟩
  · intro sys tid o c h _ _ r' hr'
    rcases (exec_tokenStep o c sys.store).origin hr' with ⟨r, hr, hlater⟩ | hnew
    · obtain ⟨t, e, row, he, hcreated, hlater'⟩ := h r hr
      exact ⟨t, e, row, List.mem_cons_of_mem _ he, hcreated, hlater'.trans hlater⟩
    · exact ⟨tid, _, r', List.mem_cons_self, hnew, .refl r'⟩
  · intro r hr
    rw [show (Machine.start s : AppState).store.refreshTokens = .empty from hs] at hr
    exact absurd hr (Table.not_mem_empty r)

theorem committed_row (hr : (app cfg).Run ok (Machine.start s) b) {tid : Nat} {userId : String}
    {hash : TokenHash} {expiresAt : Option Millis} {row : RefreshToken}
    (he : Event.did tid ⟨Cmd.account (.createToken userId hash expiresAt), .ok row⟩ ∈ b.trace) :
    row.userId = userId ∧ row.tokenHash = hash := by
  obtain ⟨post, pre, htr⟩ := List.append_of_mem he
  obtain ⟨a, o, c, a', -, -, -, -, heq, -, -, -⟩ := hr.cut htr
  obtain ⟨rfl, hok⟩ := Sigma.mk.inj_iff.mp heq
  have hins := createToken_inserted (eq_of_heq hok).symm
  exact ⟨hins.userId, hins.tokenHash⟩

theorem exec_emailAnswer (o : Ambient) (c : Cmd) (s : Store) :
    EmailAnswer ⟨c, (exec o c s).1⟩ := by
  unfold EmailAnswer
  split
  · rename_i email user heq
    obtain ⟨rfl, hok⟩ := Sigma.mk.inj_iff.mp heq
    have hok := eq_of_heq hok
    rw [exec_of_ok hok] at hok
    simpa using (Table.mem_of_find? (Except.ok.inj hok)).2
  · trivial

/-- A stored row that is revoked is shown revoked for good. -/
theorem shown_revoked (hab : (app cfg).Run ok a b) {r : RefreshToken} (hr : StoredRevoked r a.store)
    {tid : Nat} (hnone : own tid a.trace = []) {record : RefreshToken} {user : User}
    (hread : ⟨.account (.findToken r.tokenHash), .ok (some (record, user))⟩ ∈ own tid b.trace) :
    record.revokedAt.isSome = true := by
  refine (Machine.Run.keeps (I := fun s tr => StoredRevoked r s ∧ ∀ (record : RefreshToken) (user : User),
    ⟨.account (.findToken r.tokenHash), .ok (some (record, user))⟩ ∈ own tid tr →
      record.revokedAt.isSome = true) ?_ ?_ ⟨hr, ?_⟩ hab).2 record user hread
  · exact fun _ _ _ _ h => h
  · intro sys t o c h _ _
    refine ⟨h.1.mono (exec_tokensKept o c sys.store), fun record user hmem => ?_⟩
    rcases List.mem_cons.mp (mem_own.mp hmem) with heq | hmem
    · obtain ⟨-, he⟩ := Event.did.inj heq
      obtain ⟨rfl, hok⟩ := Sigma.mk.inj_iff.mp he
      obtain ⟨hrecord, hhash, -⟩ := findToken_ok (eq_of_heq hok).symm
      obtain ⟨x, hx, hlater, hrevoked⟩ := h.1
      rw [refreshTokens_eq_of_hash hrecord hx (hhash.trans hlater.tokenHash.symm)]
      exact hrevoked
    · exact h.2 record user (mem_own.mpr hmem)
  · intro record user hmem
    rw [hnone] at hmem
    exact absurd hmem List.not_mem_nil

/-- A lookup that shows an unrevoked row comes before every revocation of it. -/
theorem not_revokedBy (ha : (app cfg).Run ok (Machine.start s) a) {record row : RefreshToken}
    (hrecord : record ∈ a.store.refreshTokens) (hactive : record.revokedAt = none)
    (hlater : row.Later record) : ¬ RevokedBy a.trace row := by
  rintro ⟨post, pre, tid, e, htr, hrevokes, t, e', he', hcreated⟩
  obtain ⟨a₁, o, c, a₂, ha₁, hpre, -, -, heq, hstore, -, hrest⟩ := ha.cut htr
  have hstored : row.StoredIn a₁.store := by
    rw [← hpre] at he'
    exact (tokenAnswers_run ha₁ t e' he').of_created hcreated
  have hrevoked : StoredRevoked row a₂.store := by
    rw [hstore]
    exact (exec_tokenStep o c a₁.store).revokes_stored (heq ▸ hrevokes) hstored
  obtain ⟨x, hx, hxlater, hxrevoked⟩ := Machine.Run.keeps (I := fun s _ => StoredRevoked row s)
    (fun _ _ _ _ h => h) (fun sys _ o c h _ _ => h.mono (exec_tokensKept o c sys.store)) hrevoked hrest
  rw [refreshTokens_eq_of_id hx hrecord (hxlater.id.trans hlater.id.symm), hactive] at hxrevoked
  cases hxrevoked

theorem emailAnswers_run (hr : (app cfg).Run ok (Machine.start s) b) :
    ∀ tid e, Event.did tid e ∈ b.trace → EmailAnswer e :=
  Machine.Run.answers (K := fun _ e => EmailAnswer e) exec_emailAnswer (fun _ _ _ _ h => h) hr

/-- A commit belongs to a pair its thread has issued. -/
theorem issued_of_created (hr : (app cfg).Run ok (Machine.start s) b) {tid : Nat}
    {e : Prog.Entry Sig} {row : RefreshToken} (he : Event.did tid e ∈ b.trace)
    (hcreated : created e = some row) :
    ∃ pair, Issued (own tid b.trace) row.userId pair ∧
      row.tokenHash = AuthService.hashRefreshToken pair.refreshToken := by
  obtain ⟨userId, hash, expiresAt, rfl⟩ := created_cases hcreated
  obtain ⟨huser, hhash⟩ := committed_row hr he
  obtain ⟨post, pre, htr⟩ := List.append_of_mem he
  have hrec := Machine.Run.emits (issue_steps cfg) hr
  obtain ⟨q, hq⟩ := hrec.did_began he
  obtain ⟨-, pair, hpair, ⟨email, role, hsigned⟩, hdrawn⟩ := hrec.at_split hq htr
  have hsub : ∀ e' ∈ own tid pre, e' ∈ own tid b.trace := by
    intro e' he'
    rw [mem_own, htr]
    exact List.mem_append_right _ (List.mem_cons_of_mem _ (mem_own.mp he'))
  rw [huser, hhash]
  rw [hpair] at he
  exact ⟨pair, ⟨⟨email, role, hsub _ hsigned⟩, hsub _ hdrawn, expiresAt, row, mem_own.mpr he⟩, hpair⟩

/-- A refresh whose checks passed presented the refresh token of a pair issued
for the same user. -/
theorem checked_goesBack (hs : s.refreshTokens = .empty)
    (hr : (app cfg).Run ok (Machine.start s) b)
    (ih : ∀ tid userId pair, Issued (own tid b.trace) userId pair → GoesBack b.trace userId pair)
    {tid : Nat} {userId token : String} (hchecks : ChecksToken (own tid b.trace) userId token) :
    Admits b.trace tid userId token ∧
      ∃ pair, GoesBack b.trace userId pair ∧ pair.refreshToken = token := by
  obtain ⟨record, user, instant, later, earlier, hown, huser, hactive, hclock, hlive⟩ := hchecks
  obtain ⟨post, pre, htr, hpost, -⟩ := own_split hown
  obtain ⟨a, o, c, a', ha, hpre, -, -, heq, -, -, -⟩ := hr.cut htr
  obtain ⟨rfl, hok⟩ := Sigma.mk.inj_iff.mp heq
  obtain ⟨hrecord, hhash, hown⟩ := findToken_ok (eq_of_heq hok).symm
  have hsame : record.userId = userId := hown.symm.trans huser
  refine ⟨⟨record, user, instant, post, pre, htr, hsame, hactive, ?_, hpost ▸ hclock, hlive⟩, ?_⟩
  · intro row hlater hrevoked
    exact not_revokedBy ha hrecord hactive hlater (hpre ▸ hrevoked)
  · -- the row it was shown has been issued, as part of a pair
    obtain ⟨t, e, row, he, hcreated, hlater⟩ := stored_issued hs ha record hrecord
    have hmem : Event.did t e ∈ b.trace := by
      rw [htr]
      exact List.mem_append_right _ (List.mem_cons_of_mem _ (hpre ▸ he))
    obtain ⟨pair, hissued, hpair⟩ := issued_of_created hr hmem hcreated
    refine ⟨pair, ?_, ?_⟩
    · rw [← hsame, hlater.userId]
      exact ih t row.userId pair hissued
    · have htoken : AuthService.hashRefreshToken pair.refreshToken =
          AuthService.hashRefreshToken token := by rw [← hpair, ← hlater.tokenHash, hhash]
      exact TokenHash.sha256.inj htoken

/-- **Every issued pair goes back to a sign-in**, by induction on the run: only
a commit completes a pair. -/
theorem issued_goesBack (hs : s.refreshTokens = .empty)
    (hr : (app cfg).Run ok (Machine.start s) b) :
    ∀ tid userId pair, Issued (own tid b.trace) userId pair → GoesBack b.trace userId pair := by
  refine Machine.Run.keeps_along (I := fun _ tr => ∀ tid userId pair,
    Issued (own tid tr) userId pair → GoesBack tr userId pair) (issue_steps cfg) ?_ ?_ ?_ hr
  · intro sys q _ h _ tid userId pair hissued
    exact (h tid userId pair hissued).cons _
  · intro sys t o q c k hr h hok hth hstep tid userId pair hissued
    by_cases ht : t = tid
    · subst ht
      have hbegan := (Machine.Run.emits (issue_steps cfg) hr).began t _ hth
      rcases Issued.of_cons hstep (by rwa [own_did_self] at hissued) with hbefore |
        ⟨expiresAt, row, heq⟩
      · exact (h t userId pair hbefore).cons _
      · rw [heq] at hstep
        rcases hstep.1 with hsign | ⟨token, rfl, hchecks⟩
        · refine .signIn (List.mem_cons_of_mem _ hbegan) ((hsign ?_).mono fun _ => mem_own_cons _)
            hissued
          intro e he
          exact emailAnswers_run hr t e (mem_own.mp he)
        · obtain ⟨hadmits, previous, hprevious, rfl⟩ := checked_goesBack hs hr h hchecks
          exact .refreshed (hprevious.cons _) (List.mem_cons_of_mem _ hbegan) (hadmits.cons _) hissued
    · rw [own_did_ne ht] at hissued
      exact (h tid userId pair hissued).cons _
  · rintro tid userId pair ⟨⟨_, _, hsigned⟩, -, -⟩
    exact absurd hsigned List.not_mem_nil

/-! ## The guarantee -/

/-- A refresh that has issued a pair was shown its token's row unrevoked. -/
theorem issued_checks (hr : (app cfg).Run ok (Machine.start s) b) {tid : Nat} {token userId : String}
    {pair : Pair} (hbegan : Event.began tid (refreshWith token) ∈ b.trace)
    (hissued : Issued (own tid b.trace) userId pair) :
    ∃ (record : RefreshToken) (user : User), record.revokedAt = none ∧
      ⟨.account (.findToken (AuthService.hashRefreshToken token)), .ok (some (record, user))⟩ ∈
        own tid b.trace := by
  obtain ⟨-, -, expiresAt, row, hcommitted⟩ := hissued
  obtain ⟨post, pre, htr⟩ := List.append_of_mem (mem_own.mp hcommitted)
  have hsub : ∀ ev ∈ pre, ev ∈ b.trace := fun ev hev => by
    rw [htr]
    exact List.mem_append_right _ (List.mem_cons_of_mem _ hev)
  rcases ((Machine.Run.emits (issue_steps cfg) hr).at_split hbegan htr).1 with hsign | ⟨_, hq, hchecks⟩
  · exact absurd (hsign fun e he => emailAnswers_run hr tid e (hsub _ (mem_own.mp he))) id
  · cases hq
    obtain ⟨record, user, instant, later, earlier, hown, -, hactive, -⟩ := hchecks
    refine ⟨record, user, hactive, mem_own.mpr (hsub _ (mem_own.mp ?_))⟩
    rw [hown]
    exact List.mem_append_right _ List.mem_cons_self

end

/-- **Sessions go back to sign-ins**: every pair a handler has issued, and so
every pair a reply hands out, is linked by refreshes to a registration or login
of its user; a row once revoked stays so, and no refresh that begins later
issues anything for its token. -/
theorem sessions_go_back {cfg : AppConfig} {s : Store} {b : AppState}
    (hs : s.refreshTokens = .empty) (hr : (app cfg).Run anyAction (Machine.start s) b) :
    (∀ tid userId pair, Issued (own tid b.trace) userId pair → GoesBack b.trace userId pair) ∧
    (∀ tid q reply pair, b.threads[tid]? = some ⟨q, .done (.ok reply)⟩ → reply.pair = some pair →
      ∃ userId, Issued (own tid b.trace) userId pair ∧ GoesBack b.trace userId pair) ∧
    ∀ a, (app cfg).Run anyAction (Machine.start s) a → (app cfg).Run anyAction a b →
      ∀ r ∈ a.store.refreshTokens, r.revokedAt.isSome = true → StoredRevoked r b.store ∧
        ∀ tid token, a.threads.length ≤ tid → Event.began tid (refreshWith token) ∈ b.trace →
          r.tokenHash = AuthService.hashRefreshToken token →
          ∀ userId pair, ¬ Issued (own tid b.trace) userId pair := by
  have hrec := Machine.Run.emits (issue_steps cfg) hr
  refine ⟨issued_goesBack hs hr, ?_, ?_⟩
  · intro tid q reply pair hth hpair
    obtain ⟨userId, hissued⟩ := hrec.emits tid _ hth reply pair rfl hpair
    exact ⟨userId, hissued, issued_goesBack hs hr tid userId pair hissued⟩
  · intro a ha hab r hstored hrevoked
    have hdead : StoredRevoked r a.store := ⟨r, hstored, .refl r, hrevoked⟩
    refine ⟨Machine.Run.keeps (I := fun s _ => StoredRevoked r s) (fun _ _ _ _ h => h)
      (fun sys _ o c h _ _ => h.mono (exec_tokensKept o c sys.store)) hdead hab, ?_⟩
    intro tid token hlate hbegan htoken userId pair hissued
    obtain ⟨record, user, hactive, hread⟩ := issued_checks hr hbegan hissued
    have hnone : own tid a.trace = [] :=
      ((Machine.Run.emits (issue_steps cfg) ha).fresh tid hlate).1
    have hshown := shown_revoked hab hdead hnone (htoken ▸ hread)
    rw [hactive] at hshown
    cases hshown

/-- The refresh token a thread has answered. -/
def answeredToken (b : AppState) (tid : Nat) : Option String :=
  match b.threads[tid]? with
  | some ⟨_, .done (.ok reply)⟩ => reply.pair.map Pair.refreshToken
  | _ => none

theorem answeredToken_eq_some {b : AppState} {tid : Nat} {token : String}
    (h : answeredToken b tid = some token) : ∃ q reply pair,
      b.threads[tid]? = some ⟨q, .done (.ok reply)⟩ ∧ reply.pair = some pair ∧
        pair.refreshToken = token := by
  unfold answeredToken at h
  split at h
  · rename_i q reply hth
    obtain ⟨pair, hpair, htoken⟩ := Option.map_eq_some_iff.mp h
    exact ⟨q, reply, pair, hth, hpair, htoken⟩
  · cases h

/-- A registration and a refresh of its token. -/
theorem sessions_go_back_sample :
    ∃ (b : AppState) (userId : String) (pair : Pair), pair.refreshToken = "token-2" ∧
      GoesBack b.trace userId pair := by
  obtain ⟨b, hr, hb⟩ := Machine.exists_run_of_replay (m := app sampleConfig)
    (a := Machine.start .empty) anyAction
    (sampleSession ++ sampleCheck 1 ++ sampleRotation 1 "token-2" "rt-2")
    (fun b => answeredToken b 1 == some "token-2") (by decide +kernel)
  obtain ⟨q, reply, pair, hth, hpair, htoken⟩ := answeredToken_eq_some (by simpa using hb)
  obtain ⟨userId, -, hback⟩ := (sessions_go_back rfl hr).2.1 1 q reply pair hth hpair
  exact ⟨b, userId, pair, htoken, hback⟩

end StreamingService
