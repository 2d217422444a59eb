import StreamingService.Auth.Rotation

/-!
# Auth — Reuse

What the reuse signal ends. The revoke-all takes every row the user has at
that instant. A token issued before is then dead for good, and so is what a
later refresh would make of it; but a refresh that had passed its checks
before the signal inserts a successor the signal never saw. The family is
over exactly as long as no such refresh comes to its insert.
-/

namespace StreamingService

open Lib

/-! ## The signal -/

/-- The user all of whose tokens an accepted statement revoked. -/
def revokedAll : Prog.Entry Sig → Option String
  | ⟨.account (.revokeAllOfUser userId _), .ok _⟩ => some userId
  | _ => none

/-- A lookup of a presented token. -/
def looksUp : Prog.Entry Sig → Bool
  | ⟨.account (.findToken _), _⟩ => true
  | _ => false

/-- All tokens of the user were revoked after thread `tid` had looked its own up. -/
def overtaken (tid : Nat) (userId : String) : Trace → Bool
  | [] => false
  | .began _ _ :: tr => overtaken tid userId tr
  | .did _ e :: tr =>
      (revokedAll e == some userId && (own tid tr).any looksUp) || overtaken tid userId tr

/-- The condition on a step: no refresh inserts a successor after a revoke-all
for its user has overtaken it. -/
def notOvertaken (sys : AppState) : Action Ambient Request → Prop
  | .begin _ => True
  | .step tid o => ∀ c, sys.pending tid = some c → ∀ row,
      created ⟨c, (exec o c sys.store).1⟩ = some row → overtaken tid row.userId sys.trace = false

instance (sys : AppState) (act : Action Ambient Request) : Decidable (notOvertaken sys act) :=
  match act with
  | .begin _ => isTrue trivial
  | .step tid o => inferInstanceAs (Decidable (∀ c ∈ sys.pending tid,
      ∀ row ∈ created ⟨c, (exec o c sys.store).1⟩, overtaken tid row.userId sys.trace = false))

theorem overtaken_of_split {tid t : Nat} {userId : String} {e e' : Prog.Entry Sig}
    {post pre : Trace} (he : revokedAll e = some userId) (he' : e' ∈ own tid pre)
    (hlook : looksUp e' = true) : overtaken tid userId (post ++ .did t e :: pre) = true := by
  induction post with
  | nil =>
      have hany : (own tid pre).any looksUp = true := List.any_eq_true.mpr ⟨e', he', hlook⟩
      simp [overtaken, he, hany]
  | cons ev post ih =>
      cases ev with
      | began _ _ => exact ih
      | did t' e₁ =>
          show (_ || overtaken tid userId (post ++ _)) = true
          rw [ih, Bool.or_true]

/-! ## The checks of a refresh -/

/-- The handler looked the presented token up, and was shown an unrevoked row
of this user. -/
def Checked (token : String) (h : List (Prog.Entry Sig)) (userId : String) : Prop :=
  ∃ (record : RefreshToken) (user : User),
    ⟨.account (.findToken (AuthService.hashRefreshToken token)), .ok (some (record, user))⟩ ∈ h ∧
      record.revokedAt = none ∧ user.id = userId

theorem Checked.mono {token userId : String} {h h' : List (Prog.Entry Sig)}
    (hc : Checked token h userId) (hsub : ∀ e ∈ h, e ∈ h') : Checked token h' userId := by
  obtain ⟨record, user, hfind, hactive, huser⟩ := hc
  exact ⟨record, user, hsub _ hfind, hactive, huser⟩

/-- What an insert of a successor owes to the statements before it. -/
def RefreshStep (token : String) (h : List (Prog.Entry Sig)) (e : Prog.Entry Sig) : Prop :=
  ∀ userId hash expiresAt, e.1 = .account (.createToken userId hash expiresAt) →
    Checked token h userId

def RefreshEnd {α : Type} (token : String) (r : Except Exception α)
    (h : List (Prog.Entry Sig)) : Prop :=
  ∀ tokens, r = .ok tokens → ∃ userId, Checked token h userId

section

variable {cfg : AppConfig} {token : String} {h : List (Prog.Entry Sig)}

theorem RefreshStep.insert {userId : String} {hash : TokenHash} {expiresAt : Option Millis}
    (hc : Checked token h userId) (r : Except Exception RefreshToken) :
    RefreshStep token h ⟨.account (.createToken userId hash expiresAt), r⟩ := by
  intro userId' hash' expiresAt' heq
  cases heq
  exact hc

theorem issueTokens_checked {userId email : String} {role : Role}
    (hc : Checked token h userId) :
    (AuthService.issueTokens cfg userId email role).Emits (RefreshStep token)
      (RefreshEnd token) h := by
  refine .perform_bind (fun accessToken => ⟨by simp [RefreshStep], ?_⟩)
    fun e => ⟨by simp [RefreshStep], by simp [RefreshEnd]⟩
  refine .perform_bind (fun refreshToken => ⟨by simp [RefreshStep], ?_⟩)
    fun e => ⟨by simp [RefreshStep], by simp [RefreshEnd]⟩
  refine .perform_bind (fun (instant : Millis) => ⟨by simp [RefreshStep], ?_⟩)
    fun e => ⟨by simp [RefreshStep], by simp [RefreshEnd]⟩
  have hc' : Checked token (⟨.now, .ok instant⟩ :: ⟨.service .randomBytes, .ok refreshToken⟩ ::
      ⟨.service (.signJwt { sub := userId, email, role }), .ok accessToken⟩ :: h) userId :=
    hc.mono fun e he => by simp [he]
  refine .perform_bind (fun row => ⟨.insert hc' _, ?_⟩) fun e => ⟨.insert hc' _, by simp [RefreshEnd]⟩
  exact fun tokens _ => ⟨userId, hc'.mono fun e he => by simp [he]⟩

theorem refresh_checked :
    (AuthService.refresh cfg token).Emits (RefreshStep token) (RefreshEnd token) [] := by
  refine .perform_bind (fun found => ⟨by simp [RefreshStep], ?_⟩)
    fun e => ⟨by simp [RefreshStep], by simp [RefreshEnd]⟩
  match found with
  | none =>
      intro tokens hr
      cases hr
  | some (record, user) =>
      refine .ite (fun _ => ?_) fun hactive => ?_
      · -- the reuse signal ends in a 401
        refine .perform_bind (fun revokedAt => ⟨by simp [RefreshStep], ?_⟩)
          fun e => ⟨by simp [RefreshStep], by simp [RefreshEnd]⟩
        refine .perform_bind (fun _ => ⟨by simp [RefreshStep], ?_⟩)
          fun e => ⟨by simp [RefreshStep], by simp [RefreshEnd]⟩
        intro tokens hr
        cases hr
      · refine .perform_bind (fun (instant : Millis) => ⟨by simp [RefreshStep], ?_⟩)
          fun e => ⟨by simp [RefreshStep], by simp [RefreshEnd]⟩
        refine .ite (fun _ => ?_) fun _ => ?_
        · intro tokens hr
          cases hr
        · refine .perform_bind (fun revokedAt => ⟨by simp [RefreshStep], ?_⟩)
            fun e => ⟨by simp [RefreshStep], by simp [RefreshEnd]⟩
          refine .perform_bind (fun _ => ⟨by simp [RefreshStep], ?_⟩)
            fun e => ⟨by simp [RefreshStep], by simp [RefreshEnd]⟩
          exact issueTokens_checked ⟨record, user, by simp, by simpa using hactive, rfl⟩

end

/-- Every statement of a refresh owes it, every other request owes nothing. -/
theorem refresh_handler_checked (cfg : AppConfig) (q : Request) :
    (handle cfg q).Emits (fun h e => ∀ token, q = refreshWith token → RefreshStep token h e)
      (fun r h => ∀ token, q = refreshWith token → RefreshEnd token r h) [] := by
  by_cases hq : ∃ token, q = refreshWith token
  · obtain ⟨token, rfl⟩ := hq
    refine .bind (Q := fun r h => ∀ token', refreshWith token = refreshWith token' →
      RefreshEnd token' r h) ?_ ?_ ?_
    · refine .ite (fun _ => ?_) fun _ => ?_
      · intro token' _ tokens hr
        cases hr
      · refine refresh_checked.mono ?_ ?_
        · intro h e hstep token' heq
          cases heq
          exact hstep
        · intro r h hend token' heq
          cases heq
          exact hend
    · intro tokens h' hend token' heq reply hr
      exact hend token' heq tokens rfl
    · intro e h' hend token' heq reply hr
      cases hr
  · exact .of_calls (A := fun _ => True) ((handle_calls cfg q).mono fun _ _ => trivial)
      (fun _ _ _ token heq => absurd ⟨token, heq⟩ hq) fun _ _ token heq => absurd ⟨token, heq⟩ hq

/-! ## Dead tokens -/

/-- The row was issued to the user by the time of `pre`, or was there from the
start. -/
def IssuedBefore (s : Store) (pre : Trace) (userId : String) (row : RefreshToken) : Prop :=
  row.userId = userId ∧
    (row ∈ s.refreshTokens ∨ ∃ tid e, Event.did tid e ∈ pre ∧ created e = some row)

/-- The stored version of the row is revoked. -/
def StoredRevoked (row : RefreshToken) (s : Store) : Prop :=
  ∃ x ∈ s.refreshTokens, row.Later x ∧ x.revokedAt.isSome = true

theorem StoredRevoked.mono {row : RefreshToken} {s s' : Store} (h : StoredRevoked row s)
    (hkept : TokensKept s s') : StoredRevoked row s' := by
  obtain ⟨x, hx, hlater, hrevoked⟩ := h
  obtain ⟨y, hy, hlater'⟩ := hkept x hx
  exact ⟨y, hy, hlater.trans hlater', hlater'.revoked hrevoked⟩

theorem created_cases {e : Prog.Entry Sig} {row : RefreshToken} (h : created e = some row) :
    ∃ userId hash expiresAt, e = ⟨.account (.createToken userId hash expiresAt), .ok row⟩ := by
  unfold created at h
  split at h
  · cases h
    exact ⟨_, _, _, rfl⟩
  · cases h

/-- A lookup answers the stored row that carries the digest. -/
theorem findToken_ok {o : Ambient} {hash : TokenHash} {s : Store} {record : RefreshToken}
    {user : User} (h : (exec o (.account (.findToken hash)) s).1 = .ok (some (record, user))) :
    record ∈ s.refreshTokens ∧ record.tokenHash = hash ∧ user.id = record.userId := by
  rw [exec_of_ok h] at h
  simp only [answer, AccountStmt.answer] at h
  cases hfind : s.refreshTokens.find? fun r => r.tokenHash == hash with
  | none =>
      rw [hfind] at h
      cases h
  | some r =>
      rw [hfind] at h
      obtain ⟨hr, hhash⟩ := Table.mem_of_find? hfind
      obtain ⟨u, hu, heq⟩ := Option.map_eq_some_iff.mp (Except.ok.inj h)
      cases heq
      exact ⟨hr, by simpa using hhash, by simpa using (Table.mem_of_find? hu).2⟩

/-- The accepted statement revokes the row. -/
def revokes (row : RefreshToken) : Prog.Entry Sig → Bool
  | ⟨.account (.revokeToken id _), .ok _⟩ => id == row.id
  | ⟨.account (.revokeByHash tokenHash _), .ok _⟩ => tokenHash == row.tokenHash
  | ⟨.account (.revokeAllOfUser userId _), .ok _⟩ => userId == row.userId
  | _ => false

/-- A revocation that selects the row, or finds it revoked, leaves it revoked. -/
theorem StoredRevoked.of_revoke {s s' : Store} {p : RefreshToken → Bool} {revokedAt : Millis}
    (hrows : s'.refreshTokens.rows =
      s.refreshTokens.rows.map fun r => if p r then r.revoke revokedAt else r)
    {row : RefreshToken} (hrow : row.StoredIn s)
    (hp : ∀ x, row.Later x → x.revokedAt = none → p x = true) : StoredRevoked row s' := by
  obtain ⟨x, hx, hlater⟩ := hrow
  refine ⟨if p x then x.revoke revokedAt else x, ?_, ?_⟩
  · rw [← Table.mem_rows, hrows]
    exact List.mem_map.mpr ⟨x, hx, rfl⟩
  · cases hpx : p x with
    | true => exact ⟨hlater.trans (x.later_revoke revokedAt), rfl⟩
    | false =>
        refine ⟨hlater, ?_⟩
        cases hactive : x.revokedAt with
        | some at' => simp [hactive]
        | none =>
            rw [hp x hlater hactive] at hpx
            cases hpx

/-- The rows a revocation selects are those it revokes. -/
theorem revokes_of_selected {c : Cmd} {a : c.Resp} {p : RefreshToken → Bool} {revokedAt : Millis}
    (hp : revocation c = some (p, revokedAt)) {row : RefreshToken} (hrow : p row = true) :
    revokes row ⟨c, .ok a⟩ = true := by
  unfold revocation at hp
  split at hp <;> cases hp
  all_goals
    simp only [Bool.and_eq_true, beq_iff_eq] at hrow
    simp [revokes, hrow]

theorem selected_of_revokes {c : Cmd} {a : c.Resp} {row : RefreshToken}
    (h : revokes row ⟨c, .ok a⟩ = true) : ∃ p revokedAt, revocation c = some (p, revokedAt) ∧
      ∀ x, row.Later x → x.revokedAt = none → p x = true := by
  unfold revokes at h
  split at h
  · rename_i id revokedAt u heq
    obtain ⟨rfl, -⟩ := Sigma.mk.inj_iff.mp heq
    have hid : id = row.id := by simpa using h
    exact ⟨_, _, rfl, fun x hlater _ => by simp [hlater.id, hid]⟩
  · rename_i tokenHash revokedAt u heq
    obtain ⟨rfl, -⟩ := Sigma.mk.inj_iff.mp heq
    have hhash : tokenHash = row.tokenHash := by simpa using h
    exact ⟨_, _, rfl, fun x hlater hactive => by simp [hlater.tokenHash, hhash, hactive]⟩
  · rename_i userId revokedAt u heq
    obtain ⟨rfl, -⟩ := Sigma.mk.inj_iff.mp heq
    have huser : userId = row.userId := by simpa using h
    exact ⟨_, _, rfl, fun x hlater hactive => by simp [hlater.userId, huser, hactive]⟩
  · cases h

/-- **A committed revocation leaves the row revoked.** -/
theorem TokenStep.revokes_stored {s s' : Store} {e : Prog.Entry Sig} (hstep : TokenStep s e s')
    {row : RefreshToken} (h : revokes row e = true) (hrow : row.StoredIn s) :
    StoredRevoked row s' := by
  cases hstep with
  | @same c r _ hquiet _ =>
      match r with
      | .error x =>
          unfold revokes at h
          split at h <;> first | cases h | (rename_i heq; cases heq)
      | .ok a =>
          obtain ⟨p, revokedAt, hp, -⟩ := selected_of_revokes h
          rw [hquiet a rfl] at hp
          cases hp
  | revoked hp hrows =>
      obtain ⟨p', revokedAt', hp', hselects⟩ := selected_of_revokes h
      rw [hp] at hp'
      cases hp'
      exact .of_revoke hrows hrow hselects
  | inserted => cases h

/-- **A row that a statement does not revoke stays as it is.** -/
theorem TokenStep.unrevoked {s s' : Store} {e : Prog.Entry Sig} (hstep : TokenStep s e s')
    {row : RefreshToken} (hrow : row ∈ s.refreshTokens) (h : revokes row e = false) :
    row ∈ s'.refreshTokens := by
  cases hstep with
  | same _ hrows =>
      rw [hrows]
      exact hrow
  | @revoked c a p revokedAt _ hp hrows =>
      have hother : p row = false := by
        rw [← Bool.not_eq_true]
        intro hselected
        rw [revokes_of_selected hp hselected] at h
        cases h
      rw [← Table.mem_rows, hrows]
      exact List.mem_map.mpr ⟨row, hrow, by simp [hother]⟩
  | inserted hins => exact (hins.mem row).mpr (.inl hrow)

/-- A revoke-all leaves none of the user's rows unrevoked. -/
theorem revokeAll_revokes {o : Ambient} {c : Cmd} {s : Store} {userId : String}
    (h : revokedAll ⟨c, (exec o c s).1⟩ = some userId) {row : RefreshToken}
    (hrow : row.StoredIn s) (huser : row.userId = userId) :
    StoredRevoked row (exec o c s).2 := by
  refine (exec_tokenStep o c s).revokes_stored ?_ hrow
  unfold revokedAll at h
  split at h
  · rename_i heq
    cases h
    rw [heq]
    simp [revokes, huser]
  · cases h

variable {cfg : AppConfig} {ok : AppState → Action Ambient Request → Prop} {s : Store}
  {a b : AppState}

/-- A row once issued is stored for good. -/
theorem issued_stored (hr : (app cfg).Run ok (Machine.start s) b) {userId : String}
    {row : RefreshToken} (h : IssuedBefore s b.trace userId row) : row.StoredIn b.store := by
  rcases h.2 with hrow | ⟨tid, e, he, hcreated⟩
  · exact Machine.Run.keeps (I := fun s _ => row.StoredIn s) (fun _ _ _ _ h => h)
      (fun sys _ o c h _ _ => h.mono (exec_tokensKept o c sys.store)) ⟨row, hrow, .refl row⟩ hr
  · exact (tokenAnswers_run hr tid e he).of_created hcreated

/-- **Dead for good**: in every state after a revoke-all, whatever was issued
to the user before is stored revoked. -/
theorem dead_since (hr : (app cfg).Run ok (Machine.start s) b) {post pre : Trace} {tid : Nat}
    {e : Prog.Entry Sig} (htr : b.trace = post ++ .did tid e :: pre) {userId : String}
    (he : revokedAll e = some userId) {row : RefreshToken} (hrow : IssuedBefore s pre userId row) :
    StoredRevoked row b.store := by
  obtain ⟨a, o, c, a', ha, hpre, -, -, heq, hstore, -, hrest⟩ := hr.cut htr
  have hstored : row.StoredIn a.store := issued_stored ha (hpre ▸ hrow)
  have hrevoked : StoredRevoked row a'.store := by
    rw [hstore]
    exact revokeAll_revokes (heq ▸ he) hstored hrow.1
  exact Machine.Run.keeps (I := fun s _ => StoredRevoked row s) (fun _ _ _ _ h => h)
    (fun sys _ o c h _ _ => h.mono (exec_tokensKept o c sys.store)) hrevoked hrest

/-- A lookup after the revoke-all shows a dead token's row revoked. -/
theorem lookup_shows_revoked (hr : (app cfg).Run ok (Machine.start s) b)
    {post between pre : Trace} {tid t : Nat} {e : Prog.Entry Sig} {userId : String}
    (he : revokedAll e = some userId) {row record : RefreshToken} {user : User}
    (hrow : IssuedBefore s pre userId row)
    (htr : b.trace = post ++ .did t ⟨.account (.findToken row.tokenHash),
      .ok (some (record, user))⟩ :: (between ++ .did tid e :: pre)) :
    record.revokedAt.isSome = true := by
  obtain ⟨a, o, c, a', ha, hpre, -, -, heq, -, -, -⟩ := hr.cut htr
  obtain ⟨x, hx, hlater, hrevoked⟩ := dead_since ha hpre he hrow
  obtain ⟨rfl, hok⟩ := Sigma.mk.inj_iff.mp heq
  obtain ⟨hrecord, hhash, -⟩ := findToken_ok (eq_of_heq hok).symm
  rw [refreshTokens_eq_of_hash hrecord hx (hhash.trans hlater.tokenHash.symm)]
  exact hrevoked

theorem IssuedBefore.mono {pre tr : Trace} (hsub : ∀ ev ∈ pre, ev ∈ tr) {userId : String}
    {row : RefreshToken} (h : IssuedBefore s pre userId row) : IssuedBefore s tr userId row := by
  refine ⟨h.1, h.2.imp id ?_⟩
  rintro ⟨tid, e, he, hcreated⟩
  exact ⟨tid, e, hsub _ he, hcreated⟩

/-- The lookup of a dead token's digest shows its own user. -/
theorem checked_user (hr : (app cfg).Run ok (Machine.start s) b) {t : Nat} {token userId : String}
    {row record : RefreshToken} {user : User} (hrow : IssuedBefore s b.trace userId row)
    (htoken : row.tokenHash = AuthService.hashRefreshToken token)
    (hlook : Event.did t ⟨Cmd.account (.findToken (AuthService.hashRefreshToken token)),
      .ok (some (record, user))⟩ ∈ b.trace) : user.id = userId := by
  obtain ⟨post, pre, htr⟩ := List.append_of_mem hlook
  obtain ⟨a, o, c, a', -, -, -, -, heq, -, -, -⟩ := hr.cut htr
  obtain ⟨rfl, hok⟩ := Sigma.mk.inj_iff.mp heq
  obtain ⟨-, -, huser⟩ := findToken_ok (eq_of_heq hok).symm
  -- both are versions of the one row that carries the digest
  obtain ⟨⟨x, hx, hlater⟩, hhash⟩ := tokenAnswers_run hr t _ hlook
  obtain ⟨y, hy, hlater'⟩ := issued_stored hr hrow
  have hxy : x = y := refreshTokens_eq_of_hash hx hy (by
    rw [hlater.tokenHash, hlater'.tokenHash, hhash, htoken])
  rw [huser, ← hlater.userId, hxy, hlater'.userId, hrow.1]

/-- What is known of the insert of a successor, wherever the trace is cut there:
its user, that no revoke-all came between, and the active row looked up before. -/
theorem successor_inserted (hr : (app cfg).Run notOvertaken (Machine.start s) b)
    {userId : String} {row row' : RefreshToken} (hrow : IssuedBefore s b.trace userId row) {t : Nat}
    {token : String} (hbegan : Event.began t (.refresh (some (.str token))) ∈ b.trace)
    (htoken : row.tokenHash = AuthService.hashRefreshToken token) {userId' : String}
    {hash : TokenHash} {expiresAt : Option Millis} {post pre : Trace}
    (hsplit : b.trace = post ++ .did t
      ⟨Cmd.account (.createToken userId' hash expiresAt), .ok row'⟩ :: pre) :
    row'.userId = userId ∧ overtaken t userId pre = false ∧
      ∃ (record : RefreshToken) (user : User), record.revokedAt = none ∧
        Event.did t ⟨Cmd.account (.findToken (AuthService.hashRefreshToken token)),
          .ok (some (record, user))⟩ ∈ pre := by
  obtain ⟨record, user, hlook, hactive, huser⟩ :=
    (Machine.Run.emits (refresh_handler_checked cfg) hr).at_split hbegan hsplit token rfl userId'
      hash expiresAt rfl
  have hlook := mem_own.mp hlook
  have huser' : user.id = userId := checked_user hr hrow htoken (by
    rw [hsplit]
    exact List.mem_append_right _ (List.mem_cons_of_mem _ hlook))
  obtain ⟨a, o, c, a', -, hpre, hok, hpend, heq, -, -, -⟩ := hr.cut hsplit
  have hrow' : row'.userId = userId := by
    obtain ⟨rfl, hans⟩ := Sigma.mk.inj_iff.mp heq
    rw [(createToken_inserted (eq_of_heq hans).symm).userId, ← huser, huser']
  refine ⟨hrow', ?_, record, user, hactive, hlook⟩
  have hnew : created ⟨c, ((app cfg).exec o c a.store).1⟩ = some row' := by
    rw [← heq]
    rfl
  have hnot := hok c hpend row' hnew
  rw [hrow', hpre] at hnot
  exact hnot

/-- **A dead token has dead successors only**: every successor had been
inserted by the time of the revoke-all. -/
theorem dead_successor (hr : (app cfg).Run notOvertaken (Machine.start s) b) {post pre : Trace}
    {tid : Nat} {e : Prog.Entry Sig} (htr : b.trace = post ++ .did tid e :: pre)
    {userId : String} (he : revokedAll e = some userId) {row row' : RefreshToken}
    (hrow : IssuedBefore s pre userId row) (hrot : Rotation b.trace row row') :
    IssuedBefore s pre userId row' := by
  have hissuedRow : IssuedBefore s b.trace userId row := hrow.mono fun ev hev => by
    rw [htr]
    exact List.mem_append_right _ (List.mem_cons_of_mem _ hev)
  obtain ⟨t, token, hbegan, htoken, hissued⟩ := hrot
  obtain ⟨e', he', hcreated⟩ := mem_issuedBy.mp hissued
  obtain ⟨userId', hash, expiresAt, rfl⟩ := created_cases hcreated
  rw [htr] at he'
  rcases mem_split he' with ⟨p₁, p₂, hpost⟩ | heq | hmem
  · -- inserted after the revoke-all: where was the lookup?
    have hsplit : b.trace = p₁ ++
        .did t ⟨Cmd.account (.createToken userId' hash expiresAt), .ok row'⟩ ::
          (p₂ ++ .did tid e :: pre) := by
      rw [htr, hpost]
      simp
    obtain ⟨-, hnot, record, user, hactive, hlook⟩ :=
      successor_inserted hr hissuedRow hbegan htoken hsplit
    rcases mem_split hlook with ⟨p₃, p₄, hp₂⟩ | heq | hmem
    · have hcut : b.trace =
          (p₁ ++ .did t ⟨Cmd.account (.createToken userId' hash expiresAt), .ok row'⟩ :: p₃) ++
            .did t ⟨Cmd.account (.findToken row.tokenHash), .ok (some (record, user))⟩ ::
              (p₄ ++ .did tid e :: pre) := by
        rw [htr, hpost, hp₂, htoken]
        simp
      have hrevoked := lookup_shows_revoked hr he hrow hcut
      rw [hactive] at hrevoked
      cases hrevoked
    · cases heq
      cases he
    · rw [overtaken_of_split he (mem_own.mpr hmem) rfl] at hnot
      cases hnot
  · cases heq
    cases he
  · obtain ⟨p₁, p₂, hpre⟩ := List.append_of_mem hmem
    have hsplit : b.trace = (post ++ .did tid e :: p₁) ++
        .did t ⟨Cmd.account (.createToken userId' hash expiresAt), .ok row'⟩ :: p₂ := by
      rw [htr, hpre]
      simp
    obtain ⟨hrow', -, -⟩ := successor_inserted hr hissuedRow hbegan htoken hsplit
    exact ⟨hrow', .inr ⟨t, _, hmem, rfl⟩⟩

/-! ## The end of the family -/

/-- A refresh with the row's token that looked it up after `pre`, and answered
new tokens. -/
def AcceptedAfter (b : AppState) (pre : Trace) (row : RefreshToken) : Prop :=
  ∃ t token, Refreshed b t token ∧ row.tokenHash = AuthService.hashRefreshToken token ∧
    ∀ e ∈ own t pre, looksUp e = false

/-- After a revoke-all no token issued before to its user is accepted again,
and none descending from one of these. -/
def EndsFamily (s : Store) (b : AppState) : Prop :=
  ∀ post pre tid e userId, b.trace = post ++ .did tid e :: pre → revokedAll e = some userId →
    ∀ row row', IssuedBefore s pre userId row →
      Relation.ReflTransGen (Rotation b.trace) row row' → ¬ AcceptedAfter b pre row'

theorem IssuedBefore.not_accepted (hr : (app cfg).Run ok (Machine.start s) b) {post pre : Trace}
    {tid : Nat} {e : Prog.Entry Sig} (htr : b.trace = post ++ .did tid e :: pre)
    {userId : String} (he : revokedAll e = some userId) {row : RefreshToken}
    (hrow : IssuedBefore s pre userId row) : ¬ AcceptedAfter b pre row := by
  rintro ⟨t, token, ⟨tokens, hth⟩, htoken, hlate⟩
  have hrec := Machine.Run.emits (refresh_handler_checked cfg) hr
  obtain ⟨userId', record, user, hlook, hactive, -⟩ := hrec.emits t _ hth token rfl _ rfl
  have hmem := mem_own.mp hlook
  rw [htr] at hmem
  rcases mem_split hmem with ⟨p₁, p₂, hpost⟩ | heq | hpre
  · have hcut : b.trace = p₁ ++ .did t ⟨Cmd.account (.findToken row.tokenHash),
        .ok (some (record, user))⟩ :: (p₂ ++ .did tid e :: pre) := by
      rw [htr, hpost, htoken]
      simp
    have hrevoked := lookup_shows_revoked hr he hrow hcut
    rw [hactive] at hrevoked
    cases hrevoked
  · cases heq
    cases he
  · have hnot := hlate _ (mem_own.mpr hpre)
    cases hnot

/-- **Reuse ends the family** in every run in which no refresh that a
revoke-all has overtaken comes to its insert. -/
theorem reuse_ends_family (hr : (app cfg).Run notOvertaken (Machine.start s) b) :
    EndsFamily s b := by
  intro post pre tid e userId htr he row row' hrow hreach
  have hbefore : IssuedBefore s pre userId row' := by
    induction hreach with
    | refl => exact hrow
    | tail _ hrot ih => exact dead_successor hr htr he ih hrot
  exact hbefore.not_accepted hr htr he

/-- `token-1` is rotated and presented again: the successor's row ends revoked. -/
theorem reuse_ends_family_sample :
    ∃ b : AppState, (b.store.refreshTokens.rows.all fun r => r.revokedAt.isSome) = true ∧
      b.store.refreshTokens.rows.length = 2 ∧ EndsFamily .empty b := by
  obtain ⟨b, hr, hb⟩ := Machine.exists_run_of_replay (m := app sampleConfig)
    (a := Machine.start .empty) notOvertaken
    (sampleSession ++ sampleCheck 1 ++ sampleRotation 1 "token-2" "rt-2" ++ sampleCheck 2 ++
      [.step 2 (.quiet 1010)])
    (fun b => (b.store.refreshTokens.rows.all fun r => r.revokedAt.isSome) &&
      b.store.refreshTokens.rows.length == 2) (by decide +kernel)
  simp only [Bool.and_eq_true, beq_iff_eq] at hb
  exact ⟨b, hb.1, hb.2, reuse_ends_family hr⟩

/-! ## The refresh in progress -/

/-- The last statement is a revoke-all of the user's tokens, the row of
`token` was issued to the user by then, and thread `tid` has done nothing. -/
def signalled (a : AppState) (userId token : String) (tid : Nat) : Bool :=
  match a.trace with
  | .did _ e :: pre => revokedAll e == some userId && (own tid pre).isEmpty &&
      (issuedBy 0 pre).any fun row => row.userId == userId && row.tokenHash == .sha256 token
  | _ => false

/-- A refresh of `token-1` has passed its checks when the second one gives the
reuse signal; the `token-2` it then inserts is accepted by a later refresh. -/
theorem overtaken_refresh_survives :
    ∃ b : AppState, (app sampleConfig).Run anyAction (Machine.start .empty) b ∧
      ¬ EndsFamily .empty b := by
  obtain ⟨a, b, hra, hrb, hb⟩ := Machine.exists_runs_of_replay (m := app sampleConfig)
    (s := Machine.start .empty) anyAction
    (sampleSession ++ sampleCheck 1 ++ (sampleRotation 1 "token-2" "rt-2").take 5 ++
      sampleCheck 2 ++ [.step 2 (.quiet 1010)])
    ((sampleRotation 1 "token-2" "rt-2").drop 5 ++ [.begin (refreshWith "token-2"),
      .step 3 (.quiet 1011), .step 3 (.quiet 1012)] ++ sampleRotation 3 "token-3" "rt-3")
    (fun a b => signalled a "user-1" "token-1" 3 && hasRefreshed b 1 "token-1" &&
      (issuedBy 1 b.trace).any (fun row => row.tokenHash == .sha256 "token-2") &&
      hasRefreshed b 3 "token-2") (by decide +kernel)
  simp only [Bool.and_eq_true, List.any_eq_true, beq_iff_eq] at hb
  obtain ⟨⟨⟨hsignal, hone⟩, row', hrow', htoken'⟩, hthree⟩ := hb
  obtain ⟨tokens, hth⟩ := refreshed_of_hasRefreshed hone
  have hrec := Machine.Run.emits (refresh_handler_checked sampleConfig) (hra.trans hrb)
  have hbegan : Event.began 1 (refreshWith "token-1") ∈ b.trace := hrec.began 1 _ hth
  unfold signalled at hsignal
  split at hsignal
  · rename_i tid e pre htr
    simp only [Bool.and_eq_true, List.any_eq_true, beq_iff_eq, List.isEmpty_iff] at hsignal
    obtain ⟨⟨hall, hlate⟩, row, hrow, huser, htoken⟩ := hsignal
    obtain ⟨e', he', hcreated⟩ := mem_issuedBy.mp hrow
    obtain ⟨post, hpost⟩ := hrb.trace_suffix
    refine ⟨b, hra.trans hrb, fun hends => ?_⟩
    refine hends post pre tid e "user-1" (by rw [← hpost, htr]) hall row row'
      ⟨huser, .inr ⟨0, e', he', hcreated⟩⟩ (.single ⟨1, "token-1", hbegan, htoken, hrow'⟩) ?_
    exact ⟨3, "token-2", refreshed_of_hasRefreshed hthree, htoken', by simp [hlate]⟩
  · cases hsignal

end StreamingService
