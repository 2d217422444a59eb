import StreamingService.Footprint
import StreamingService.Frame

/-!
# Auth — Tokens

The life of a refresh token's row: inserted by one statement, revoked by
three, never deleted, never un-revoked, and its digest never rewritten. So
what an answer has shown of a row stays true of the stored row for good.
-/

namespace StreamingService

open Lib

/-- `r'` is a later version of the row `r`. -/
structure RefreshToken.Later (r r' : RefreshToken) : Prop where
  id : r'.id = r.id
  userId : r'.userId = r.userId
  tokenHash : r'.tokenHash = r.tokenHash
  expiresAt : r'.expiresAt = r.expiresAt
  revoked : r.revokedAt.isSome = true → r'.revokedAt.isSome = true

namespace RefreshToken

theorem Later.refl (r : RefreshToken) : r.Later r := ⟨rfl, rfl, rfl, rfl, fun h => h⟩

theorem Later.trans {a b c : RefreshToken} (hab : a.Later b) (hbc : b.Later c) : a.Later c :=
  ⟨hbc.id.trans hab.id, hbc.userId.trans hab.userId, hbc.tokenHash.trans hab.tokenHash,
    hbc.expiresAt.trans hab.expiresAt, fun h => hbc.revoked (hab.revoked h)⟩

theorem later_revoke (r : RefreshToken) (revokedAt : Millis) : r.Later (r.revoke revokedAt) :=
  ⟨rfl, rfl, rfl, rfl, fun _ => rfl⟩

/-- The row is stored, possibly revoked since. -/
def StoredIn (r : RefreshToken) (s : Store) : Prop := ∃ r' ∈ s.refreshTokens, r.Later r'

end RefreshToken

theorem refreshTokens_eq_of_id {s : Store} {r r' : RefreshToken} (hr : r ∈ s.refreshTokens)
    (hr' : r' ∈ s.refreshTokens) (h : r.id = r'.id) : r = r' :=
  Table.eq_of_clash hr hr' (by simp [Indexed.clash, h])

theorem refreshTokens_eq_of_hash {s : Store} {r r' : RefreshToken} (hr : r ∈ s.refreshTokens)
    (hr' : r' ∈ s.refreshTokens) (h : r.tokenHash = r'.tokenHash) : r = r' :=
  Table.eq_of_clash hr hr' (by simp [Indexed.clash, h])

/-- Two versions that carry one digest are of one row. -/
theorem RefreshToken.StoredIn.id_eq {r r' : RefreshToken} {s : Store} (hr : r.StoredIn s)
    (hr' : r'.StoredIn s) (h : r.tokenHash = r'.tokenHash) : r.id = r'.id := by
  obtain ⟨x, hx, hlater⟩ := hr
  obtain ⟨x', hx', hlater'⟩ := hr'
  have heq : x = x' := refreshTokens_eq_of_hash hx hx' (by rw [hlater.tokenHash, hlater'.tokenHash, h])
  rw [← hlater.id, ← hlater'.id, heq]

/-! ## What a statement writes -/

/-- The rows a statement revokes, and when. -/
def revocation : Cmd → Option ((RefreshToken → Bool) × Millis)
  | .account (.revokeToken id revokedAt) => some (fun r => r.id == id, revokedAt)
  | .account (.revokeByHash tokenHash revokedAt) =>
      some (fun r => r.tokenHash == tokenHash && r.revokedAt.isNone, revokedAt)
  | .account (.revokeAllOfUser userId revokedAt) =>
      some (fun r => r.userId == userId && r.revokedAt.isNone, revokedAt)
  | _ => none

/-- What an accepted insert has done. -/
structure TokenInserted (s s' : Store) (userId : String) (hash : TokenHash)
    (expiresAt : Option Millis) (row : RefreshToken) : Prop where
  mem : ∀ r, r ∈ s'.refreshTokens ↔ r ∈ s.refreshTokens ∨ r = row
  fresh : ∀ r ∈ s.refreshTokens, r.tokenHash ≠ hash
  user : ∃ u ∈ s.users, u.id = userId
  userId : row.userId = userId
  tokenHash : row.tokenHash = hash
  expiresAt : expiresAt = some row.expiresAt
  active : row.revokedAt = none

theorem createToken_inserted {o : Ambient} {userId : String} {hash : TokenHash}
    {expiresAt : Option Millis} {s : Store} {row : RefreshToken}
    (h : (exec o (.account (.createToken userId hash expiresAt)) s).1 = .ok row) :
    TokenInserted s (exec o (.account (.createToken userId hash expiresAt)) s).2 userId hash
      expiresAt row := by
  have hexec := exec_of_ok h
  rw [hexec] at h ⊢
  simp only [answer, AccountStmt.answer] at h ⊢
  cases hdate : prismaDate expiresAt with
  | none => simp [hdate, refuse] at h
  | some date =>
      obtain ⟨rfl, -⟩ := prismaDate_eq_some.mp hdate
      cases huser : s.users.find? fun u => u.id == userId with
      | none => simp [hdate, huser, refuse] at h
      | some u =>
          simp only [hdate, huser] at h ⊢
          split at h
          · cases h
          · rename_i rs hins
            cases h
            obtain ⟨hu, hid⟩ := Table.mem_of_find? huser
            dsimp only
            refine ⟨fun r => Table.mem_insert? hins, ?_, ⟨u, hu, by simpa using hid⟩, rfl, rfl, rfl, rfl⟩
            intro r hr heq
            have hfresh := Table.insert?_fresh hins hr
            simp [Indexed.clash, heq] at hfresh

/-- What a statement does to the tokens, by its answer. -/
inductive TokenStep (s : Store) : Prog.Entry Sig → Store → Prop
  | same {c : Cmd} {r : Except Exception c.Resp} {s' : Store}
      (hquiet : ∀ a, r = .ok a → revocation c = none)
      (hrows : s'.refreshTokens = s.refreshTokens) : TokenStep s ⟨c, r⟩ s'
  | revoked {c : Cmd} {a : c.Resp} {p : RefreshToken → Bool} {revokedAt : Millis} {s' : Store}
      (hp : revocation c = some (p, revokedAt))
      (hrows : s'.refreshTokens.rows =
        s.refreshTokens.rows.map fun r => if p r then r.revoke revokedAt else r) :
      TokenStep s ⟨c, .ok a⟩ s'
  | inserted {userId : String} {hash : TokenHash} {expiresAt : Option Millis} {row : RefreshToken}
      {s' : Store} (hins : TokenInserted s s' userId hash expiresAt row) :
      TokenStep s ⟨.account (.createToken userId hash expiresAt), .ok row⟩ s'

/-- **One statement.** -/
theorem exec_tokenStep (o : Ambient) (c : Cmd) (s : Store) :
    TokenStep s ⟨c, (exec o c s).1⟩ (exec o c s).2 := by
  cases hr : (exec o c s).1 with
  | error e =>
      refine .same (fun a ha => nomatch ha) ?_
      rw [exec_refused (Prod.ext hr rfl : exec o c s = (.error e, (exec o c s).2))]
  | ok a =>
      cases c with
      | account c =>
          cases c with
          | createToken userId tokenHash expiresAt => exact .inserted (createToken_inserted hr)
          | revokeAllOfUser userId revokedAt =>
              rw [exec_of_ok hr]
              exact .revoked rfl rfl
          | revokeByHash tokenHash revokedAt =>
              rw [exec_of_ok hr]
              exact .revoked rfl rfl
          | revokeToken id revokedAt =>
              have hans := exec_of_ok hr
              rw [hans] at hr ⊢
              simp only [answer, AccountStmt.answer] at hr ⊢
              split
              · rename_i hnone
                rw [hnone] at hr
                cases hr
              · exact .revoked rfl rfl
          | findToken tokenHash =>
              rw [exec_of_ok hr]
              simp only [answer, AccountStmt.answer]
              split <;> exact .same (fun _ _ => rfl) rfl
          | createUser email passwordHash =>
              rw [exec_of_ok hr]
              simp only [answer, AccountStmt.answer]
              split <;> exact .same (fun _ _ => rfl) rfl
          | findUserByEmail email =>
              rw [exec_of_ok hr]
              exact .same (fun _ _ => rfl) rfl
          | findUserWithActive id =>
              rw [exec_of_ok hr]
              exact .same (fun _ _ => rfl) rfl
      | _ => exact .same (fun _ _ => rfl) ((exec_frame o s _).accounts (by simp)).2

/-! ## Rows over one statement -/

/-- Every row of `s` has a later version in `s'`. -/
def TokensKept (s s' : Store) : Prop := ∀ r ∈ s.refreshTokens, r.StoredIn s'

theorem TokensKept.of_eq {s s' : Store} (h : s'.refreshTokens = s.refreshTokens) :
    TokensKept s s' := fun r hr => ⟨r, h ▸ hr, .refl r⟩

/-- A revocation of some of the rows keeps them all. -/
theorem TokensKept.of_revoke {s s' : Store} {p : RefreshToken → Bool} {revokedAt : Millis}
    (hrows : s'.refreshTokens.rows =
      s.refreshTokens.rows.map fun r => if p r then r.revoke revokedAt else r) :
    TokensKept s s' := by
  intro r hr
  refine ⟨if p r then r.revoke revokedAt else r, ?_, ?_⟩
  · rw [← Table.mem_rows, hrows]
    exact List.mem_map.mpr ⟨r, hr, rfl⟩
  · split
    · exact r.later_revoke revokedAt
    · exact .refl r

theorem RefreshToken.StoredIn.mono {r : RefreshToken} {s s' : Store} (h : r.StoredIn s)
    (hkept : TokensKept s s') : r.StoredIn s' := by
  obtain ⟨r', hr', hlater⟩ := h
  obtain ⟨r'', hr'', hlater'⟩ := hkept r' hr'
  exact ⟨r'', hr'', hlater.trans hlater'⟩

theorem TokenStep.kept {s s' : Store} {e : Prog.Entry Sig} (h : TokenStep s e s') :
    TokensKept s s' := by
  cases h with
  | same _ hrows => exact .of_eq hrows
  | revoked _ hrows => exact .of_revoke hrows
  | inserted hins => exact fun r hr => ⟨r, (hins.mem r).mpr (.inl hr), .refl r⟩

/-- **Every statement keeps the rows.** -/
theorem exec_tokensKept (o : Ambient) (c : Cmd) (s : Store) : TokensKept s (exec o c s).2 :=
  (exec_tokenStep o c s).kept

/-! ## What the answers say -/

/-- An insert answers a stored row, a lookup the stored row with the digest,
and a row once hit by `revokeToken` is revoked. -/
def TokenAnswer (s : Store) : Prog.Entry Sig → Prop
  | ⟨.account (.createToken _ _ _), .ok row⟩ => RefreshToken.StoredIn row s
  | ⟨.account (.findToken tokenHash), .ok (some (record, _))⟩ =>
      RefreshToken.StoredIn record s ∧ record.tokenHash = tokenHash
  | ⟨.account (.revokeToken id _), .ok _⟩ =>
      ∃ r ∈ s.refreshTokens, r.id = id ∧ r.revokedAt.isSome = true
  | _ => True

theorem TokenAnswer.mono {s s' : Store} {e : Prog.Entry Sig} (h : TokenAnswer s e)
    (hkept : TokensKept s s') : TokenAnswer s' e := by
  unfold TokenAnswer at h ⊢
  split at h
  · exact h.mono hkept
  · exact ⟨h.1.mono hkept, h.2⟩
  · obtain ⟨r, hr, hid, hrevoked⟩ := h
    obtain ⟨r', hr', hlater⟩ := hkept r hr
    exact ⟨r', hr', hlater.id.trans hid, hlater.revoked hrevoked⟩
  · trivial

theorem tokenAnswer_error (s : Store) (c : Cmd) (e : Exception) : TokenAnswer s ⟨c, .error e⟩ := by
  cases c with
  | account c => cases c <;> trivial
  | _ => trivial

theorem exec_tokenAnswer (o : Ambient) (c : Cmd) (s : Store) :
    TokenAnswer (exec o c s).2 ⟨c, (exec o c s).1⟩ := by
  apply exec_cases (P := fun out => TokenAnswer out.2 ⟨c, out.1⟩) (tokenAnswer_error s c)
  cases c with
  | account c =>
      cases c with
      | findToken tokenHash =>
          simp only [answer, AccountStmt.answer]
          cases hfind : s.refreshTokens.find? fun r => r.tokenHash == tokenHash with
          | none => trivial
          | some r =>
              dsimp only
              cases s.users.find? fun u => u.id == r.userId with
              | none => trivial
              | some u =>
                  obtain ⟨hr, hhash⟩ := Table.mem_of_find? hfind
                  exact ⟨⟨r, hr, .refl r⟩, by simpa using hhash⟩
      | createToken userId tokenHash expiresAt =>
          simp only [answer, AccountStmt.answer]
          cases prismaDate expiresAt with
          | none => trivial
          | some date =>
              cases s.users.find? fun u => u.id == userId with
              | none => trivial
              | some u =>
                  dsimp only
                  split
                  · trivial
                  · rename_i rs hins
                    exact ⟨_, (Table.mem_insert? hins).mpr (.inr rfl), .refl _⟩
      | revokeToken id revokedAt =>
          simp only [answer, AccountStmt.answer]
          cases hfind : s.refreshTokens.find? fun r => r.id == id with
          | none => trivial
          | some r =>
              obtain ⟨hr, hid⟩ := Table.mem_of_find? hfind
              have hid' : r.id = id := by simpa using hid
              exact ⟨r.revoke revokedAt, List.mem_map.mpr ⟨r, hr, if_pos hid⟩, hid', rfl⟩
      | _ => trivial
  | _ => trivial

/-- Every answer of a run still says what it said. -/
theorem tokenAnswers_run {cfg : AppConfig} {ok : AppState → Action Ambient Request → Prop}
    {s : Store} {b : AppState} (hr : (app cfg).Run ok (Machine.start s) b) :
    ∀ tid e, Event.did tid e ∈ b.trace → TokenAnswer b.store e :=
  Machine.Run.answers exec_tokenAnswer (fun o c s _ h => h.mono (exec_tokensKept o c s)) hr

end StreamingService
