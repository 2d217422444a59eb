import StreamingService.Frontend.Devices
import StreamingService.Frontend.Parallel

/-!
# Frontend — Logout

A logout on one device and the sessions of the others. No two browsers carry
one token, so what a browser does with its own cookie touches no other
browser's row, but for one thing: a logout leaves the cookie where it is, and
a refresh with it is taken for theft and ends every session of the user.
As long as no such refresh meets another session, all sessions last.
-/

namespace StreamingService

open Lib

namespace Devices

open AuthController

variable {n : Nat}

/-! ## The invariant -/

/-- The token is in a cookie of browser `i`, or was the last one given to it. -/
def World.Carries (w : World n) (i : Fin n) (token : String) : Prop :=
  (∃ c ∈ w.jar i, c.value = token) ∨ ∃ g, w.session i = some g ∧ g.token = token

/-- What holds between any two requests. -/
structure World.Inv (w : World n) : Prop where
  /-- A browser has one cookie at most, and `setRefreshCookie` has set it. -/
  jar : ∀ i, ∀ c ∈ w.jar i, c.name = refreshCookieName ∧ c.path = refreshCookiePath ∧ w.jar i = [c]
  stored : ∀ i token, w.Carries i token → ∃ r ∈ w.store.refreshTokens, OfToken token r
  apart : ∀ i j token, w.Carries i token → w.Carries j token → i = j
  /-- The token of a session is active, and the browser's cookie is of that
  token, for as long as it lasts. -/
  live : ∀ i g, w.session i = some g → w.now < g.expiresAt → Active g w.store ∧
    (∀ c ∈ w.jar i, c.value = g.token) ∧
    (w.now < headerDate g.expiresAt → refreshCookie g ∈ w.jar i)

theorem World.Inv.start (s : Store) (now : Nat) : (World.start s now : World n).Inv where
  jar _ c hc := nomatch hc
  stored i token := by
    rintro (⟨c, hc, -⟩ | ⟨g, hg, -⟩)
    · cases hc
    · cases hg
  apart i j token := by
    rintro (⟨c, hc, -⟩ | ⟨g, hg, -⟩)
    · cases hc
    · cases hg
  live _ _ hg := nomatch hg

/-- Whoever is signed in holds its token. -/
theorem World.Inv.held {w : World n} (hi : w.Inv) : w.SessionsHeld := by
  intro i g hg hnow
  obtain ⟨hactive, -, hcookie⟩ := hi.live i g hg hnow
  refine ⟨hactive, ?_⟩
  intro hlasts
  obtain ⟨-, -, hjar⟩ := hi.jar i _ (hcookie hlasts)
  rw [World.cookie, hjar]
  refine Jar.sent_singleton ?_
  simp only [Cookie.carried, Bool.and_eq_true, decide_eq_true_eq]
  exact ⟨⟨beq_self_eq_true _, rfl⟩, hlasts⟩

/-! ## What an operation preserves -/

theorem earlier {a b : Nat} {date : Int} (hab : a ≤ b) (h : b < date) : a < date :=
  Int.lt_of_le_of_lt (Int.ofNat_le.mpr hab) h

theorem Active.spared {g : Grant} {spent : RefreshToken → Prop} {s s' : Store} (h : Active g s)
    (hs : Spares spent s s') (hspent : ∀ r, OfToken g.token r → ¬ spent r) : Active g s' := by
  obtain ⟨r, hr, hhash, hactive, hexpires⟩ := h
  exact ⟨r, hs.unspent r hr (hspent r hhash), hhash, hactive, hexpires⟩

theorem stored_kept {token : String} {s s' : Store} (hkept : TokensKept s s')
    (h : ∃ r ∈ s.refreshTokens, OfToken token r) : ∃ r ∈ s'.refreshTokens, OfToken token r := by
  obtain ⟨r, hr, hhash⟩ := h
  obtain ⟨r', hr', hlater⟩ := hkept r hr
  exact ⟨r', hr', hlater.tokenHash.trans hhash⟩

theorem token_unique {token token' : String} {r : RefreshToken} (h : OfToken token r)
    (h' : OfToken token' r) : token = token' := by
  have heq : TokenHash.sha256 token = TokenHash.sha256 token' := h.symm.trans h'
  exact TokenHash.sha256.inj heq

section

variable {w w' : World n}

theorem World.carries_congr {i : Fin n} {token : String} (hjar : w'.jar i = w.jar i)
    (hsession : w'.session i = w.session i) : w'.Carries i token ↔ w.Carries i token := by
  rw [World.Carries, World.Carries, hjar, hsession]

/-- The row of another browser's token is none of browser `i`'s. -/
theorem World.Inv.not_own (hi : w.Inv) {i j : Fin n} (hj : j ≠ i) {token : String}
    (htoken : w.Carries j token) {r : RefreshToken} (hr : OfToken token r) : ¬ w.Own i r := by
  rintro ⟨c, hc, hown⟩
  have hvalue : c.value = token := token_unique hown hr
  exact hj (hi.apart j i token htoken (.inl ⟨c, hc, hvalue⟩))

/-- The browsers are as they were. -/
theorem World.Inv.same (hi : w.Inv) (hnow : w.now ≤ w'.now) (hkept : TokensKept w.store w'.store)
    (hjar : w'.jar = w.jar) (hsession : w'.session = w.session)
    (hactive : ∀ i g, w.session i = some g → w'.now < g.expiresAt → Active g w'.store) : w'.Inv where
  jar := by
    rw [hjar]
    exact hi.jar
  stored i token htoken := by
    rw [World.carries_congr (congrFun hjar i) (congrFun hsession i)] at htoken
    exact stored_kept hkept (hi.stored i token htoken)
  apart i j token := by
    rw [World.carries_congr (congrFun hjar i) (congrFun hsession i),
      World.carries_congr (congrFun hjar j) (congrFun hsession j)]
    exact hi.apart i j token
  live i g hg hlive := by
    rw [hsession] at hg
    obtain ⟨-, hvalue, hcookie⟩ := hi.live i g hg (earlier hnow hlive)
    rw [hjar]
    exact ⟨hactive i g hg hlive, hvalue, fun hlasts => hcookie (earlier hnow hlasts)⟩

/-- The other browsers are as they were, and what browser `i` now carries it
had, or is new. -/
theorem World.Inv.changed (hi : w.Inv) {i : Fin n} (hnow : w.now ≤ w'.now)
    (hs : Spares (w.Own i) w.store w'.store) (hjar : ∀ j, j ≠ i → w'.jar j = w.jar j)
    (hsession : ∀ j, j ≠ i → w'.session j = w.session j)
    (hone : ∀ c ∈ w'.jar i, c.name = refreshCookieName ∧ c.path = refreshCookiePath ∧ w'.jar i = [c])
    (hnew : ∀ token, w'.Carries i token → w.Carries i token ∨
      (∀ r ∈ w.store.refreshTokens, ¬ OfToken token r) ∧ ∃ r ∈ w'.store.refreshTokens, OfToken token r)
    (hlive : ∀ g, w'.session i = some g → w'.now < g.expiresAt → Active g w'.store ∧
      (∀ c ∈ w'.jar i, c.value = g.token) ∧
      (w'.now < headerDate g.expiresAt → refreshCookie g ∈ w'.jar i)) : w'.Inv := by
  have same : ∀ j, j ≠ i → ∀ token, w'.Carries j token ↔ w.Carries j token := fun j hj token =>
    World.carries_congr (hjar j hj) (hsession j hj)
  have alone : ∀ j, j ≠ i → ∀ token, w.Carries j token → ¬ w'.Carries i token := by
    intro j hj token hcarries hcarries'
    rcases hnew token hcarries' with hold | ⟨hfresh, -⟩
    · exact hj (hi.apart j i token hcarries hold)
    · obtain ⟨r, hr, hhash⟩ := hi.stored j token hcarries
      exact hfresh r hr hhash
  refine ⟨?_, ?_, ?_, ?_⟩
  · intro j
    by_cases hj : j = i
    · subst hj
      exact hone
    · rw [hjar j hj]
      exact hi.jar j
  · intro j token htoken
    by_cases hj : j = i
    · subst hj
      rcases hnew token htoken with hold | ⟨-, hstored⟩
      · exact stored_kept hs.kept (hi.stored j token hold)
      · exact hstored
    · exact stored_kept hs.kept (hi.stored j token ((same j hj token).mp htoken))
  · intro j k token hj hk
    by_cases hji : j = i <;> by_cases hki : k = i
    · rw [hji, hki]
    · subst hji
      exact absurd hj (alone k hki token ((same k hki token).mp hk))
    · subst hki
      exact absurd hk (alone j hji token ((same j hji token).mp hj))
    · exact hi.apart j k token ((same j hji token).mp hj) ((same k hki token).mp hk)
  · intro j g hg hnow'
    by_cases hj : j = i
    · subst hj
      exact hlive g hg hnow'
    · rw [hsession j hj] at hg
      obtain ⟨hactive, hvalue, hcookie⟩ := hi.live j g hg (earlier hnow hnow')
      rw [hjar j hj]
      refine ⟨?_, hvalue, fun hlasts => hcookie (earlier hnow hlasts)⟩
      exact hactive.spared hs fun r hr => hi.not_own hj (.inr ⟨g, hg, rfl⟩) hr

/-- The cookie a browser has is the one it receives with new tokens. -/
theorem World.Inv.receive_given (hi : w.Inv) (i : Fin n) (now : Nat) (g : Grant) :
    (w.jar i).receive now (refreshCookie g) =
      if headerDate g.expiresAt ≤ now then [] else [refreshCookie g] := by
  refine Jar.receive_same ?_
  intro c hc
  obtain ⟨hname, hpath, -⟩ := hi.jar i c hc
  simp [Cookie.identifies, refreshCookie, hname, hpath]

/-- **The cookie a logout clears is another one.** -/
theorem World.Inv.receive_cleared (hi : w.Inv) (i : Fin n) (now : Nat) :
    (w.jar i).receive now (clearCookie refreshCookieName) = w.jar i := by
  refine Jar.receive_expired (Int.natCast_nonneg now) ?_
  intro c hc
  obtain ⟨-, hpath, -⟩ := hi.jar i c hc
  simp [Cookie.identifies, clearCookie, hpath, refreshCookiePath]

theorem World.Inv.given (hi : w.Inv) (hnow : w.now ≤ w'.now) {i : Fin n} {g : Grant}
    (hs : Spares (w.Own i) w.store w'.store)
    (hfresh : ∀ r ∈ w.store.refreshTokens, ¬ OfToken g.token r) (hactive : Active g w'.store)
    (hjar : w'.jar = Function.update w.jar i ((w.jar i).receive w'.now (refreshCookie g)))
    (hsession : w'.session = Function.update w.session i (some g) ∨
      w.session i = none ∧ w'.session = w.session) : w'.Inv := by
  have hjar' : ∀ c, c ∈ w'.jar i ↔ c = refreshCookie g ∧ w'.now < headerDate g.expiresAt := by
    intro c
    rw [hjar, Function.update_self, hi.receive_given]
    split
    · rename_i hexpired
      exact ⟨fun hc => (nomatch hc), fun hc => absurd hc.2 (Int.not_lt.mpr hexpired)⟩
    · rename_i hlasts
      rw [List.mem_singleton]
      exact ⟨fun hc => ⟨hc, Int.not_le.mp hlasts⟩, fun hc => hc.1⟩
  have hsession' : ∀ g', w'.session i = some g' → g' = g := by
    intro g' hg'
    rcases hsession with hsession | ⟨hnone, hsession⟩
    · rw [hsession, Function.update_self] at hg'
      exact (Option.some.inj hg').symm
    · rw [hsession, hnone] at hg'
      cases hg'
  refine hi.changed (i := i) hnow hs ?_ ?_ ?_ ?_ ?_
  · intro j hj
    rw [hjar, Function.update_of_ne hj]
  · intro j hj
    rcases hsession with hsession | ⟨-, hsession⟩
    · rw [hsession, Function.update_of_ne hj]
    · rw [hsession]
  · intro c hc
    obtain ⟨rfl, hlasts⟩ := (hjar' c).mp hc
    refine ⟨rfl, rfl, ?_⟩
    rw [hjar, Function.update_self, hi.receive_given, if_neg (Int.not_le.mpr hlasts)]
  · rintro token (⟨c, hc, rfl⟩ | ⟨g', hg', rfl⟩)
    · obtain ⟨rfl, -⟩ := (hjar' c).mp hc
      obtain ⟨r, hr, hhash, -⟩ := hactive
      exact .inr ⟨hfresh, r, hr, hhash⟩
    · rw [hsession' g' hg']
      obtain ⟨r, hr, hhash, -⟩ := hactive
      exact .inr ⟨hfresh, r, hr, hhash⟩
  · intro g' hg' hlive
    rw [hsession' g' hg']
    refine ⟨hactive, ?_, fun hlasts => (hjar' _).mpr ⟨rfl, hlasts⟩⟩
    intro c hc
    obtain ⟨rfl, -⟩ := (hjar' c).mp hc
    rfl

theorem World.Inv.loggedOut (hi : w.Inv) (hnow : w.now ≤ w'.now) {i : Fin n}
    (hs : Spares (w.Own i) w.store w'.store)
    (hjar : w'.jar = Function.update w.jar i
      ((w.jar i).receive w'.now (clearCookie refreshCookieName)))
    (hsession : w'.session = Function.update w.session i none) : w'.Inv := by
  rw [hi.receive_cleared, Function.update_eq_self] at hjar
  have hnone : w'.session i = none := by rw [hsession, Function.update_self]
  refine hi.changed (i := i) hnow hs ?_ ?_ ?_ ?_ ?_
  · intro j _
    rw [hjar]
  · intro j hj
    rw [hsession, Function.update_of_ne hj]
  · rw [hjar]
    exact hi.jar i
  · rintro token (hcookie | ⟨g, hg, -⟩)
    · rw [hjar] at hcookie
      exact .inl (.inl hcookie)
    · rw [hnone] at hg
      cases hg
  · intro g hg
    rw [hnone] at hg
    cases hg

/-- A browser that is signed in does not refresh with a revoked token. -/
theorem World.Inv.not_reuses (hi : w.Inv) {i : Fin n} {g : Grant} (hg : w.session i = some g)
    (hnow : w.now < g.expiresAt) : w.reuses i = false := by
  rw [← Bool.not_eq_true]
  intro hreuses
  obtain ⟨⟨r, hr, hhash, hactive, -⟩, hvalue, -⟩ := hi.live i g hg hnow
  unfold World.reuses at hreuses
  split at hreuses
  · cases hreuses
  · rename_i token htoken
    obtain ⟨c, hc, rfl, -⟩ := Jar.sent_mem htoken
    obtain ⟨r', hr', hmatch⟩ := List.any_eq_true.mp hreuses
    simp only [Bool.and_eq_true, beq_iff_eq, hvalue c hc] at hmatch
    rw [refreshTokens_eq_of_hash hr' hr (hmatch.1.trans hhash.symm), hactive] at hmatch
    cases hmatch.2

/-- **What every operation preserves**, unless its refresh presents a revoked
token while another browser is signed in. -/
theorem World.Inv.effect (hi : w.Inv) (hnow : w.now ≤ w'.now) (h : Effect w w') : w'.Inv := by
  cases h with
  | quiet hs hjar hsession =>
      refine hi.same hnow hs.kept hjar hsession ?_
      intro i g hg hlive
      exact (hi.live i g hg (earlier hnow hlive)).1.spared hs fun _ _ => id
  | given i g hs hfresh hactive hjar hsession =>
      exact hi.given hnow hs hfresh hactive hjar hsession
  | loggedOut i hs hjar hsession => exact hi.loggedOut hnow hs hjar hsession
  | reused i hreuses hothers hkept hjar hsession =>
      refine hi.same hnow hkept hjar hsession ?_
      intro j g hg hlive
      have hlive := earlier hnow hlive
      -- nobody was signed in
      by_cases hj : j = i
      · subst hj
        rw [hi.not_reuses hg hlive] at hreuses
        cases hreuses
      · have hout := hothers j hj
        simp [World.signedIn, hg, hlive] at hout

end

/-! ## Every run -/

/-- Handled, and no refresh with a revoked token while another browser is
signed in. -/
def World.careful (cfg : AppConfig) (w : World n) (l : Label n) : Prop :=
  w.handled cfg l ∧ w.spares l

variable {cfg : AppConfig} {s : Store} {now : Nat}

theorem inv_run {w : World n} (hr : (system n cfg).Run (World.careful cfg) (.start s now) w) : w.Inv :=
  Steps.Run.keeps (.start s now) (fun b l c hi hok hnext => by
    obtain ⟨hnow, heffect⟩ := next_effect hnext hok.1 hok.2
    exact hi.effect hnow heffect) hr

/-- **Sessions last** in every run in which no browser that has logged out
refreshes with its old cookie while another one is signed in. -/
theorem logout_ends_no_other_session {w : World n}
    (hr : (system n cfg).Run (World.careful cfg) (.start s now) w) : w.SessionsHeld :=
  (inv_run hr).held

/-! ## Two browsers -/

instance (w : World n) : (l : Label n) → Decidable (w.handled cfg l)
  | .wait _ => isTrue trivial
  | .operate op x => inferInstanceAs (Decidable
      (∀ sent ∈ w.sends op, x.Suffices cfg w.store sent.2))

instance (w : World n) : (l : Label n) → Decidable (w.spares l)
  | .operate .refresh _ => inferInstanceAs (Decidable
      (∀ i ∈ w.stage.refreshing, w.reuses i = true → ∀ j, j ≠ i → w.signedIn j = false))
  | .wait _ => isTrue trivial
  | .operate (.login _ _ _) _ | .operate (.logout _) _ => isTrue trivial
  | .operate (.request _ _ _) _ | .operate (.retry _) _ => isTrue trivial

instance (w : World n) (l : Label n) : Decidable (w.careful cfg l) :=
  inferInstanceAs (Decidable (w.handled cfg l ∧ w.spares l))

/-- Nothing fails, and the statements generate these texts in turn. -/
def sampleSupply (done : Nat) (texts : List String) : Supply where
  env k := (Ambient.quiet done).generating (texts.getD k "")
  done := done

/-- `sampleUser` logs in on browser `i`. -/
def sampleLogin (i : Fin 2) (done : Nat) (access token row : String) : Label 2 :=
  .operate (.login i "amina@example.com" "password")
    (sampleSupply done ["", "", access, token, "", row])

/-- A page of browser `i` asks for the subscription, without an access token. -/
def samplePage (i : Fin 2) (done : Nat) : Label 2 :=
  .operate (.request i ⟨.subscriptionStatus none, rfl⟩ none) (sampleSupply done [])

/-- Browser 0 renews its session, and browser 1 logs out. -/
theorem logout_ends_no_other_session_sample :
    ∃ w : World 2, w.session 0 = some ⟨"token-c", 2592001004⟩ ∧ w.session 1 = none ∧
      w.SessionsHeld := by
  obtain ⟨w, hr, hw⟩ := Steps.exists_run_of_replay (m := system 2 sampleConfig)
    (a := .start ApiClient.sampleSignedIn 1000) (World.careful sampleConfig)
    [sampleLogin 0 1001 "access-a" "token-a" "rt-a", sampleLogin 1 1002 "access-b" "token-b" "rt-b",
      samplePage 0 1003,
      .operate .refresh (sampleSupply 1004 ["", "", "", "", "access-c", "token-c", "", "rt-c"]),
      .operate (.retry (some sampleUser)) (sampleSupply 1005 []), .wait 2000,
      .operate (.logout 1) (sampleSupply 2001 [])]
    (fun w => decide (w.session 0 = some ⟨"token-c", 2592001004⟩) && decide (w.session 1 = none))
    (by decide +kernel)
  simp only [Bool.and_eq_true, decide_eq_true_eq] at hw
  exact ⟨w, hw.1, hw.2, logout_ends_no_other_session hr⟩

/-- Browser 0 logs out and shows a page again: the refresh presents the cookie
the logout has left, and the session of browser 1 ends. -/
theorem logout_ends_another_session :
    ∃ w : World 2, (system 2 sampleConfig).Run (World.handled sampleConfig)
      (.start ApiClient.sampleSignedIn 1000) w ∧ ¬ w.SessionsHeld := by
  obtain ⟨w, hr, hw⟩ := Steps.exists_run_of_replay (m := system 2 sampleConfig)
    (a := .start ApiClient.sampleSignedIn 1000) (World.handled sampleConfig)
    [sampleLogin 0 1001 "access-a" "token-a" "rt-a", sampleLogin 1 1002 "access-b" "token-b" "rt-b",
      .operate (.logout 0) (sampleSupply 1003 []), samplePage 0 1004,
      .operate .refresh (sampleSupply 1005 [])]
    (fun w => decide (w.session 1 = some ⟨"token-b", 2592001002⟩) && w.now == 1005 &&
      w.store.refreshTokens.rows.all fun r => r.revokedAt.isSome) (by decide +kernel)
  simp only [Bool.and_eq_true, decide_eq_true_eq, beq_iff_eq, List.all_eq_true] at hw
  obtain ⟨⟨hsession, hnow⟩, hrevoked⟩ := hw
  refine ⟨w, hr, fun hheld => ?_⟩
  obtain ⟨⟨r, hr, -, hactive, -⟩, -⟩ := hheld 1 _ hsession (by rw [hnow]; decide)
  have hr' := hrevoked r hr
  rw [hactive] at hr'
  cases hr'

end Devices

end StreamingService
