import StreamingService.Media.Playback
import StreamingService.Payments.Entitlement

/-!
# Media — Served

Full playback is served to exactly those who have paid. A playback request
that nothing fails beneath ends after at most five statements, and the
statement that decides it is the guard's query: with a paid period running on
the trace before it the video is signed, and without one the request is
refused.
-/

namespace StreamingService

open Lib

variable {cfg : AppConfig} {ok : AppState → Action Ambient Request → Prop} {b : AppState}

/-! ## What a playback request does -/

/-- The whole history of an ended playback request, newest first, and its end. -/
inductive Played (userId assetId : String) :
    List (Prog.Entry Sig) → Except Exception Reply → Prop
  | refused (instant : Millis) :
      Played userId assetId
        [⟨.subscription (.findActive userId instant), .ok none⟩, ⟨.now, .ok instant⟩]
        (.error (.forbidden "No active subscription"))
  | missing (instant : Millis) (x : Subscription) (asset : Option MediaAsset)
      (hservable : asset.bind (·.servableKey .FULL) = none) :
      Played userId assetId
        [⟨.mediaAsset (.findById assetId), .ok asset⟩,
          ⟨.subscription (.findActive userId instant), .ok (some x)⟩, ⟨.now, .ok instant⟩]
        (.error (.notFound "Media asset not found or not ready"))
  | signed (instant later : Millis) (x : Subscription) (asset : Option MediaAsset) (key : String)
      (url : SignedUrl) (hservable : asset.bind (·.servableKey .FULL) = some key) :
      Played userId assetId
        [⟨.now, .ok later⟩,
          ⟨.service (.signUrl .GET key StorageService.PLAYBACK_URL_TTL_SECONDS), .ok url⟩,
          ⟨.mediaAsset (.findById assetId), .ok asset⟩,
          ⟨.subscription (.findActive userId instant), .ok (some x)⟩, ⟨.now, .ok instant⟩]
        (.ok (.link ⟨url, later + StorageService.PLAYBACK_URL_TTL_SECONDS * 1000⟩))
  | failed {h : List (Prog.Entry Sig)} {e : Prog.Entry Sig} (he : e ∈ h) (x : Exception)
      (hx : e.2 = .error x) (r : Except Exception Reply) : Played userId assetId h r

/-- At most five statements, all of them the playback's. -/
def PlaybackStep (h : List (Prog.Entry Sig)) (e : Prog.Entry Sig) : Prop :=
  h.length < 5 ∧ Cmd.ofPlayback e.1 = true

theorem playback_played (user : JwtAccessPayload) (assetId : String) :
    (handle cfg (.playbackUrl (some user) assetId)).Emits PlaybackStep
      (fun r h => Played user.sub assetId h r) [] := by
  have failed : ∀ (c : Cmd) (e : Exception) (h : List (Prog.Entry Sig))
      (r : Except Exception Reply), Played user.sub assetId (⟨c, .error e⟩ :: h) r :=
    fun c e h r => .failed List.mem_cons_self e rfl r
  -- one statement after the other: each fails, or answers and lets the next one come
  apply Prog.Emits.call_cases (fun _ => ⟨by simp, rfl⟩)
  · intro e
    exact failed _ e _ _
  intro instant
  apply Prog.Emits.call_cases (fun _ => ⟨by simp, rfl⟩)
  · intro e
    exact failed _ e _ _
  intro found
  cases found with
  | none => exact .refused instant
  | some x =>
  apply Prog.Emits.call_cases (fun _ => ⟨by simp, rfl⟩)
  · intro e
    exact failed _ e _ _
  intro asset
  cases hservable : Option.bind asset fun a : MediaAsset => a.servableKey .FULL with
  | none =>
      simp only [Prog.bind, hservable]
      exact .missing instant x asset hservable
  | some key =>
  simp only [Prog.bind, hservable]
  apply Prog.Emits.call_cases (fun _ => ⟨by simp, rfl⟩)
  · intro e
    exact failed _ e _ _
  intro url
  apply Prog.Emits.call_cases (fun _ => ⟨by simp, rfl⟩)
  · intro e
    exact failed _ e _ _
  intro later
  exact .signed instant later x asset key url hservable

/-! ## Entitlement, by the trace and by the database -/

section

variable {periodDays : Int} {s : Store}

/-- Rows with one id that verified deliveries were resolved to are of one user. -/
theorem verified_userId (hs : s.subscriptions = .empty) (hr : (app cfg).Run ok (Machine.start s) b)
    {tid tid' : Nat} {t t' : Transaction} (h : VerifiedSuccess cfg b.trace tid t)
    (h' : VerifiedSuccess cfg b.trace tid' t') (hid : t'.id = t.id) : t'.userId = t.userId := by
  have hprov : Provenance b.store b.trace := provenance_run (.start hs) hr
  have stored : ∀ {tid : Nat} {t : Transaction}, VerifiedSuccess cfg b.trace tid t →
      ∃ row ∈ b.store.transactions, t.SameAs row := by
    rintro tid t ⟨q, outcome, -, -, -, hres⟩
    obtain ⟨e, he, hshown⟩ := hres.shown
    exact hprov.known tid e t (mem_own.mp he) hshown
  obtain ⟨row, hrow, hsame⟩ := stored h
  obtain ⟨row', hrow', hsame'⟩ := stored h'
  have hrows : row' = row := transactions_eq_of_id hrow' hrow (by rw [hsame'.id, hsame.id, hid])
  rw [← hsame'.userId, ← hsame.userId, hrows]

/-- A user whom the trace entitles has a Subscription that the guard finds, and
the other way round. -/
theorem entitled_iff (hperiod : cfg.subscription.periodDays = some periodDays)
    (hs : s.subscriptions = .empty) (hr : (app cfg).Run ok (Machine.start s) b)
    {userId : String} {instant : Millis} :
    Entitled cfg periodDays b.trace userId instant ↔ b.store.entitles userId instant = true := by
  rw [entitles_iff]
  constructor
  · rintro ⟨tid, t, x, hverified, huser, hat, hid, hruns⟩
    obtain ⟨_, hcommit⟩ := hat.commit
    have hx := committed_stored hr hcommit
    obtain ⟨tid', t', horig⟩ := subscription_origin hs hr hx
    have huser' : x.userId = userId := by
      rw [← horig.userId, ← huser]
      exact verified_userId hs hr hverified horig.verified (horig.id.trans hid)
    refine ⟨x.expiresAt, ⟨x, hx, huser', subscription_active hs hr hx, rfl⟩, ?_⟩
    rw [horig.length hperiod]
    exact hruns
  · rintro ⟨m, ⟨x, hx, huser, -, rfl⟩, hlt⟩
    obtain ⟨tid, resolvedAt, hcommit⟩ := (provenance_run (.start hs) hr).bought x hx
    obtain ⟨post, pre, htr⟩ := List.append_of_mem hcommit
    obtain ⟨t, horig⟩ := commit_origin hs hr htr
    have hverified : VerifiedSuccess cfg b.trace tid t := horig.verified.mono fun ev hev => by
      rw [htr]
      exact List.mem_append_right _ (List.mem_cons_of_mem _ hev)
    rw [horig.length hperiod] at hlt
    have hat : ActivatedAt b.trace tid x x.startAt :=
      ⟨resolvedAt, post, pre, htr, commit_clock hr htr⟩
    exact ⟨tid, t, x, hverified, horig.userId.trans huser, hat, horig.id.symm, hlt⟩

/-- The guard's query answers whether the trace before it entitles the user. -/
theorem findActive_entitled (hperiod : cfg.subscription.periodDays = some periodDays)
    (hs : s.subscriptions = .empty) (hr : (app cfg).Run ok (Machine.start s) b) {post pre : Trace}
    {tid : Nat} {userId : String} {instant : Millis} {found : Option Subscription}
    (htr : b.trace = post ++
      .did tid ⟨.subscription (.findActive userId instant), .ok found⟩ :: pre) :
    Entitled cfg periodDays pre userId instant ↔ found.isSome = true := by
  obtain ⟨a, o, c, a', ha, rfl, -, -, he, -, -, -⟩ := hr.cut htr
  obtain ⟨rfl, heq⟩ := Sigma.mk.inj he
  have hexec : (exec o (.subscription (.findActive userId instant)) a.store).1 = .ok found :=
    (eq_of_heq heq).symm
  rw [exec_of_ok hexec] at hexec
  have hfound : (a.store.subscriptions.find? fun x =>
      x.userId == userId && x.status == .ACTIVE && decide (instant < x.expiresAt)) = found :=
    Except.ok.inj hexec
  rw [entitled_iff hperiod hs ha, ← hfound]
  rfl

end

/-! ## Requests that nothing hinders -/

/-- Whenever the request of thread `tid` takes a step, the environment lets its
statement through, and the asset is served under `key`. -/
def unhindered (tid : Nat) (assetId key : String) (sys : AppState) :
    Action Ambient Request → Prop
  | .begin _ => True
  | .step t o => t = tid → o.fault = none ∧
      ∃ asset ∈ sys.store.mediaAssets, asset.id = assetId ∧ asset.servableKey .FULL = some key

/-- No statement of an unhindered playback fails, and it reads the asset as it is
served. -/
def UnhinderedEntry (assetId key : String) (e : Prog.Entry Sig) : Prop :=
  (∀ x, e.2 ≠ .error x) ∧
    ∀ asset : Option MediaAsset, e = ⟨.mediaAsset (.findById assetId), .ok asset⟩ →
      (asset.bind (·.servableKey .FULL)) = some key

theorem exec_unhindered {o : Ambient} {c : Cmd} {s : Store} {assetId key : String}
    (hc : Cmd.ofPlayback c = true) (ho : o.fault = none) {asset : MediaAsset}
    (hasset : asset ∈ s.mediaAssets) (hid : asset.id = assetId)
    (hkey : asset.servableKey .FULL = some key) :
    UnhinderedEntry assetId key ⟨c, (exec o c s).1⟩ := by
  rw [exec_answer ho]
  refine ⟨fun x hx => ?_, fun found hfound => ?_⟩
  · -- a look-up always answers, and so does the signer
    cases c with
    | now => cases hx
    | subscription c =>
        cases c with
        | findActive userId instant => cases hx
        | _ => cases hc
    | mediaAsset c =>
        cases c with
        | findById id => cases hx
        | _ => cases hc
    | service c => cases c <;> cases hx
    | transaction c => cases hc
    | account c => cases hc
    | catalog c => cases hc
  · obtain ⟨rfl, heq⟩ := Sigma.mk.inj hfound
    have hanswer : s.mediaAssets.find? (fun a => a.id == assetId) = found :=
      Except.ok.inj (eq_of_heq heq)
    rw [← hanswer, mediaAssets_find? hasset hid]
    exact hkey

/-- Every handler, as far as it is a playback. -/
theorem handle_played (cfg : AppConfig) (q : Request) :
    (handle cfg q).Emits
      (fun h e => ∀ user assetId, q = .playbackUrl (some user) assetId → PlaybackStep h e)
      (fun r h => ∀ user assetId, q = .playbackUrl (some user) assetId →
        Played user.sub assetId h r) [] := by
  by_cases hq : ∃ user assetId, q = .playbackUrl (some user) assetId
  · obtain ⟨user, assetId, rfl⟩ := hq
    refine (playback_played user assetId).mono ?_ ?_
    · rintro h e hstep user' assetId' -
      exact hstep
    · rintro r h hplayed user' assetId' heq
      cases heq
      exact hplayed
  · refine (Prog.Emits.always (handle cfg q) []).mono ?_ ?_
    · rintro h e - user assetId heq
      exact absurd ⟨user, assetId, heq⟩ hq
    · rintro r h - user assetId heq
      exact absurd ⟨user, assetId, heq⟩ hq

section

variable {s : Store} {tid : Nat} {user : JwtAccessPayload} {assetId key : String}

theorem unhindered_run (hr : (app cfg).Run (unhindered tid assetId key) (Machine.start s) b)
    (hbegan : Event.began tid (.playbackUrl (some user) assetId) ∈ b.trace) :
    ∀ e ∈ own tid b.trace, UnhinderedEntry assetId key e := by
  have hrec := Machine.Run.emits (handle_played cfg) hr
  refine Machine.Run.keeps_along (m := app cfg)
    (I := fun _ tr => (∀ q, Event.began tid q ∈ tr → q = .playbackUrl (some user) assetId) →
      ∀ e ∈ own tid tr, UnhinderedEntry assetId key e)
    (handle_played cfg) ?_ ?_ ?_ hr fun q hq => hrec.request hq hbegan
  · intro sys q _ hI _ honly
    rw [own_began]
    exact hI fun q' hq' => honly q' (List.mem_cons_of_mem _ hq')
  · intro sys t o q c k hrun hI hok hth hstep honly
    have honly' : ∀ q, Event.began tid q ∈ sys.trace → q = .playbackUrl (some user) assetId :=
      fun q' hq' => honly q' (List.mem_cons_of_mem _ hq')
    by_cases ht : t = tid
    · subst ht
      rw [own_did_self]
      intro e he
      rcases List.mem_cons.mp he with rfl | he
      · have hq := honly' q ((Machine.Run.emits (handle_played cfg) hrun).began t _ hth)
        obtain ⟨ho, asset, hasset, hid, hkey⟩ := hok rfl
        exact exec_unhindered (hstep user assetId hq).2 ho hasset hid hkey
      · exact hI honly' e he
    · rw [own_did_ne ht]
      exact hI honly'
  · intro _ e he
    cases he

end

/-! ## The guarantee -/

/-- **Full playback is for those who have paid**: in any interleaving, an
unhindered playback request is answered after at most five statements of its
own. It is answered with the asset's signed key when the trace before its
guard's query entitles the user at the instant the guard read the clock, and
with 403 when it does not. -/
theorem playback_is_for_payers {cfg : AppConfig} {periodDays : Int}
    (hperiod : cfg.subscription.periodDays = some periodDays) {s : Store}
    (hs : s.subscriptions = .empty) {b : AppState} {tid : Nat} {user : JwtAccessPayload}
    {assetId key : String}
    (hr : (app cfg).Run (unhindered tid assetId key) (Machine.start s) b)
    (hbegan : Event.began tid (.playbackUrl (some user) assetId) ∈ b.trace) :
    (b.pending tid ≠ none ∧ (own tid b.trace).length < 5) ∨
    ∃ post pre instant found,
      b.trace = post ++
        .did tid ⟨.subscription (.findActive user.sub instant), .ok found⟩ :: pre ∧
      ⟨.now, .ok instant⟩ ∈ own tid pre ∧
      ((Entitled cfg periodDays pre user.sub instant ∧
          ∃ link, AnsweredWith b tid user assetId link ∧ link.url.verb = .GET ∧
            link.url.objectKey = key) ∨
        (¬ Entitled cfg periodDays pre user.sub instant ∧
          b.threads[tid]? = some ⟨.playbackUrl (some user) assetId,
            .done (.error (.forbidden "No active subscription"))⟩)) := by
  have hrec := Machine.Run.emits (handle_played cfg) hr
  obtain ⟨⟨q, p⟩, hth, rfl⟩ := hrec.thread tid _ hbegan
  cases p with
  | call c k =>
      have hstep : PlaybackStep (own tid b.trace) ⟨c, .error .typeError⟩ :=
        Machine.Run.owes (handle_played cfg) hr hth (.error .typeError) user assetId rfl
      exact .inl ⟨by simp [Sys.pending, hth], hstep.1⟩
  | done r =>
      have hentries := unhindered_run hr hbegan
      have hplayed := hrec.emits tid _ hth user assetId rfl
      generalize hown : own tid b.trace = h at hplayed hentries
      refine .inr ?_
      cases hplayed with
      | refused instant =>
          obtain ⟨post, pre, htr, -, hpre⟩ := own_split
            (show own tid b.trace = [] ++ _ :: [⟨.now, .ok instant⟩] from hown)
          have hiff := findActive_entitled hperiod hs hr htr
          refine ⟨post, pre, instant, none, htr, by simp [hpre], .inr ⟨fun h => ?_, hth⟩⟩
          cases hiff.mp h
      | missing instant x asset hservable =>
          have hkey := (hentries _ List.mem_cons_self).2 asset rfl
          rw [hservable] at hkey
          cases hkey
      | signed instant later x asset key' url hservable =>
          have hkey := (hentries ⟨.mediaAsset (.findById assetId), .ok asset⟩ (by simp)).2 asset rfl
          rw [hservable] at hkey
          cases hkey
          have hurl : url.verb = .GET ∧ url.objectKey = key ∧
              url.expiresIn = StorageService.PLAYBACK_URL_TTL_SECONDS :=
            playbackAnswers_run hr tid
              ⟨.service (.signUrl .GET key StorageService.PLAYBACK_URL_TTL_SECONDS), .ok url⟩
              (mem_own.mp (by simp [hown]))
          obtain ⟨post, pre, htr, -, hpre⟩ := own_split
            (show own tid b.trace = [_, _, _] ++ _ :: [⟨.now, .ok instant⟩] from hown)
          have hiff := findActive_entitled hperiod hs hr htr
          exact ⟨post, pre, instant, some x, htr, by simp [hpre],
            .inl ⟨hiff.mpr rfl, _, hth, hurl.1, hurl.2.1⟩⟩
      | failed he x hx => exact absurd hx ((hentries _ he).1 x)

instance (tid : Nat) (assetId key : String) (sys : AppState) :
    (act : Action Ambient Request) → Decidable (unhindered tid assetId key sys act)
  | .begin _ => inferInstanceAs (Decidable True)
  | .step t o => inferInstanceAs (Decidable (t = tid → o.fault = none ∧
      ∃ asset ∈ sys.store.mediaAssets.rows, asset.id = assetId ∧
        asset.servableKey .FULL = some key))

/-- A playback a second after the purchase. -/
theorem playback_is_for_payers_sample :
    ∃ (b : AppState) (link : StorageService.SignedLink) (pre : Trace) (instant : Millis),
      Entitled sampleConfig 30 pre sampleUser.sub instant ∧
        AnsweredWith b 3 sampleUser "asset-1" link ∧
        link.url.objectKey = "hls/asset-1/master.m3u8" := by
  obtain ⟨b, hr, hb⟩ := Machine.exists_run_of_replay (m := app sampleConfig)
    (a := Machine.start sampleLibrary) (unhindered 3 "asset-1" "hls/asset-1/master.m3u8")
    (samplePurchase ++ samplePlayback 6000 6001)
    (fun b => (signedAnswer b 3).any fun answer => answer.1 == sampleUser &&
      answer.2.1 == "asset-1") (by decide +kernel)
  obtain ⟨⟨user, assetId, link⟩, hanswer, heq⟩ := (Option.any_eq_true _ _).mp hb
  obtain ⟨rfl, rfl⟩ : user = sampleUser ∧ assetId = "asset-1" := by simpa using heq
  have hth := signedAnswer_eq_some hanswer
  have hbegan := (Machine.Run.emits (handle_played sampleConfig) hr).began 3 _ hth
  have hperiod : sampleConfig.subscription.periodDays = some 30 := by decide +kernel
  rcases playback_is_for_payers hperiod rfl hr hbegan with
    ⟨hpending, -⟩ | ⟨-, pre, instant, -, -, -, ⟨hentitled, link', hth', -, hkey⟩ | ⟨-, hth'⟩⟩
  · simp [Sys.pending, show b.threads[3]? = _ from hth] at hpending
  · exact ⟨b, link', pre, instant, hentitled, hth', hkey⟩
  · rw [show b.threads[3]? = _ from hth] at hth'
    cases hth'

end StreamingService
