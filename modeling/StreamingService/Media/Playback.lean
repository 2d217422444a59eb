import StreamingService.Payments.Period

/-!
# Media — Playback

No free playback: behind every signed URL for full playback stands a
verified, committed payment of the same user that was still running when
`EntitlementGuard` read the clock. The guard and the signature are separate
statements, so the period may run out between the two.
-/

namespace StreamingService

open Lib

variable {cfg : AppConfig} {ok : AppState → Action Ambient Request → Prop} {b : AppState}

/-! ## The path of a playback request -/

/-- What the handler of an answered playback request did, in its own history:
the guard's clock reading and query, the asset it read and the key it had
signed. -/
structure PlaybackPath (userId assetId : String) (link : StorageService.SignedLink)
    (h : List (Prog.Entry Sig)) (instant : Millis) (x : Subscription) (asset : MediaAsset)
    (key : String) : Prop where
  clock : ⟨.now, .ok instant⟩ ∈ h
  entitled : ⟨.subscription (.findActive userId instant), .ok (some x)⟩ ∈ h
  read : ⟨.mediaAsset (.findById assetId), .ok (some asset)⟩ ∈ h
  servable : asset.servableKey .FULL = some key
  signed : ⟨.service (.signUrl .GET key StorageService.PLAYBACK_URL_TTL_SECONDS), .ok link.url⟩ ∈ h

/-- How a playback request ends. -/
def PlaybackEnd (userId assetId : String) (r : Except Exception StorageService.SignedLink)
    (h : List (Prog.Entry Sig)) : Prop :=
  ∀ link, r = .ok link → ∃ instant x asset key,
    PlaybackPath userId assetId link h instant x asset key

theorem PlaybackEnd.error {userId assetId : String} {e : Exception} {h : List (Prog.Entry Sig)} :
    PlaybackEnd userId assetId (.error e) h := by
  intro link hlink
  cases hlink

/-- `EntitlementGuard` has found a Subscription active at its clock reading. -/
def GuardPassed (userId : String) (h : List (Prog.Entry Sig)) : Prop :=
  ∃ instant x, ⟨.now, .ok instant⟩ ∈ h ∧
    ⟨.subscription (.findActive userId instant), .ok (some x)⟩ ∈ h

theorem canActivate_emits {user : JwtAccessPayload} :
    (EntitlementGuard.canActivate (some user)).Emits (fun _ _ => True)
      (fun r h => ∀ u, r = .ok u → GuardPassed user.sub h) [] := by
  refine .bind (Q := fun r h => r = .ok true → GuardPassed user.sub h) ?_
    ?_ fun e _ _ _ hr => nomatch hr
  · refine .perform_bind (fun instant => ⟨trivial, ?_⟩) fun e => ⟨trivial, fun hr => nomatch hr⟩
    refine .perform_bind (fun found => ⟨trivial, ?_⟩) fun e => ⟨trivial, fun hr => nomatch hr⟩
    intro hr
    have hactive : found.isSome = true := Except.ok.inj hr
    obtain ⟨x, rfl⟩ := Option.isSome_iff_exists.mp hactive
    exact ⟨instant, x, by simp, by simp⟩
  · intro active h' hq
    refine .ite (fun _ u hr => nomatch hr) ?_
    intro hactive u _
    have hactive : active = true := by simpa using hactive
    exact hq (by rw [hactive])

theorem getPlaybackUrl_emits {user : JwtAccessPayload} {assetId : String} :
    (MediaController.getPlaybackUrl (some user) assetId).Emits (fun _ _ => True)
      (PlaybackEnd user.sub assetId) [] := by
  show (EntitlementGuard.canActivate (some user) >>= fun _ =>
    MediaService.getPlaybackUrl assetId).Emits _ _ _
  refine .bind canActivate_emits ?_ fun e _ _ => .error
  intro u h' hpassed
  obtain ⟨instant, x, hclock, hentitled⟩ := hpassed u rfl
  unfold MediaService.getPlaybackUrl MediaService.getSignedUrlForReadyAsset
  refine .perform_bind (fun asset => ⟨trivial, ?_⟩) fun e => ⟨trivial, .error⟩
  cases hkey : asset.bind fun a => a.servableKey .FULL with
  | none =>
      exact .error
  | some key =>
      obtain ⟨a, rfl, hservable⟩ := Option.bind_eq_some_iff.mp hkey
      refine .perform_bind (fun url => ⟨trivial, ?_⟩) fun e => ⟨trivial, .error⟩
      refine .perform_bind (fun later => ⟨trivial, ?_⟩) fun e => ⟨trivial, .error⟩
      intro link hlink
      cases hlink
      exact ⟨instant, x, a, key, by simp [hclock], by simp [hentitled], by simp, hservable,
        by simp⟩

theorem playback_emits (cfg : AppConfig) (q : Request) :
    (handle cfg q).Emits (fun _ _ => True)
      (fun r h => ∀ user assetId link, q = .playbackUrl (some user) assetId → r = .ok (.link link) →
        ∃ instant x asset key, PlaybackPath user.sub assetId link h instant x asset key) [] := by
  have other : (∀ user assetId, q ≠ .playbackUrl (some user) assetId) →
      (handle cfg q).Emits (fun _ _ => True)
        (fun r h => ∀ user assetId link, q = .playbackUrl (some user) assetId →
          r = .ok (.link link) →
          ∃ instant x asset key, PlaybackPath user.sub assetId link h instant x asset key) [] :=
    fun hne => .of_calls (handle_calls cfg q) (fun _ _ _ => trivial)
      fun _ _ user assetId _ hq => absurd hq (hne user assetId)
  cases q with
  | playbackUrl user assetId =>
      cases user with
      | none => exact other (by simp)
      | some user =>
          refine .bind getPlaybackUrl_emits ?_ ?_
          · intro link h' hend user' assetId' link' hq hr
            cases hq
            cases hr
            exact hend link rfl
          · intro e _ _ _ _ _ _ hr
            cases hr
  | _ => exact other (by simp)

/-! ## What the answers of a playback say -/

/-- The asset read is the one asked for, and a URL covers the key it was
signed for. -/
def PlaybackAnswer : Prog.Entry Sig → Prop
  | ⟨.mediaAsset (.findById id), .ok (some asset)⟩ => asset.id = id
  | ⟨.service (.signUrl verb key ttl), .ok url⟩ =>
      url.verb = verb ∧ url.objectKey = key ∧ url.expiresIn = ttl
  | _ => True

theorem playbackAnswer_error (c : Cmd) (e : Exception) : PlaybackAnswer ⟨c, .error e⟩ := by
  cases c with
  | mediaAsset c => cases c <;> trivial
  | service c => cases c <;> trivial
  | _ => trivial

theorem answer_playbackAnswer (o : Ambient) (c : Cmd) (s : Store) :
    PlaybackAnswer ⟨c, (answer o c s).1⟩ := by
  cases c with
  | mediaAsset c =>
      cases c with
      | findById id =>
          simp only [answer, MediaAssetStmt.answer]
          cases hfind : s.mediaAssets.find? fun a => a.id == id with
          | none => trivial
          | some a =>
              show a.id = id
              simpa using (Table.mem_of_find? hfind).2
      | _ => trivial
  | service c =>
      cases c with
      | signUrl verb key ttl => exact ⟨rfl, rfl, rfl⟩
      | _ => trivial
  | _ => trivial

theorem exec_playbackAnswer (o : Ambient) (c : Cmd) (s : Store) :
    PlaybackAnswer ⟨c, (exec o c s).1⟩ :=
  exec_cases (P := fun out => PlaybackAnswer ⟨c, out.1⟩) (playbackAnswer_error c)
    (answer_playbackAnswer o c s)

/-- The guard's answer against the trace before it: the Subscription it found
is the user's, still runs, and was committed earlier. -/
def GuardAnswer (ev : Event Sig Request) (pre : Trace) : Prop :=
  match ev with
  | .did _ ⟨.subscription (.findActive userId instant), .ok (some x)⟩ =>
      x.userId = userId ∧ instant < x.expiresAt ∧
        ∃ tid resolvedAt, Event.did tid (committed x resolvedAt) ∈ pre
  | _ => True

theorem guardAnswer_of_ne {tid : Nat} {c : Cmd} {r : Except Exception c.Resp} {pre : Trace}
    (h : ∀ userId instant, c ≠ .subscription (.findActive userId instant)) :
    GuardAnswer (.did tid ⟨c, r⟩) pre := by
  cases c with
  | subscription c =>
      cases c with
      | findActive userId instant => exact absurd rfl (h userId instant)
      | _ => cases r <;> trivial
  | _ => trivial

theorem guardAnswer {s : Store} {tr : Trace} (h : Provenance s tr) (o : Ambient) (c : Cmd)
    (tid : Nat) : GuardAnswer (.did tid ⟨c, (exec o c s).1⟩) tr := by
  by_cases hc : ∃ userId instant, c = .subscription (.findActive userId instant)
  · obtain ⟨userId, instant, rfl⟩ := hc
    cases hf : o.fault with
    | some e =>
        rw [exec_fault hf _ s (by simp)]
        trivial
    | none =>
        rw [exec_answer hf]
        simp only [answer, SubscriptionStmt.answer]
        cases hfind : s.subscriptions.find? fun x =>
            x.userId == userId && x.status == .ACTIVE && decide (instant < x.expiresAt) with
        | none => trivial
        | some x =>
            obtain ⟨hx, hactive⟩ := Table.mem_of_find? hfind
            simp only [Bool.and_eq_true, beq_iff_eq, decide_eq_true_eq] at hactive
            exact ⟨hactive.1.1, hactive.2, h.bought x hx⟩
  · exact guardAnswer_of_ne fun userId instant heq => hc ⟨userId, instant, heq⟩

/-- The guard's answers over a run, each against the trace before it. -/
theorem guardAnswers_run {s : Store} (hs : s.subscriptions = .empty)
    (hr : (app cfg).Run ok (Machine.start s) b) : Always GuardAnswer b.trace := by
  have hinv : Provenance b.store b.trace ∧ Always GuardAnswer b.trace :=
    Machine.Run.keeps (I := fun s tr => Provenance s tr ∧ Always GuardAnswer tr)
      (fun s tr tid q h => ⟨h.1.began tid q, trivial, h.2⟩)
      (fun sys tid o c h _ _ =>
        ⟨h.1.did (exec_ledger o c sys.store) (exec_answers o c sys.store) tid,
          guardAnswer h.1 o c tid, h.2⟩) (show _ ∧ Always GuardAnswer [] from
        ⟨.start hs, trivial⟩) hr
  exact hinv.2

theorem playbackAnswers_run {s : Store} (hr : (app cfg).Run ok (Machine.start s) b) :
    ∀ tid e, Event.did tid e ∈ b.trace → PlaybackAnswer e :=
  Machine.Run.answers (K := fun _ e => PlaybackAnswer e) exec_playbackAnswer
    (fun _ _ _ _ h => h) hr

/-! ## The guarantee -/

/-- Thread `tid` answered the user's playback request with a signed URL. -/
def AnsweredWith (b : AppState) (tid : Nat) (user : JwtAccessPayload) (assetId : String)
    (link : StorageService.SignedLink) : Prop :=
  b.threads[tid]? = some ⟨.playbackUrl (some user) assetId, .done (.ok (.link link))⟩

/-- A user is entitled at an instant, by the trace: a delivery that passed
its provider's `verify`, with outcome `SUCCEEDED`, was resolved to a
Transaction of the user, and its activation committed with a `startAt`, its own
clock reading, less than a period before. -/
def Entitled (cfg : AppConfig) (periodDays : Int) (tr : Trace) (userId : String)
    (instant : Millis) : Prop :=
  ∃ tid t x, VerifiedSuccess cfg tr tid t ∧ t.userId = userId ∧
    ActivatedAt tr tid x x.startAt ∧ x.transactionId = t.id ∧
    instant < x.startAt + periodDays * 86400000

/-- **No free playback**: an answered playback request was let through by an
entitlement that held, on the trace before the guard's query, at the
instant the guard read the clock; and its URL covers the key of a `FULL`
asset that was `READY` when it was read. -/
theorem no_free_playback {cfg : AppConfig} {periodDays : Int}
    (hperiod : cfg.subscription.periodDays = some periodDays) {s : Store}
    (hs : s.subscriptions = .empty) {b : AppState}
    (hr : (app cfg).Run anyAction (Machine.start s) b) {tid : Nat} {user : JwtAccessPayload}
    {assetId : String} {link : StorageService.SignedLink}
    (hth : AnsweredWith b tid user assetId link) :
    ∃ instant x asset, ⟨.now, .ok instant⟩ ∈ own tid b.trace ∧
      (∃ post pre, b.trace = post ++
          .did tid ⟨.subscription (.findActive user.sub instant), .ok (some x)⟩ :: pre ∧
        Entitled cfg periodDays pre user.sub instant) ∧
      ⟨.mediaAsset (.findById assetId), .ok (some asset)⟩ ∈ own tid b.trace ∧
      asset.id = assetId ∧ asset.kind = .FULL ∧ asset.processingStatus = .READY ∧
      asset.hlsManifestKey = some link.url.objectKey := by
  have hrec := Machine.Run.emits (playback_emits cfg) hr
  -- the path of the thread, and what each of its answers says
  obtain ⟨instant, x, asset, key, hpath⟩ := hrec.emits tid _ hth user assetId link rfl rfl
  have hanswers := playbackAnswers_run hr
  have hasset : asset.id = assetId := hanswers _ _ (mem_own.mp hpath.read)
  have hsigned := hanswers _ _ (mem_own.mp hpath.signed)
  obtain ⟨hkind, hready, hkey, -⟩ := MediaAsset.servableKey_eq_some hpath.servable
  refine ⟨instant, x, asset, hpath.clock, ?_, hpath.read, hasset, hkind, hready, ?_⟩
  · obtain ⟨post, pre, htr⟩ := List.append_of_mem (mem_own.mp hpath.entitled)
    refine ⟨post, pre, htr, ?_⟩
    have hguard := guardAnswers_run hs hr
    rw [htr] at hguard
    obtain ⟨huser, hruns, wid, resolvedAt, hcommit⟩ := hguard.split
    -- the commit before the query carries its own verified delivery
    obtain ⟨post', pre', hpre⟩ := List.append_of_mem hcommit
    have htr' : b.trace = (post ++ .did tid ⟨.subscription (.findActive user.sub instant),
        .ok (some x)⟩ :: post') ++ .did wid (committed x resolvedAt) :: pre' := by
      rw [htr, hpre]
      simp
    obtain ⟨t, horig⟩ := commit_origin hs hr htr'
    have hverified : VerifiedSuccess cfg pre wid t := horig.verified.mono fun ev hev => by
      rw [hpre]
      exact List.mem_append_right _ (List.mem_cons_of_mem _ hev)
    have hat : ActivatedAt pre wid x x.startAt :=
      ⟨resolvedAt, post', pre', hpre, commit_clock hr htr'⟩
    refine ⟨wid, t, x, hverified, ?_, hat, horig.id.symm, ?_⟩
    · rw [horig.userId, huser]
    · rw [← horig.length hperiod]
      exact hruns
  · rw [hkey, hsigned.2.1]

/-! ## A signature after the period -/

/-- One `READY` full video, and no Subscription. -/
def sampleLibrary : Store :=
  { Store.empty with
    mediaAssets := ⟨[{ id := "asset-1", ownerType := .TITLE, ownerId := "title-1", kind := .FULL,
                       processingStatus := .READY, sourceObjectKey := "sources/title/title-1/full/s",
                       hlsManifestKey := some "hls/asset-1/master.m3u8", failureReason := none }],
      by decide⟩ }

/-- Thread 3 asks for full playback: the guard reads the clock at `guard`, the
URL is signed at `signature`. -/
def samplePlayback (guard signature : Millis) : List (Action Ambient Request) :=
  [.begin (.playbackUrl (some sampleUser) "asset-1"), .step 3 (.quiet guard),
    .step 3 (.quiet guard), .step 3 (.quiet guard), .step 3 (.quiet signature),
    .step 3 (.quiet signature)]

def samplePurchase : List (Action Ambient Request) :=
  sampleRegistration ++ samplePush ++ sampleActivation

/-- The thread that asked, and what it was answered. -/
def signedAnswer (b : AppState) (tid : Nat) :
    Option (JwtAccessPayload × String × StorageService.SignedLink) :=
  match b.threads[tid]? with
  | some ⟨.playbackUrl (some user) assetId, .done (.ok (.link link))⟩ => some (user, assetId, link)
  | _ => none

theorem signedAnswer_eq_some {b : AppState} {tid : Nat} {user : JwtAccessPayload}
    {assetId : String} {link : StorageService.SignedLink}
    (h : signedAnswer b tid = some (user, assetId, link)) : AnsweredWith b tid user assetId link := by
  unfold signedAnswer at h
  split at h
  · rename_i hth
    cases h
    exact hth
  · cases h

/-- An event that entitles nobody at `instant`. -/
def entitlesNone (periodDays : Int) (instant : Millis) : Event Sig Request → Bool
  | .did _ ⟨.subscription (.commitActivation _ _ _ _ _), .ok x⟩ =>
      decide (x.startAt + periodDays * 86400000 ≤ instant)
  | _ => true

theorem not_entitled {periodDays : Int} {tr : Trace} {userId : String} {instant : Millis}
    (h : tr.all (entitlesNone periodDays instant) = true) :
    ¬ Entitled cfg periodDays tr userId instant := by
  rintro ⟨tid, t, x, -, -, hat, -, hruns⟩
  obtain ⟨_, hcommit⟩ := hat.commit
  have hover : x.startAt + periodDays * 86400000 ≤ instant :=
    of_decide_eq_true (List.all_eq_true.mp h _ hcommit)
  exact absurd hruns (Int.not_lt.mpr hover)

/-- The guard reads the clock one millisecond before the period ends, the URL
is signed at its end. -/
theorem signature_outlives_period :
    ∃ b : AppState, (app sampleConfig).Run anyAction (Machine.start sampleLibrary) b ∧
      ∃ tid user assetId link, AnsweredWith b tid user assetId link ∧
        ¬ Entitled sampleConfig 30 b.trace user.sub link.url.signedAt := by
  obtain ⟨b, hr, hb⟩ := Machine.exists_run_of_replay (m := app sampleConfig)
    (a := Machine.start sampleLibrary) anyAction
    (samplePurchase ++ samplePlayback 2592005002 2592005003)
    (fun b => (signedAnswer b 3).any fun answer =>
      b.trace.all (entitlesNone 30 answer.2.2.url.signedAt)) (by decide +kernel)
  obtain ⟨⟨user, assetId, link⟩, hanswer, hover⟩ := (Option.any_eq_true _ _).mp hb
  exact ⟨b, hr, 3, user, assetId, link, signedAnswer_eq_some hanswer, not_entitled hover⟩

/-- A playback within the period. -/
theorem no_free_playback_sample :
    ∃ (b : AppState) (link : StorageService.SignedLink) (asset : MediaAsset),
      asset.kind = .FULL ∧ asset.processingStatus = .READY ∧
        asset.hlsManifestKey = some link.url.objectKey ∧
        ∃ pre instant, Entitled sampleConfig 30 pre sampleUser.sub instant ∧
          (app sampleConfig).Run anyAction (Machine.start sampleLibrary) b := by
  obtain ⟨b, hr, hb⟩ := Machine.exists_run_of_replay (m := app sampleConfig)
    (a := Machine.start sampleLibrary) anyAction (samplePurchase ++ samplePlayback 6000 6001)
    (fun b => (signedAnswer b 3).any fun answer => answer.1 == sampleUser) (by decide +kernel)
  obtain ⟨⟨user, assetId, link⟩, hanswer, huser⟩ := (Option.any_eq_true _ _).mp hb
  have huser : user = sampleUser := by simpa using huser
  subst huser
  obtain ⟨instant, x, asset, -, ⟨post, pre, -, hentitled⟩, -, -, hkind, hready, hkey⟩ :=
    no_free_playback (show sampleConfig.subscription.periodDays = some 30 by decide +kernel) rfl hr
      (signedAnswer_eq_some hanswer)
  exact ⟨b, link, asset, hkind, hready, hkey, pre, instant, hentitled, hr⟩

end StreamingService
