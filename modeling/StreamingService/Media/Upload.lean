import StreamingService.Media.Assets
import StreamingService.Lib.Crash
import StreamingService.Lib.Halfway

/-!
# Media — Upload

Registering an upload and completing one when a statement fails. Both write
the asset's row first and only then sign the URL or queue the job; what
fails after that leaves a row that speaks of an upload nobody can make, or
`PENDING` with no job to resolve it.
-/

namespace StreamingService

open Lib

/-- The `media_assets` of `s'` are those of `s`. -/
def SameAssets (s s' : Store) : Prop := s'.mediaAssets = s.mediaAssets

/-- What is left of a call leaves the rows of `s₀` if it throws. -/
abbrev LeavesAssets {α : Type} (s₀ : Store) (p : App α) (os : Nat → Ambient) (s : Store) : Prop :=
  Prog.AllOrNothing exec (SameAssets s₀) (fun _ => false) p os s

/-- The call leaves every row as it was if it throws. -/
abbrev LeavesAssetsAlone {α : Type} (p : App α) (os : Nat → Ambient) (s : Store) : Prop :=
  LeavesAssets s p os s

/-! ## What may still fail -/

/-- The row waits for its first transcode: a reset changes nothing about it. -/
def MediaAsset.isFresh (a : MediaAsset) : Bool :=
  a.processingStatus == .PENDING && a.failureReason.isNone

/-- `ownerType` and `ownerId` name a stored title or episode. -/
def Store.hasOwner (s : Store) : MediaOwnerType → String → Bool
  | .TITLE, id => (s.titles.find? fun t => t.id == id).isSome
  | .EPISODE, id => (s.episodes.find? fun e => e.id == id).isSome

/-- The upsert of this source changes the rows: the owner's asset of the kind
has another source or has been worked on, or there is none and a row of this id
is admitted. -/
def Store.upsertChanges (s : Store) (dto : AdminMediaService.RegisterMediaAssetDto)
    (key id : String) : Prop :=
  match s.mediaAssets.find? fun a => a.ownedBy dto.ownerType dto.ownerId dto.kind with
  | some a => a.replaceSource key ≠ a
  | none => s.mediaAssets.Admits ⟨id, dto.ownerType, dto.ownerId, dto.kind, .PENDING, key, none, none⟩

/-- A registration gets as far as to change a row. -/
structure ReplacesSource (s : Store) (dto : AdminMediaService.RegisterMediaAssetDto)
    (os : Nat → Ambient) : Prop where
  looked : (os 0).fault = none
  owned : s.hasOwner dto.ownerType dto.ownerId = true
  drawn : (os 1).fault = none
  stored : (os 2).fault = none
  changes : s.upsertChanges dto (AdminMediaService.sourceObjectKey dto (os 1).fresh) (os 2).fresh

/-- A completion gets as far as to change the asset's row. -/
structure ResetsAsset (s : Store) (assetId : String) (os : Nat → Ambient) : Prop where
  looked : (os 0).fault = none
  changes : ∃ a ∈ s.mediaAssets, a.id = assetId ∧ a.isFresh = false
  stored : (os 1).fault = none

/-! ## Statement by statement -/

section

variable {s₀ s s' : Store} {os : Nat → Ambient} {α : Type} {c : Cmd} {f : c.Resp → App α}

/-- A statement before a row is changed. -/
theorem upload_before (hsame : SameAssets s₀ s) :
    LeavesAssets s₀ (stmt c >>= f) os s ↔
      ∀ a s', exec (os 0) c s = (.ok a, s') → LeavesAssets s₀ (f a) (fun n => os (n + 1)) s' := by
  refine Prog.AllOrNothing.before_iff fun e s'' hex => ?_
  rw [exec_refused hex]
  exact hsame

/-- A statement after one is. -/
theorem upload_after (hdiffers : ¬ SameAssets s₀ s) :
    LeavesAssets s₀ (stmt c >>= f) os s ↔
      ∃ a s', exec (os 0) c s = (.ok a, s') ∧ LeavesAssets s₀ (f a) (fun n => os (n + 1)) s' := by
  refine Prog.AllOrNothing.after_iff fun e s'' hex => ?_
  rw [exec_refused hex]
  exact ⟨rfl, hdiffers⟩

end

section

variable {s₀ s : Store} {os : Nat → Ambient} {α : Type}

/-- The check of an owner, before what follows it. -/
theorem lookup_bind {c : Cmd} {found : c.Resp → Bool} {e : Exception} {g : Unit → App α} :
    ((stmt c >>= fun r => if (!found r) = true then throw e else pure ()) >>= g) =
      stmt c >>= fun r => if found r = true then g () else throw e := by
  refine congrArg (Prog.call (S := Sig) c) (funext fun r => ?_)
  cases r with
  | error e => rfl
  | ok a =>
      show ((if (!found a) = true then throw e else pure ()) >>= g) =
        if found a = true then g () else throw e
      cases found a <;> rfl

theorem owner_before {ownerType : MediaOwnerType} {ownerId : String} {g : Unit → App α}
    (hsame : SameAssets s₀ s) :
    LeavesAssets s₀ (AdminMediaService.assertOwnerExists ownerType ownerId >>= g) os s ↔
      ((os 0).fault = none → s.hasOwner ownerType ownerId = true →
        LeavesAssets s₀ (g ()) (fun n => os (n + 1)) s) := by
  have hfound : ∀ (b : Bool) (e : Exception),
      LeavesAssets s₀ (if b = true then g () else throw e) (fun n => os (n + 1)) s ↔
        (b = true → LeavesAssets s₀ (g ()) (fun n => os (n + 1)) s) := by
    intro b e
    by_cases hb : b = true
    · exact (Prog.AllOrNothing.pos_iff hb).trans (imp_iff_right hb).symm
    · refine iff_of_true ((Prog.AllOrNothing.neg_iff hb).mpr ?_) fun h => absurd h hb
      exact Prog.AllOrNothing.throw_iff.mpr fun _ => hsame
  cases ownerType with
  | TITLE =>
      refine (iff_of_eq (congrArg (LeavesAssets s₀ · os s) lookup_bind)).trans ?_
      exact ((upload_before hsame).trans (exec_forall (by simp) rfl)).trans
        (forall_congr' fun _ => hfound _ _)
  | EPISODE =>
      refine (iff_of_eq (congrArg (LeavesAssets s₀ · os s) lookup_bind)).trans ?_
      exact ((upload_before hsame).trans (exec_forall (by simp) rfl)).trans
        (forall_congr' fun _ => hfound _ _)

theorem signing_before {key : String} {g : StorageService.SignedLink → α} (hsame : SameAssets s₀ s) :
    LeavesAssets s₀ (StorageService.getUploadUrl key >>= fun upload => pure (g upload)) os s := by
  refine Prog.AllOrNothing.answer_iff.mpr ((upload_before hsame).mpr ?_)
  exact (exec_forall (by simp) rfl).mpr fun _ => (Prog.AllOrNothing.ok_iff rfl).mpr (.done _)

/-- Signing follows the write. -/
theorem signing_after {key : String} {g : StorageService.SignedLink → α}
    (hdiffers : ¬ SameAssets s₀ s) :
    LeavesAssets s₀ (StorageService.getUploadUrl key >>= fun upload => pure (g upload)) os s ↔
      (os 0).fault = none := by
  refine Prog.AllOrNothing.answer_iff.trans ((upload_after hdiffers).trans ?_)
  refine (exec_exists (by simp) rfl).trans (and_iff_left ?_)
  exact (Prog.AllOrNothing.ok_iff rfl).mpr (.done _)

end

section

variable {s : Store} {os : Nat → Ambient}

/-- The upsert is refused, or accepted; the rows differ exactly if it changes them. -/
theorem upsert_cases (o : Ambient) (s : Store) (dto : AdminMediaService.RegisterMediaAssetDto)
    (key : String) :
    ((∃ e, answer o (.mediaAsset (.upsert dto.ownerType dto.ownerId dto.kind key)) s = (.error e, s)) ∧
      ¬ s.upsertChanges dto key o.fresh) ∨
    ∃ row s', answer o (.mediaAsset (.upsert dto.ownerType dto.ownerId dto.kind key)) s = (.ok row, s') ∧
      (SameAssets s s' ↔ ¬ s.upsertChanges dto key o.fresh) := by
  simp only [answer, MediaAssetStmt.answer, Store.upsertChanges]
  cases hfind : s.mediaAssets.find? fun a => a.ownedBy dto.ownerType dto.ownerId dto.kind with
  | some a =>
      obtain ⟨ha, howned⟩ := Table.mem_of_find? hfind
      refine .inr ⟨_, _, rfl, ?_⟩
      refine (Table.update_eq_self s.mediaAssets
        (p := fun a => a.ownedBy dto.ownerType dto.ownerId dto.kind) (f := .replaceSource key)
        fun _ _ => rfl).trans (Iff.trans ?_ not_not.symm)
      refine ⟨fun hsame => hsame a ha howned, fun hrow x hx hxowned => ?_⟩
      -- the owner's index admits one row of the owner and kind
      have hxa : x = a := by
        refine Table.eq_of_clash hx ha ?_
        simp only [MediaAsset.ownedBy, Bool.and_eq_true, beq_iff_eq] at howned hxowned
        simp [Indexed.clash, howned, hxowned]
      rw [hxa]
      exact hrow
  | none =>
      simp only [Table.admits_iff]
      cases hins : s.mediaAssets.insert?
          ⟨o.fresh, dto.ownerType, dto.ownerId, dto.kind, .PENDING, key, none, none⟩ with
      | none => exact .inl ⟨⟨_, rfl⟩, by simp⟩
      | some as =>
          refine .inr ⟨_, _, rfl, iff_of_false ?_ (not_not.mpr ⟨as, rfl⟩)⟩
          intro hsame
          have hrows := Table.insert?_eq_some hins
          rw [show as = s.mediaAssets from hsame] at hrows
          simpa using congrArg List.length hrows

theorem register_leavesAssets {dto : AdminMediaService.RegisterMediaAssetDto} :
    LeavesAssetsAlone (AdminMediaService.registerMediaAsset dto) os s ↔
      (ReplacesSource s dto os → (os 3).fault = none) := by
  have hchain : LeavesAssetsAlone (AdminMediaService.registerMediaAsset dto) os s ↔
      ((os 0).fault = none → s.hasOwner dto.ownerType dto.ownerId = true → (os 1).fault = none →
        (os 2).fault = none →
        s.upsertChanges dto (AdminMediaService.sourceObjectKey dto (os 1).fresh) (os 2).fresh →
        (os 3).fault = none) := by
    refine (owner_before rfl).trans (forall_congr' fun _ => forall_congr' fun _ => ?_)
    refine ((upload_before rfl).trans (exec_forall (by simp) rfl)).trans (forall_congr' fun _ => ?_)
    rcases upsert_cases (os 2) s dto (AdminMediaService.sourceObjectKey dto (os 1).fresh) with
      ⟨⟨e, hans⟩, hno⟩ | ⟨row, s', hans, hsame⟩
    · refine iff_of_true ((upload_before rfl).mpr fun a s' hex => ?_) fun _ hyes => absurd hyes hno
      cases hans.symm.trans (exec_ok hex)
    · refine ((upload_before rfl).trans (exec_forall (by simp) hans)).trans (forall_congr' fun _ => ?_)
      by_cases hchanges : s.upsertChanges dto
          (AdminMediaService.sourceObjectKey dto (os 1).fresh) (os 2).fresh
      · refine Iff.trans ?_ (imp_iff_right hchanges).symm
        exact signing_after fun h => hsame.mp h hchanges
      · exact iff_of_true (signing_before (hsame.mpr hchanges)) fun h => absurd h hchanges
  exact hchain.trans
    ⟨fun h hin => h hin.looked hin.owned hin.drawn hin.stored hin.changes,
      fun h hlooked howned hdrawn hstored hchanges =>
        h ⟨hlooked, howned, hdrawn, hstored, hchanges⟩⟩

/-- The row the reset leaves. -/
def MediaAsset.reset (a : MediaAsset) : MediaAsset :=
  { a with processingStatus := .PENDING, failureReason := none }

theorem MediaAsset.reset_eq_self {a : MediaAsset} : a.reset = a ↔ a.isFresh = true := by
  cases a
  simp only [MediaAsset.reset, MediaAsset.isFresh, Bool.and_eq_true, beq_iff_eq,
    Option.isNone_iff_eq_none, MediaAsset.mk.injEq]
  grind

/-- The store after the reset of a row. -/
def Store.reset (s : Store) (assetId : String) : Store :=
  { s with mediaAssets := s.mediaAssets.update (fun a => a.id == assetId) .reset fun _ _ => rfl }

/-- An update of a stored row is accepted. -/
theorem updateAsset_ok {a : MediaAsset} {f : MediaAsset → MediaAsset}
    {hf : ∀ a b, Indexed.clash (f a) b = Indexed.clash a b} (ha : a ∈ s.mediaAssets) :
    updateAsset s a.id f hf =
      (.ok (), { s with mediaAssets := s.mediaAssets.update (fun x => x.id == a.id) f hf }) := by
  simp only [updateAsset, mediaAssets_find? ha rfl]

theorem reset_answer {o : Ambient} {a : MediaAsset} (ha : a ∈ s.mediaAssets) :
    answer o (.mediaAsset (.resetToPending a.id)) s = (.ok (), s.reset a.id) :=
  updateAsset_ok ha

theorem reset_mem {a : MediaAsset} (ha : a ∈ s.mediaAssets) :
    a.reset ∈ (s.reset a.id).mediaAssets := by
  refine List.mem_map.mpr ⟨a, ha, ?_⟩
  rw [if_pos (beq_self_eq_true _)]

theorem reset_same {a : MediaAsset} (ha : a ∈ s.mediaAssets) :
    SameAssets s (s.reset a.id) ↔ a.isFresh = true := by
  refine (Table.update_eq_self s.mediaAssets (p := fun x => x.id == a.id) (f := .reset)
    fun _ _ => rfl).trans (Iff.trans ?_ MediaAsset.reset_eq_self)
  refine ⟨fun hsame => hsame a ha (by simp), ?_⟩
  intro hreset x hx hid
  rw [mediaAssets_eq_of_id hx ha (by simpa using hid)]
  exact hreset

/-- The last statement of a completion. -/
theorem last_before {c : Cmd} {s₀ : Store} {answered : String} (hsame : SameAssets s₀ s) :
    LeavesAssets s₀ (stmt c >>= fun _ => pure answered) os s :=
  (upload_before hsame).mpr fun _ _ _ => .done _

theorem last_after {c : Cmd} {s₀ s' : Store} {answered : String} {a : c.Resp}
    (hdiffers : ¬ SameAssets s₀ s) (hc : c ≠ .now) (hans : answer (os 0) c s = (.ok a, s')) :
    LeavesAssets s₀ (stmt c >>= fun _ => pure answered) os s ↔ (os 0).fault = none :=
  ((upload_after hdiffers).trans (exec_exists hc hans)).trans (and_iff_left (.done _))

/-- A completion of a stored asset. -/
theorem completeUpload_leaves_asset {a : MediaAsset} (ha : a ∈ s.mediaAssets) :
    LeavesAssetsAlone (AdminMediaService.completeUpload a.id) os s ↔
      ((os 0).fault = none → (os 1).fault = none → a.isFresh = false → (os 2).fault = none) := by
  have hfind : s.mediaAssets.find? (fun x => x.id == a.id) = some a := mediaAssets_find? ha rfl
  refine ((upload_before rfl).trans (exec_forall (by simp) rfl)).trans (forall_congr' fun _ => ?_)
  rw [hfind]
  refine ((upload_before rfl).trans (exec_forall (by simp) (reset_answer ha))).trans
    (forall_congr' fun _ => ?_)
  cases hfresh : a.isFresh with
  | true =>
      have hsame : SameAssets s (s.reset a.id) := (reset_same ha).mpr hfresh
      refine iff_of_true ?_ fun h => by cases h
      cases a.kind with
      | FULL => exact last_before hsame
      | TRAILER => exact last_before hsame
  | false =>
      have hdiffers : ¬ SameAssets s (s.reset a.id) := by
        rw [reset_same ha, hfresh]
        simp
      refine Iff.trans ?_ (imp_iff_right rfl).symm
      cases hkind : a.kind with
      | FULL => exact last_after hdiffers (by simp) rfl
      | TRAILER => exact last_after hdiffers (by simp) (updateAsset_ok (a := a.reset) (reset_mem ha))

theorem completeUpload_leaves {assetId : String} :
    LeavesAssetsAlone (AdminMediaService.completeUpload assetId) os s ↔
      (ResetsAsset s assetId os → (os 2).fault = none) := by
  cases hfind : s.mediaAssets.find? fun a => a.id == assetId with
  | none =>
      refine iff_of_true ?_ ?_
      · refine (upload_before rfl).mpr ((exec_forall (by simp) rfl).mpr fun _ => ?_)
        rw [hfind]
        exact Prog.AllOrNothing.throw_iff.mpr fun _ => rfl
      · rintro ⟨-, ⟨a, ha, hid, -⟩, -⟩
        exact absurd hid (by simpa using Table.find?_eq_none.mp hfind a ha)
  | some a =>
      obtain ⟨ha, hid⟩ := Table.mem_of_find? hfind
      obtain rfl : a.id = assetId := by simpa using hid
      refine (completeUpload_leaves_asset ha).trans ⟨?_, ?_⟩
      · rintro h ⟨hlooked, ⟨x, hx, hid', hfresh⟩, hstored⟩
        rw [mediaAssets_eq_of_id hx ha hid'] at hfresh
        exact h hlooked hstored hfresh
      · exact fun h hlooked hstored hfresh => h ⟨hlooked, ⟨a, ha, rfl, hfresh⟩, hstored⟩

end

/-! ## The job of a completed upload -/

/-- When the completion of a full video answers, its job is in the queue, once. -/
def EnqueuesOnce (assetId : String) (os : Nat → Ambient) (s : Store) : Prop :=
  ∀ a ∈ s.mediaAssets, a.id = assetId → a.kind = .FULL → ∀ answer,
    ((AdminMediaService.completeUpload assetId).run exec os s).1 = .ok answer →
    ((AdminMediaService.completeUpload assetId).runStore exec os s).transcodeQueue =
      s.transcodeQueue ++ [⟨assetId, a.sourceObjectKey⟩]

theorem findAsset_store {o : Ambient} {s : Store} {id : String} {found : Option MediaAsset}
    {s' : Store} (hex : exec o (.mediaAsset (.findById id)) s = (.ok found, s')) :
    found = s.mediaAssets.find? (fun a => a.id == id) ∧ s' = s := by
  have hans := exec_ok hex
  cases hans
  exact ⟨rfl, rfl⟩

theorem reset_queue {o : Ambient} {s s' : Store} {id : String} {u : Unit}
    (hex : exec o (.mediaAsset (.resetToPending id)) s = (.ok u, s')) :
    s'.transcodeQueue = s.transcodeQueue := by
  have hframe := (exec_frame o s (.mediaAsset (.resetToPending id))).transcodeQueue (by simp)
  rw [hex] at hframe
  exact hframe

theorem completeUpload_enqueues (assetId : String) (os : Nat → Ambient) (s : Store) :
    EnqueuesOnce assetId os s := by
  intro a ha hid hkind
  have hfind : s.mediaAssets.find? (fun a => a.id == assetId) = some a :=
    mediaAssets_find? ha hid
  have hsafe : Prog.Safe exec (fun _ _ => True) (fun _ => True)
      (fun r s' => ∀ answer, r = .ok answer →
        s'.transcodeQueue = s.transcodeQueue ++ [⟨assetId, a.sourceObjectKey⟩])
      (AdminMediaService.completeUpload assetId) s := by
    refine Prog.Safe.perform_bind trivial ?_ fun _ _ _ _ _ => ⟨trivial, fun _ hr => by cases hr⟩
    intro o found s₁ _ hex
    obtain ⟨rfl, rfl⟩ := findAsset_store hex
    rw [hfind]
    refine Prog.Safe.perform_bind trivial ?_ fun _ _ _ _ _ => ⟨trivial, fun _ hr => by cases hr⟩
    intro o u s₂ _ hex
    have hqueue := reset_queue hex
    simp only [hkind]
    refine Prog.Safe.perform_bind trivial ?_ fun _ _ _ _ _ => ⟨trivial, fun _ hr => by cases hr⟩
    intro o u s₃ _ hex
    have hans := exec_ok hex
    cases hans
    refine ⟨trivial, fun _ _ => ?_⟩
    rw [← hqueue]
  exact hsafe.run (Prog.along_true _ os s)

/-! ## The exact condition -/

/-- A full video that is being served. -/
def sampleServed : Store :=
  { Store.empty with
    titles := ⟨[⟨"title-1", .MOVIE, "Film", "A film", "poster", true, 1⟩], by decide⟩
    mediaAssets := ⟨[⟨"full-1", .TITLE, "title-1", .FULL, .READY, "sources/title/title-1/full/u-1",
      some "hls/full-1/master.m3u8", none⟩], by decide⟩ }

/-- The statement with this number fails. -/
def brokenAt (n k : Nat) : Ambient :=
  { (Ambient.quiet k).generating "u-2" with
    fault := if k = n then some (.error "unreachable") else none }

end StreamingService
