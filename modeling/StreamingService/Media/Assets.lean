import StreamingService.Footprint
import StreamingService.Frame

/-!
# Media — Assets

The identity of a media asset: its id, its owner and its kind. Uploads,
replacements and transcoding rewrite everything else about a row, and no
statement deletes one, so an answer that showed an asset once says for good
whose asset it is and of which kind.
-/

namespace StreamingService

open Lib

/-- What no statement changes about a row. -/
structure MediaAsset.SameAs (a a' : MediaAsset) : Prop where
  id : a'.id = a.id
  ownerType : a'.ownerType = a.ownerType
  ownerId : a'.ownerId = a.ownerId
  kind : a'.kind = a.kind

theorem MediaAsset.SameAs.refl (a : MediaAsset) : a.SameAs a := ⟨rfl, rfl, rfl, rfl⟩

theorem MediaAsset.SameAs.trans {a b c : MediaAsset} (hab : a.SameAs b) (hbc : b.SameAs c) :
    a.SameAs c :=
  ⟨hbc.id.trans hab.id, hbc.ownerType.trans hab.ownerType, hbc.ownerId.trans hab.ownerId,
    hbc.kind.trans hab.kind⟩

theorem mediaAssets_eq_of_id {s : Store} {a a' : MediaAsset} (ha : a ∈ s.mediaAssets)
    (ha' : a' ∈ s.mediaAssets) (h : a.id = a'.id) : a = a' :=
  Table.eq_of_clash ha ha' (by simp [Indexed.clash, h])

/-- Every version of a row is still there in `s'`. -/
def AssetsKept (s s' : Store) : Prop :=
  ∀ a ∈ s.mediaAssets, ∃ a' ∈ s'.mediaAssets, a.SameAs a'

theorem AssetsKept.of_eq {s s' : Store} (h : s'.mediaAssets = s.mediaAssets) : AssetsKept s s' :=
  fun a ha => ⟨a, h ▸ ha, .refl a⟩

/-- An update that keeps the identity of every row keeps the assets. -/
theorem AssetsKept.of_update {s s' : Store} {p : MediaAsset → Bool} {f : MediaAsset → MediaAsset}
    (hrows : s'.mediaAssets.rows = s.mediaAssets.rows.map fun a => if p a then f a else a)
    (hf : ∀ a : MediaAsset, a.SameAs (f a)) : AssetsKept s s' := by
  intro a ha
  refine ⟨if p a then f a else a, ?_, ?_⟩
  · rw [← Table.mem_rows, hrows]
    exact List.mem_map.mpr ⟨a, ha, rfl⟩
  · split
    · exact hf a
    · exact .refl a

theorem updateAsset_kept {s : Store} {id : String} {f : MediaAsset → MediaAsset}
    {hf : ∀ a b, Indexed.clash (f a) b = Indexed.clash a b}
    (hsame : ∀ a : MediaAsset, a.SameAs (f a)) : AssetsKept s (updateAsset s id f hf).2 := by
  unfold updateAsset
  split
  · exact .of_eq rfl
  · exact .of_update rfl hsame

theorem mediaAsset_kept (o : Ambient) (c : MediaAssetStmt) (s : Store) :
    AssetsKept s (c.answer o s).2 := by
  cases c with
  | findById id => exact .of_eq rfl
  | findByOwner ownerType ownerId kind => exact .of_eq rfl
  | resetToPending id => exact updateAsset_kept fun _ => ⟨rfl, rfl, rfl, rfl⟩
  | setTrailerReady id key => exact updateAsset_kept fun _ => ⟨rfl, rfl, rfl, rfl⟩
  | setReady id key => exact updateAsset_kept fun _ => ⟨rfl, rfl, rfl, rfl⟩
  | setFailed id reason => exact updateAsset_kept fun _ => ⟨rfl, rfl, rfl, rfl⟩
  | upsert ownerType ownerId kind sourceObjectKey =>
      simp only [MediaAssetStmt.answer]
      split
      · exact .of_update rfl fun _ => ⟨rfl, rfl, rfl, rfl⟩
      · split
        · exact .of_eq rfl
        · rename_i as hins
          exact fun a ha => ⟨a, (Table.mem_insert? hins).mpr (.inl ha), .refl a⟩

/-- **Every statement keeps the assets.** -/
theorem exec_assetsKept (o : Ambient) (c : Cmd) (s : Store) : AssetsKept s (exec o c s).2 := by
  cases c with
  | mediaAsset c =>
      exact exec_cases (P := fun out => AssetsKept s out.2) (fun _ => .of_eq rfl)
        (mediaAsset_kept o c s)
  | _ => exact .of_eq ((exec_frame o s _).mediaAssets (by simp))

/-! ## What one statement did to a row -/

/-- The id and the status an accepted statement writes. -/
def assetWrite : Prog.Entry Sig → Option (String × ProcessingStatus)
  | ⟨.mediaAsset (.upsert _ _ _ _), .ok a⟩ => some (a.id, .PENDING)
  | ⟨.mediaAsset (.resetToPending id), .ok _⟩ => some (id, .PENDING)
  | ⟨.mediaAsset (.setTrailerReady id _), .ok _⟩ => some (id, .READY)
  | ⟨.mediaAsset (.setReady id _), .ok _⟩ => some (id, .READY)
  | ⟨.mediaAsset (.setFailed id _), .ok _⟩ => some (id, .FAILED)
  | _ => none

/-- **Where a stored row comes from**: the statement left it alone, or it is
one of the five accepted writes, of this row. -/
inductive AssetStep (s : Store) (a' : MediaAsset) : Prog.Entry Sig → Prop
  | kept {e : Prog.Entry Sig} (ha : a' ∈ s.mediaAssets)
      (hw : ∀ w ∈ assetWrite e, w.1 ≠ a'.id) : AssetStep s a' e
  | uploaded {ownerType : MediaOwnerType} {ownerId key : String} {kind : MediaKind}
      (hst : a'.processingStatus = .PENDING) :
      AssetStep s a' ⟨.mediaAsset (.upsert ownerType ownerId kind key), .ok a'⟩
  | reset {a : MediaAsset} (ha : a ∈ s.mediaAssets)
      (heq : a' = { a with processingStatus := .PENDING, failureReason := none }) :
      AssetStep s a' ⟨.mediaAsset (.resetToPending a'.id), .ok ()⟩
  | trailerReady {a : MediaAsset} {key : String} (ha : a ∈ s.mediaAssets)
      (heq : a' = { a with processingStatus := .READY, hlsManifestKey := some key }) :
      AssetStep s a' ⟨.mediaAsset (.setTrailerReady a'.id key), .ok ()⟩
  | ready {a : MediaAsset} {key : String} (ha : a ∈ s.mediaAssets)
      (heq : a' = { a with
        processingStatus := .READY, hlsManifestKey := some key, failureReason := none }) :
      AssetStep s a' ⟨.mediaAsset (.setReady a'.id key), .ok ()⟩
  | failed {a : MediaAsset} {reason : String} (ha : a ∈ s.mediaAssets)
      (heq : a' = { a with processingStatus := .FAILED, failureReason := some reason }) :
      AssetStep s a' ⟨.mediaAsset (.setFailed a'.id reason), .ok ()⟩

theorem assetWrite_error (c : Cmd) (e : Exception) : assetWrite ⟨c, .error e⟩ = none := by
  cases c with
  | mediaAsset c => cases c <;> rfl
  | _ => rfl

/-- A statement that writes no row leaves every row alone. -/
theorem AssetStep.of_quiet {s : Store} {a' : MediaAsset} {e : Prog.Entry Sig}
    (ha : a' ∈ s.mediaAssets) (hquiet : assetWrite e = none) : AssetStep s a' e := by
  refine .kept ha ?_
  intro w hw
  rw [hquiet] at hw
  cases hw

/-- An update by id is refused, or hits the rows it names. -/
theorem updateAsset_cases {s : Store} {id : String} {f : MediaAsset → MediaAsset}
    {hf : ∀ a b, Indexed.clash (f a) b = Indexed.clash a b} {P : Outcome Unit → Prop}
    (herr : ∀ e, P (.error e, s))
    (hok : ∀ s' : Store, (∀ a' ∈ s'.mediaAssets, (∃ a ∈ s.mediaAssets, a.id = id ∧ a' = f a) ∨
      (a' ∈ s.mediaAssets ∧ a'.id ≠ id)) → P (.ok (), s')) : P (updateAsset s id f hf) := by
  unfold updateAsset
  split
  · exact herr _
  · refine hok _ ?_
    intro a' ha'
    obtain ⟨a, ha, rfl⟩ := List.mem_map.mp ha'
    by_cases hid : a.id = id
    · exact .inl ⟨a, ha, hid, by simp [hid]⟩
    · refine .inr ?_
      have hne : (a.id == id) = false := by simpa using hid
      simp only [hne]
      exact ⟨ha, hid⟩

/-- The upsert of an upload answers the row it leaves. -/
theorem upsert_step {o : Ambient} {s : Store} {ownerType : MediaOwnerType} {ownerId key : String}
    {kind : MediaKind} {a' : MediaAsset}
    (ha' : a' ∈ ((MediaAssetStmt.upsert ownerType ownerId kind key).answer o s).2.mediaAssets) :
    AssetStep s a' ⟨.mediaAsset (.upsert ownerType ownerId kind key),
      ((MediaAssetStmt.upsert ownerType ownerId kind key).answer o s).1⟩ := by
  revert ha'
  simp only [MediaAssetStmt.answer]
  split
  · rename_i a hfind
    intro ha'
    obtain ⟨ha, howned⟩ := Table.mem_of_find? hfind
    obtain ⟨x, hx, rfl⟩ := List.mem_map.mp ha'
    by_cases hxowned : x.ownedBy ownerType ownerId kind = true
    · -- the owner's index admits one row of the owner and kind
      have heq : x = a := Table.eq_of_clash hx ha (by
        simp only [MediaAsset.ownedBy, Bool.and_eq_true, beq_iff_eq] at howned hxowned
        simp [Indexed.clash, howned, hxowned])
      subst heq
      rw [if_pos hxowned]
      exact .uploaded rfl
    · rw [if_neg hxowned]
      refine .kept hx ?_
      rintro w ⟨⟩ hid
      have heq : a = x := mediaAssets_eq_of_id ha hx hid
      subst heq
      exact hxowned howned
  · split
    · exact fun ha' => .of_quiet ha' rfl
    · rename_i as hins
      intro ha'
      rcases (Table.mem_insert? hins).mp ha' with ha | rfl
      · refine .kept ha ?_
        rintro w ⟨⟩ hid
        have hfresh := Table.insert?_fresh hins ha
        simp [Indexed.clash, ← hid] at hfresh
      · exact .uploaded rfl

/-- The row an upsert answers. -/
theorem upsert_ok {o : Ambient} {s s' : Store} {ownerType : MediaOwnerType} {ownerId key : String}
    {kind : MediaKind} {a : MediaAsset}
    (hex : exec o (.mediaAsset (.upsert ownerType ownerId kind key)) s = (.ok a, s')) :
    a ∈ s'.mediaAssets ∧ a.ownedBy ownerType ownerId kind = true ∧ a.sourceObjectKey = key ∧
      a.hlsManifestKey = none := by
  have hans := exec_ok hex
  simp only [answer, MediaAssetStmt.answer] at hans
  split at hans
  · rename_i a₀ hfind
    cases hans
    obtain ⟨ha, howned⟩ := Table.mem_of_find? hfind
    exact ⟨List.mem_map.mpr ⟨a₀, ha, by rw [if_pos howned]⟩, howned, rfl, rfl⟩
  · split at hans
    · cases hans
    · rename_i as hins
      cases hans
      exact ⟨(Table.mem_insert? hins).mpr (.inr rfl), by simp [MediaAsset.ownedBy], rfl, rfl⟩

theorem mediaAsset_step (o : Ambient) (c : MediaAssetStmt) (s : Store) {a' : MediaAsset} :
    a' ∈ (c.answer o s).2.mediaAssets → AssetStep s a' ⟨.mediaAsset c, (c.answer o s).1⟩ := by
  cases c with
  | findById id => exact fun ha' => .of_quiet ha' rfl
  | findByOwner ownerType ownerId kind => exact fun ha' => .of_quiet ha' rfl
  | upsert ownerType ownerId kind key => exact upsert_step
  | resetToPending id =>
      refine updateAsset_cases (P := fun out => a' ∈ out.2.mediaAssets →
        AssetStep s a' ⟨.mediaAsset (.resetToPending id), out.1⟩) (fun e ha' => .of_quiet ha' rfl) ?_
      intro s' hrows ha'
      rcases hrows a' ha' with ⟨a, ha, rfl, rfl⟩ | ⟨ha, hid⟩
      · exact .reset ha rfl
      · exact .kept ha (by rintro w ⟨⟩ heq; exact hid heq.symm)
  | setTrailerReady id key =>
      refine updateAsset_cases (P := fun out => a' ∈ out.2.mediaAssets →
        AssetStep s a' ⟨.mediaAsset (.setTrailerReady id key), out.1⟩) (fun e ha' => .of_quiet ha' rfl) ?_
      intro s' hrows ha'
      rcases hrows a' ha' with ⟨a, ha, rfl, rfl⟩ | ⟨ha, hid⟩
      · exact .trailerReady ha rfl
      · exact .kept ha (by rintro w ⟨⟩ heq; exact hid heq.symm)
  | setReady id key =>
      refine updateAsset_cases (P := fun out => a' ∈ out.2.mediaAssets →
        AssetStep s a' ⟨.mediaAsset (.setReady id key), out.1⟩) (fun e ha' => .of_quiet ha' rfl) ?_
      intro s' hrows ha'
      rcases hrows a' ha' with ⟨a, ha, rfl, rfl⟩ | ⟨ha, hid⟩
      · exact .ready ha rfl
      · exact .kept ha (by rintro w ⟨⟩ heq; exact hid heq.symm)
  | setFailed id reason =>
      refine updateAsset_cases (P := fun out => a' ∈ out.2.mediaAssets →
        AssetStep s a' ⟨.mediaAsset (.setFailed id reason), out.1⟩) (fun e ha' => .of_quiet ha' rfl) ?_
      intro s' hrows ha'
      rcases hrows a' ha' with ⟨a, ha, rfl, rfl⟩ | ⟨ha, hid⟩
      · exact .failed ha rfl
      · exact .kept ha (by rintro w ⟨⟩ heq; exact hid heq.symm)

/-- **The inversion lemma of the assets**: one statement, whatever it is. -/
theorem exec_assetStep (o : Ambient) (c : Cmd) (s : Store) {a' : MediaAsset}
    (ha' : a' ∈ (exec o c s).2.mediaAssets) : AssetStep s a' ⟨c, (exec o c s).1⟩ := by
  cases c with
  | mediaAsset c =>
      revert ha'
      exact exec_cases (P := fun out => a' ∈ out.2.mediaAssets → AssetStep s a' ⟨_, out.1⟩)
        (fun e ha' => .of_quiet ha' (assetWrite_error _ e)) (mediaAsset_step o c s)
  | _ =>
      rw [(exec_frame o s _).mediaAssets (by simp)] at ha'
      exact .of_quiet ha' rfl

/-! ## What a lookup shows -/

/-- The asset is stored, whatever has been rewritten about it since. -/
def MediaAsset.StoredIn (a : MediaAsset) (s : Store) : Prop := ∃ a' ∈ s.mediaAssets, a.SameAs a'

theorem MediaAsset.StoredIn.mono {a : MediaAsset} {s s' : Store} (h : a.StoredIn s)
    (hkept : AssetsKept s s') : a.StoredIn s' := by
  obtain ⟨a', ha', hsame⟩ := h
  obtain ⟨a'', ha'', hsame'⟩ := hkept a' ha'
  exact ⟨a'', ha'', hsame.trans hsame'⟩

/-- Two answers about one id are about an asset of one kind. -/
theorem MediaAsset.StoredIn.kind_eq {a b : MediaAsset} {s : Store} (ha : a.StoredIn s)
    (hb : b.StoredIn s) (h : a.id = b.id) : a.kind = b.kind := by
  obtain ⟨a', ha', hsame⟩ := ha
  obtain ⟨b', hb', hsame'⟩ := hb
  have heq : a' = b' := mediaAssets_eq_of_id ha' hb' (by rw [hsame.id, hsame'.id, h])
  rw [← hsame.kind, ← hsame'.kind, heq]

/-- A lookup answers a stored asset, and the one it was asked for. -/
def AssetAnswer (s : Store) : Prog.Entry Sig → Prop
  | ⟨.mediaAsset (.findById id), .ok (some a)⟩ => a.StoredIn s ∧ a.id = id
  | ⟨.mediaAsset (.findByOwner ownerType ownerId kind), .ok (some a)⟩ =>
      a.StoredIn s ∧ a.ownedBy ownerType ownerId kind = true
  | _ => True

theorem AssetAnswer.mono {s s' : Store} {e : Prog.Entry Sig} (h : AssetAnswer s e)
    (hkept : AssetsKept s s') : AssetAnswer s' e := by
  unfold AssetAnswer at h ⊢
  split at h
  · exact ⟨h.1.mono hkept, h.2⟩
  · exact ⟨h.1.mono hkept, h.2⟩
  · trivial

theorem assetAnswer_error (s : Store) (c : Cmd) (e : Exception) :
    AssetAnswer s ⟨c, .error e⟩ := by
  cases c with
  | mediaAsset c => cases c <;> trivial
  | _ => trivial

theorem exec_assetAnswer (o : Ambient) (c : Cmd) (s : Store) :
    AssetAnswer (exec o c s).2 ⟨c, (exec o c s).1⟩ := by
  apply exec_cases (P := fun out => AssetAnswer out.2 ⟨c, out.1⟩) (assetAnswer_error s c)
  cases c with
  | mediaAsset c =>
      cases c with
      | findById id =>
          simp only [answer, MediaAssetStmt.answer]
          cases hfind : s.mediaAssets.find? fun a => a.id == id with
          | none => trivial
          | some a =>
              obtain ⟨ha, hid⟩ := Table.mem_of_find? hfind
              exact ⟨⟨a, ha, .refl a⟩, by simpa using hid⟩
      | findByOwner ownerType ownerId kind =>
          simp only [answer, MediaAssetStmt.answer]
          cases hfind : s.mediaAssets.find? fun a => a.ownedBy ownerType ownerId kind with
          | none => trivial
          | some a =>
              obtain ⟨ha, howned⟩ := Table.mem_of_find? hfind
              exact ⟨⟨a, ha, .refl a⟩, howned⟩
      | _ => trivial
  | _ => trivial

/-- Every answer of a run still says whose asset it showed. -/
theorem assetAnswers_run {cfg : AppConfig} {ok : AppState → Action Ambient Request → Prop}
    {s : Store} {b : AppState} (hr : (app cfg).Run ok (Machine.start s) b) :
    ∀ tid e, Event.did tid e ∈ b.trace → AssetAnswer b.store e :=
  Machine.Run.answers exec_assetAnswer (fun o c s _ h => h.mono (exec_assetsKept o c s)) hr

end StreamingService
