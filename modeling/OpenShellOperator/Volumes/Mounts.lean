import OpenShellOperator.Volumes
import Mathlib.Data.List.Nodup

/-! # The pod mounts the provisioned claims

Three things are built from the volumes of a sandbox: the claims to provision, the volumes of
the pod and the mounts of its agent container.  They are tied together by names only: a mount
names a volume, a volume names a claim.

`validate_ok_iff` says what a validated list is.  The driver configuration is read back from its
JSON (`podVolumes`, `volumeMounts`); `pod_mounts_claims` says that for a validated list the three
stay aligned, volume by volume, and that every name leads to exactly one thing. -/

namespace OpenShell
open Wire

namespace Volumes

/-! ### Validation -/

/-- Volumes a sandbox can honor: named, with distinct names, mounted at absolute paths, and none
of them a raw device. -/
structure Valid (volumes : List SandboxVolume) : Prop where
  named : ∀ v ∈ volumes, ∃ c ∈ v.name.toList, isWhitespace c = false
  distinct : (volumes.map (·.name)).Nodup
  absolute : ∀ v ∈ volumes, v.mountPath.toList.head? = some '/'
  filesystem : ∀ v ∈ volumes, v.claim.volumeMode ≠ some "Block"

theorem validateOne_ok_iff {printable : Char → Bool} {seen : List String} {volume : SandboxVolume} :
    validateOne printable seen volume = .ok () ↔ (∃ c ∈ volume.name.toList, isWhitespace c = false) ∧
      volume.name ∉ seen ∧ volume.mountPath.toList.head? = some '/' ∧
      volume.claim.volumeMode ≠ some "Block" := by
  have hblank : volume.name.toList.all isWhitespace = true ↔
      ¬ ∃ c ∈ volume.name.toList, isWhitespace c = false := by
    simp
  unfold validateOne
  split_ifs with hname hseen hpath hblock
  · simp [hblank.mp hname]
  · simp [List.contains_iff_mem.mp hseen]
  · simp [hpath]
  · simp [hblock]
  · rw [hblank, not_not] at hname
    rw [List.contains_iff_mem] at hseen
    exact ⟨fun _ => ⟨hname, hseen, not_not.mp hpath, hblock⟩, fun _ => rfl⟩

/-- The loop accepts what is valid and new to the names before it. -/
theorem validateFrom_ok_iff (printable : Char → Bool) (seen : List String) (volumes : List SandboxVolume) :
    validateFrom printable seen volumes = .ok () ↔ Valid volumes ∧ ∀ v ∈ volumes, v.name ∉ seen := by
  induction volumes generalizing seen with
  | nil =>
      have hvalid : Valid [] := ⟨by simp, List.nodup_nil, by simp, by simp⟩
      simp [validateFrom, hvalid]
  | cons volume volumes ih =>
      cases hone : validateOne printable seen volume with
      | error err =>
          have hfails : ¬ validateOne printable seen volume = .ok () := by simp [hone]
          rw [validateOne_ok_iff] at hfails
          simp only [validateFrom, hone, reduceCtorEq, false_iff]
          rintro ⟨hvalid, hnew⟩
          exact hfails ⟨hvalid.named volume List.mem_cons_self, hnew volume List.mem_cons_self,
            hvalid.absolute volume List.mem_cons_self, hvalid.filesystem volume List.mem_cons_self⟩
      | ok _ =>
          obtain ⟨hname, hseen, hpath, hblock⟩ := validateOne_ok_iff.mp hone
          simp only [validateFrom, hone, ih]
          constructor
          · rintro ⟨hvalid, hnew⟩
            refine ⟨⟨?_, ?_, ?_, ?_⟩, ?_⟩
            · exact List.forall_mem_cons.mpr ⟨hname, hvalid.named⟩
            · refine List.nodup_cons.mpr ⟨fun hmem => ?_, hvalid.distinct⟩
              obtain ⟨v, hv, heq⟩ := List.mem_map.mp hmem
              exact hnew v hv (heq ▸ List.mem_cons_self)
            · exact List.forall_mem_cons.mpr ⟨hpath, hvalid.absolute⟩
            · exact List.forall_mem_cons.mpr ⟨hblock, hvalid.filesystem⟩
            · refine List.forall_mem_cons.mpr ⟨hseen, fun v hv hmem => ?_⟩
              exact hnew v hv (List.mem_cons_of_mem _ hmem)
          · rintro ⟨hvalid, hnew⟩
            obtain ⟨hfresh, hdistinct⟩ := List.nodup_cons.mp hvalid.distinct
            refine ⟨⟨(List.forall_mem_cons.mp hvalid.named).2, hdistinct,
              (List.forall_mem_cons.mp hvalid.absolute).2,
              (List.forall_mem_cons.mp hvalid.filesystem).2⟩, fun v hv hmem => ?_⟩
            rcases List.mem_cons.mp hmem with heq | hmem
            · exact hfresh (List.mem_map.mpr ⟨v, hv, heq⟩)
            · exact hnew v (List.mem_cons_of_mem _ hv) hmem

theorem validate_ok_iff (printable : Char → Bool) (volumes : List SandboxVolume) :
    validate printable volumes = .ok () ↔ Valid volumes := by
  rw [validate, validateFrom_ok_iff]
  simp

/-! ### Reading the driver configuration -/

/-- A volume of the pod, backed by a claim. -/
structure PodVolume where
  name : String
  claimName : String
  readOnly : Bool
deriving DecidableEq, Repr

/-- A mount of a volume of the pod. -/
structure VolumeMount where
  name : String
  mountPath : String
  readOnly : Bool
  subPath : Option String
deriving DecidableEq, Repr

def asStr : Json → Option String
  | .str s => some s
  | _ => none

def asBool : Json → Option Bool
  | .bool b => some b
  | _ => none

def asArr : Json → Option (List Json)
  | .arr items => some items
  | _ => none

def readVolume (v : Json) : Option PodVolume := do
  let name ← (v.get? "name").bind asStr
  let claim ← v.get? "persistent_volume_claim"
  let claimName ← (claim.get? "claim_name").bind asStr
  let readOnly ← (claim.get? "read_only").bind asBool
  some ⟨name, claimName, readOnly⟩

/-- A sub path that is not set is absent. -/
def readSubPath (v : Json) : Option (Option String) :=
  match v.get? "sub_path" with
  | none => some none
  | some path => (asStr path).map some

def readMount (v : Json) : Option VolumeMount := do
  let name ← (v.get? "name").bind asStr
  let mountPath ← (v.get? "mount_path").bind asStr
  let readOnly ← (v.get? "read_only").bind asBool
  let subPath ← readSubPath v
  some ⟨name, mountPath, readOnly, subPath⟩

/-- The volumes of the pod in a driver configuration; none without one. -/
def podVolumes (config : Option Json) : Option (List PodVolume) :=
  match config with
  | none => some []
  | some config => do
      let items ← ((config.get? driverKey).bind (·.get? "volumes")).bind asArr
      items.mapM readVolume

/-- The mounts of the agent container in a driver configuration; none without one. -/
def volumeMounts (config : Option Json) : Option (List VolumeMount) :=
  match config with
  | none => some []
  | some config => do
      let items ← ((((config.get? driverKey).bind (·.get? "containers")).bind
        (·.get? "agent")).bind (·.get? "volume_mounts")).bind asArr
      items.mapM readMount

/-- The volume of the pod for a volume of the sandbox. -/
def podVolume (sandbox : String) (volume : SandboxVolume) : PodVolume :=
  ⟨volume.name, pvcName sandbox volume, volume.readOnly⟩

/-- The mount of a volume of the sandbox. -/
def volumeMount (volume : SandboxVolume) : VolumeMount :=
  ⟨volume.name, volume.mountPath, volume.readOnly, volume.subPath⟩

theorem readVolume_volumeEntry (sandbox : String) (volume : SandboxVolume) :
    readVolume (volumeEntry sandbox volume) = some (podVolume sandbox volume) := by
  simp [readVolume, volumeEntry, Json.ofPairs, Json.get?, Json.find_insert, asStr, asBool, podVolume]

theorem readMount_mountEntry (volume : SandboxVolume) :
    readMount (mountEntry volume) = some (volumeMount volume) := by
  have hsub : readSubPath (mountEntry volume) = some volume.subPath := by
    simp only [readSubPath, mountEntry, Json.get?, Json.find_insertSome, if_true]
    cases volume.subPath <;> simp [Json.find_insert, Json.find_nil, asStr]
  simp only [readMount, hsub]
  simp [mountEntry, Json.get?, Json.find_insertSome, Json.find_insert, asStr, asBool, volumeMount]

theorem mapM_map_some {α β γ : Type} {f : α → β} {g : β → Option γ} {h : α → γ}
    (hread : ∀ a, g (f a) = some (h a)) (l : List α) : (l.map f).mapM g = some (l.map h) := by
  induction l with
  | nil => rfl
  | cons a l ih => simp [List.mapM_cons, hread, ih]

theorem podVolumes_driverConfigJson (sandbox : String) (volumes : List SandboxVolume) :
    podVolumes (driverConfigJson sandbox volumes) = some (volumes.map (podVolume sandbox)) := by
  unfold driverConfigJson
  split_ifs with hempty
  · rw [List.isEmpty_iff.mp hempty]
    rfl
  · simp only [podVolumes, Json.ofPairs, Json.get?, Json.find_insert, List.foldl_cons,
      List.foldl_nil, if_true, Option.bind_some, String.reduceEq, if_false, asArr,
      bind, mapM_map_some (readVolume_volumeEntry sandbox)]

theorem volumeMounts_driverConfigJson (sandbox : String) (volumes : List SandboxVolume) :
    volumeMounts (driverConfigJson sandbox volumes) = some (volumes.map volumeMount) := by
  unfold driverConfigJson
  split_ifs with hempty
  · rw [List.isEmpty_iff.mp hempty]
    rfl
  · simp only [volumeMounts, Json.ofPairs, Json.get?, Json.find_insert, List.foldl_cons,
      List.foldl_nil, if_true, Option.bind_some, String.reduceEq, if_false, asArr,
      bind, mapM_map_some readMount_mountEntry]

/-! ### Names -/

section names
variable {volumes : List SandboxVolume}

/-- A name of a volume is the name of no other. -/
theorem filter_name (h : (volumes.map (·.name)).Nodup) {volume : SandboxVolume}
    (hv : volume ∈ volumes) : volumes.filter (·.name = volume.name) = [volume] := by
  induction volumes with
  | nil => cases hv
  | cons first rest ih =>
      obtain ⟨hfirst, hrest⟩ := List.nodup_cons.mp h
      rcases List.mem_cons.mp hv with rfl | hv
      · have hnone : rest.filter (·.name = volume.name) = [] := by
          rw [List.filter_eq_nil_iff]
          intro v hv' heq
          exact hfirst (List.mem_map.mpr ⟨v, hv', by simpa using heq⟩)
        rw [List.filter_cons_of_pos (by simp), hnone]
      · have hne : first.name ≠ volume.name := fun heq =>
          hfirst (List.mem_map.mpr ⟨volume, hv, heq.symm⟩)
        rw [List.filter_cons_of_neg (by simpa using hne), ih hrest hv]

/-- Volumes of one sandbox with different names have different claims. -/
theorem pvcName_injective {sandbox : String} {v v' : SandboxVolume}
    (h : pvcName sandbox v = pvcName sandbox v') : v.name = v'.name := by
  have hlist := congrArg String.toList h
  simp only [pvcName, String.toList_append, List.append_cancel_left_eq] at hlist
  exact String.toList_inj.mp hlist

theorem nodup_pvcNames (sandbox : String) (h : (volumes.map (·.name)).Nodup) :
    (volumes.map (pvcName sandbox)).Nodup := by
  have hpairs := List.pairwise_map.mp h
  exact List.pairwise_map.mpr (hpairs.imp (fun hne heq => hne (pvcName_injective heq)))

end names

/-- **The pod mounts exactly the provisioned claims.**  Exactly the valid lists are accepted; for
an accepted one, the volumes of the pod and the mounts of the agent container are those of the
list, one each and in its order; a volume of the pod has the claim that is provisioned for it;
the names of the volumes are distinct, so that the mount of a volume refers to the entry of that
volume and to no other; and no two volumes share a claim. -/
theorem pod_mounts_claims (printable : Char → Bool) (sandbox workspace : String)
    (volumes : List SandboxVolume) :
    (validate printable volumes = .ok () ↔ Valid volumes) ∧
    (validate printable volumes = .ok () → ∃ entries mounts,
      podVolumes (driverConfigJson sandbox volumes) = some entries ∧
      volumeMounts (driverConfigJson sandbox volumes) = some mounts ∧
      entries = volumes.map (fun v =>
        ⟨v.name, (buildPvc sandbox workspace v).name, v.readOnly⟩) ∧
      mounts = volumes.map (fun v => ⟨v.name, v.mountPath, v.readOnly, v.subPath⟩) ∧
      (entries.map (·.name)).Nodup ∧
      (∀ v ∈ volumes, entries.filter (·.name = (volumeMount v).name) =
        [⟨v.name, (buildPvc sandbox workspace v).name, v.readOnly⟩]) ∧
      (volumes.map (fun v => (buildPvc sandbox workspace v).name)).Nodup) := by
  refine ⟨validate_ok_iff printable volumes, fun h => ?_⟩
  have hvalid := (validate_ok_iff printable volumes).mp h
  refine ⟨_, _, podVolumes_driverConfigJson sandbox volumes,
    volumeMounts_driverConfigJson sandbox volumes, rfl, rfl, ?_, ?_,
    nodup_pvcNames sandbox hvalid.distinct⟩
  · rw [List.map_map]
    exact hvalid.distinct
  · intro v hv
    rw [List.filter_map]
    have hname : ((fun e : PodVolume => decide (e.name = (volumeMount v).name)) ∘ podVolume sandbox) =
        fun w : SandboxVolume => decide (w.name = v.name) := rfl
    rw [hname, filter_name hvalid.distinct hv]
    rfl

namespace Sample

/-- A sandbox with two volumes. -/
def volumes : List SandboxVolume :=
  [⟨"data", "/data", some "work", false, {}⟩, ⟨"cache", "/cache", none, true, {}⟩]

/-- Its pod has both claims, in order. -/
theorem two_volumes_mounted : ∃ entries,
    podVolumes (driverConfigJson "dev" volumes) = some entries ∧
      entries.map (·.claimName) = ["dev-data", "dev-cache"] := by
  obtain ⟨entries, -, hentries, -, rfl, -⟩ := (pod_mounts_claims (fun _ => true) "dev" "" volumes).2 rfl
  exact ⟨_, hentries, rfl⟩

end Sample
end Volumes
end OpenShell
