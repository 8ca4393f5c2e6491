import OpenShellOperator.Sandbox.Spec
import OpenShellOperator.Volumes.Mounts

/-! # Provisioning the claims

`ensurePvcs` goes through the volumes of a sandbox: it creates the claim of a volume that has
none, labels an existing claim that lacks the admission labels, and leaves it alone otherwise.

What it makes of a claim depends on what is stored only (`provisioned`), and a claim it has been
through needs nothing more.  So every run, wherever it is cut off, leaves each claim as it was or
provisioned (`Partway`), and a run that returns leaves the one store in which all of them are
(`provision_touches_only`). -/

namespace OpenShell
open Wire Effects

namespace SandboxController

/-! ### Claims -/

section claims
variable {X : Externals}

theorem hasLabels_iff (pvc : PersistentVolumeClaim) (wanted : StrMap String) :
    hasLabels pvc wanted ↔
      ∀ k v : String, wanted[k]? = some v → pvc.labels.bind (·[k]?) = some v := by
  simp only [hasLabels, List.all_eq_true, Prod.forall,
    Std.ExtTreeMap.mem_toList_iff_getElem?_eq_some]
  refine forall_congr' fun k => forall_congr' fun v => imp_congr_right fun _ => ?_
  cases pvc.labels <;> simp

theorem get?_admissionLabels {workspace k v : String}
    (h : (Volumes.admissionLabels workspace)[k]? = some v) :
    k = Volumes.attachableWorkspaceLabel ∨ k = Volumes.attachableLabel := by
  unfold Volumes.admissionLabels at h
  rw [Std.ExtTreeMap.getElem?_insert, Std.ExtTreeMap.getElem?_insert] at h
  simp only [Std.compare_eq_iff_eq] at h
  split_ifs at h with h₁ h₂
  · exact .inl h₁.symm
  · exact .inr h₂.symm
  · simp at h

/-- A provisioned claim is labelled for admission. -/
theorem hasLabels_buildPvc (name workspace : String) (volume : SandboxVolume) :
    hasLabels (Volumes.buildPvc name workspace volume) (Volumes.admissionLabels workspace) := by
  rw [hasLabels_iff]
  intro k v hk
  have hne : k ≠ Volumes.sandboxLabel ∧ k ≠ Volumes.managedByLabel := by
    rcases get?_admissionLabels hk with rfl | rfl <;> decide
  show (((Volumes.admissionLabels workspace).insert Volumes.managedByLabel _).insert
    Volumes.sandboxLabel _)[k]? = some v
  rw [Std.ExtTreeMap.getElem?_insert, if_neg (by simpa using hne.1.symm),
    Std.ExtTreeMap.getElem?_insert, if_neg (by simpa using hne.2.symm), hk]

/-- A claim is labelled for admission after the label patch. -/
theorem hasLabels_merge (pvc : PersistentVolumeClaim) (wanted : StrMap String) :
    hasLabels { pvc with labels := some (Cluster.mergeLabels pvc.labels wanted) } wanted := by
  rw [hasLabels_iff]
  intro k v hk
  show (Cluster.mergeLabels pvc.labels wanted)[k]? = some v
  rw [Cluster.get?_mergeLabels, hk]
  rfl

/-- The claim is there and labelled for admission. -/
def ClaimReady (workspace : String) (claim : Key) (k : Cluster) : Prop :=
  ∃ pvc, k.pvcs[claim]? = some pvc ∧ hasLabels pvc (Volumes.admissionLabels workspace)

variable {workspace : String} {claim claim' : Key} {k : Cluster}

theorem ClaimReady.insert (h : ClaimReady workspace claim k) {pvc : PersistentVolumeClaim}
    (hpvc : hasLabels pvc (Volumes.admissionLabels workspace)) :
    ClaimReady workspace claim { k with pvcs := k.pvcs.insert claim' pvc } := by
  obtain ⟨pvc', hget, hlabels⟩ := h
  unfold ClaimReady
  rw [KeyMap.get?_insert]
  split_ifs
  · exact ⟨pvc, rfl, hpvc⟩
  · exact ⟨pvc', hget, hlabels⟩

theorem claimReady_insert_self {pvc : PersistentVolumeClaim}
    (hpvc : hasLabels pvc (Volumes.admissionLabels workspace)) :
    ClaimReady workspace claim { k with pvcs := k.pvcs.insert claim pvc } :=
  ⟨pvc, (KeyMap.get?_insert _ _ _ _).trans (if_pos rfl), hpvc⟩

theorem ClaimReady.congr {k' : Cluster} (h : ClaimReady workspace claim k)
    (hk : k'.pvcs = k.pvcs) : ClaimReady workspace claim k' := by
  unfold ClaimReady
  rw [hk]
  exact h

/-- Every volume has its claim, labelled for admission. -/
def ClaimsReady (key : Key) (workspace : String) (volumes : List SandboxVolume) (k : Cluster) :
    Prop :=
  ∀ volume ∈ volumes, ClaimReady workspace ⟨key.scope, Volumes.pvcName key.name volume⟩ k

end claims

/-! ### One claim -/

section claim
variable (ns name workspace : String) (volume : SandboxVolume)

/-- The key of the claim of a volume. -/
def claimKey : Key := ⟨ns, Volumes.pvcName name volume⟩

/-- What provisioning makes of what is stored under the name of the claim. -/
def provisioned (stored : Option PersistentVolumeClaim) : PersistentVolumeClaim :=
  match stored with
  | none => Volumes.buildPvc name workspace volume
  | some pvc =>
      if hasLabels pvc (Volumes.admissionLabels workspace) then pvc
      else { pvc with
        labels := some (Cluster.mergeLabels pvc.labels (Volumes.admissionLabels workspace)) }

/-- The write that provisioning takes, if any. -/
def writeOf (stored : Option PersistentVolumeClaim) : Option KubeCall :=
  match stored with
  | none => some (.createPvc ns (Volumes.buildPvc name workspace volume))
  | some pvc =>
      if hasLabels pvc (Volumes.admissionLabels workspace) then none
      else some (.patchPvcLabels ns (Volumes.pvcName name volume) (Volumes.admissionLabels workspace))

/-- The world with a claim stored. -/
def withClaim (w : World) (claim : Key) (pvc : PersistentVolumeClaim) : World :=
  { w with cluster := { w.cluster with pvcs := w.cluster.pvcs.insert claim pvc } }

variable {ns name workspace volume} {stored : Option PersistentVolumeClaim} {X : Externals}
  {w : World}

theorem hasLabels_provisioned :
    hasLabels (provisioned name workspace volume stored) (Volumes.admissionLabels workspace) := by
  unfold provisioned
  cases stored with
  | none => exact hasLabels_buildPvc name workspace volume
  | some pvc =>
      dsimp only
      split_ifs with h
      · exact h
      · exact hasLabels_merge pvc _

/-- A labelled claim is left alone. -/
theorem provisioned_of_hasLabels {pvc : PersistentVolumeClaim}
    (h : hasLabels pvc (Volumes.admissionLabels workspace)) :
    provisioned name workspace volume (some pvc) = pvc := by
  simp only [provisioned, h, if_true]

theorem writeOf_eq_none : writeOf ns name workspace volume stored = none ↔
    ∃ pvc, stored = some pvc ∧ hasLabels pvc (Volumes.admissionLabels workspace) := by
  unfold writeOf
  cases stored with
  | none => simp
  | some pvc =>
      by_cases h : hasLabels pvc (Volumes.admissionLabels workspace)
      · simp [h]
      · simp [h]

theorem serve_createPvc (h : w.cluster.pvcs[claimKey ns name volume]? = none) :
    World.serve X w (.kube (.createPvc ns (Volumes.buildPvc name workspace volume))) =
      (withClaim w (claimKey ns name volume) (Volumes.buildPvc name workspace volume), .ok ()) := by
  have hfree : w.cluster.pvcs[(⟨ns, (Volumes.buildPvc name workspace volume).name⟩ : Key)]? = none := h
  show ({ w with cluster := (w.cluster.createPvc ns _).1 }, (w.cluster.createPvc ns _).2) = _
  rw [Cluster.createPvc, hfree]
  rfl

theorem serve_patchPvcLabels {pvc : PersistentVolumeClaim} {labels : StrMap String}
    (h : w.cluster.pvcs[claimKey ns name volume]? = some pvc) :
    World.serve X w (.kube (.patchPvcLabels ns (Volumes.pvcName name volume) labels)) =
      (withClaim w (claimKey ns name volume)
        { pvc with labels := some (Cluster.mergeLabels pvc.labels labels) }, .ok ()) := by
  have hstored : w.cluster.pvcs[(⟨ns, Volumes.pvcName name volume⟩ : Key)]? = some pvc := h
  show ({ w with cluster := (w.cluster.patchPvcLabels ns _ _).1 },
    (w.cluster.patchPvcLabels ns _ _).2) = _
  rw [Cluster.patchPvcLabels, hstored]
  rfl

/-- What the write does where it is due. -/
theorem serve_writeOf {c : KubeCall}
    (h : writeOf ns name workspace volume (w.cluster.pvcs[claimKey ns name volume]?) = some c) :
    (World.serve X w (.kube c)).1 = withClaim w (claimKey ns name volume)
      (provisioned name workspace volume (w.cluster.pvcs[claimKey ns name volume]?)) := by
  cases hs : w.cluster.pvcs[claimKey ns name volume]? with
  | none =>
      rw [hs] at h
      cases h
      rw [serve_createPvc hs]
      rfl
  | some pvc =>
      rw [hs] at h
      simp only [writeOf] at h
      split_ifs at h with hl
      cases h
      rw [serve_patchPvcLabels hs]
      simp only [provisioned, hl, Bool.false_eq_true, if_false]

/-- **One volume.**  The claim is looked up, and written only if a write is due. -/
theorem ensurePvc_safe {R : Rely World} {G : World → Call → Prop} {Q : World → Prop}
    (hR : ∀ {w w'}, R w w' → w'.cluster.pvcs = w.cluster.pvcs)
    (hget : ∀ w', R w w' → G w' (.kube (.getPvc ns (Volumes.pvcName name volume))))
    (hwrite : ∀ w' c, R w w' →
      writeOf ns name workspace volume (w'.cluster.pvcs[claimKey ns name volume]?) = some c →
      G w' (.kube c) ∧ ∀ w'', R (withClaim w' (claimKey ns name volume)
        (provisioned name workspace volume (w'.cluster.pvcs[claimKey ns name volume]?))) w'' → Q w'')
    (hskip : ∀ w', R w w' →
      writeOf ns name workspace volume (w'.cluster.pvcs[claimKey ns name volume]?) = none → Q w') :
    (ensurePvc ns name workspace volume).Safe (World.react X) R G
      (fun r w' => ∀ a, r = .ok a → Q w') w := by
  refine Prog.Safe.bind_ok (safe_respond (fun w₁ hw₁ => ⟨hget w₁ hw₁, ?_⟩))
  intro found hfound w₂ hw₂
  have hw₀₂ : R w w₂ := R.trans hw₁ hw₂
  -- the claim is still what was found when the write is made
  have hstored : ∀ w₃, R w₂ w₃ → w₃.cluster.pvcs[claimKey ns name volume]? = found := by
    intro w₃ hw₃
    rw [hR hw₃, hR hw₂]
    exact Except.ok.inj hfound
  cases found with
  | none =>
      refine safe_respond (fun w₃ hw₃ => ?_)
      have hdue : writeOf ns name workspace volume (w₃.cluster.pvcs[claimKey ns name volume]?) =
          some (.createPvc ns (Volumes.buildPvc name workspace volume)) := by
        rw [hstored w₃ hw₃]
        rfl
      obtain ⟨hG, hQ⟩ := hwrite w₃ _ (R.trans hw₀₂ hw₃) hdue
      refine ⟨hG, fun a _ w₄ hw₄ => hQ w₄ ?_⟩
      rw [serve_writeOf hdue] at hw₄
      exact hw₄
  | some pvc =>
      show Prog.Safe _ _ _ _ (ite _ _ _) w₂
      by_cases hl : hasLabels pvc (Volumes.admissionLabels workspace)
      · simp only [hl, Bool.not_true, Bool.false_eq_true, if_false]
        intro w₃ hw₃ a _
        refine hskip w₃ (R.trans hw₀₂ hw₃) ?_
        rw [hstored w₃ hw₃]
        exact writeOf_eq_none.mpr ⟨pvc, rfl, hl⟩
      · simp only [hl, Bool.not_false, if_true]
        refine safe_respond (fun w₃ hw₃ => ?_)
        have hdue : writeOf ns name workspace volume (w₃.cluster.pvcs[claimKey ns name volume]?) =
            some (.patchPvcLabels ns (Volumes.pvcName name volume)
              (Volumes.admissionLabels workspace)) := by
          rw [hstored w₃ hw₃]
          simp only [writeOf, hl, Bool.false_eq_true, if_false]
        obtain ⟨hG, hQ⟩ := hwrite w₃ _ (R.trans hw₀₂ hw₃) hdue
        refine ⟨hG, fun a _ w₄ hw₄ => hQ w₄ ?_⟩
        rw [serve_writeOf hdue] at hw₄
        exact hw₄

/-- With its calls served, a volume is always provided for. -/
theorem ensurePvc_outcome :
    ∃ w', (ensurePvc ns name workspace volume).outcome (World.serve X) w = (w', .ok ⟨⟩) := by
  have hget : (kube (.getPvc ns (Volumes.pvcName name volume))).outcome (World.serve X) w =
      (w, .ok (w.cluster.pvcs[claimKey ns name volume]?)) := rfl
  unfold ensurePvc
  rw [Prog.outcome_bind, hget]
  cases hs : w.cluster.pvcs[claimKey ns name volume]? with
  | none => exact ⟨_, serve_createPvc (X := X) hs⟩
  | some pvc =>
      dsimp only
      split_ifs with hl
      · exact ⟨_, serve_patchPvcLabels (X := X) hs⟩
      · exact ⟨w, rfl⟩

end claim

/-! ### What a write leaves alone -/

section frame
variable (ns name : String) (volumes : List SandboxVolume)

/-- Between two stores, every claim kept its name, its spec and its labels but for the two that
admit it, and a claim of none of the volumes was not touched. -/
structure OnlyAdmitted (k k' : KeyMap PersistentVolumeClaim) : Prop where
  kept : ∀ (key : Key) (pvc : PersistentVolumeClaim), k[key]? = some pvc →
    ∃ pvc' : PersistentVolumeClaim, k'[key]? = some pvc' ∧ pvc'.name = pvc.name ∧
      pvc'.spec = pvc.spec ∧
      ∀ label : String, label ≠ Volumes.attachableLabel → label ≠ Volumes.attachableWorkspaceLabel →
        pvc'.labels.bind (·[label]?) = pvc.labels.bind (·[label]?)
  others : ∀ key : Key, (∀ volume ∈ volumes, key ≠ claimKey ns name volume) → k'[key]? = k[key]?

variable {ns name volumes} {k k₁ k₂ : KeyMap PersistentVolumeClaim}

theorem OnlyAdmitted.refl (k : KeyMap PersistentVolumeClaim) : OnlyAdmitted ns name volumes k k :=
  ⟨fun _ pvc h => ⟨pvc, h, rfl, rfl, fun _ _ _ => rfl⟩, fun _ _ => rfl⟩

theorem OnlyAdmitted.trans (h : OnlyAdmitted ns name volumes k k₁)
    (h' : OnlyAdmitted ns name volumes k₁ k₂) : OnlyAdmitted ns name volumes k k₂ := by
  refine ⟨fun key pvc hpvc => ?_, fun key hkey => (h'.others key hkey).trans (h.others key hkey)⟩
  obtain ⟨pvc₁, h₁, hname₁, hspec₁, hlabels₁⟩ := h.kept key pvc hpvc
  obtain ⟨pvc₂, h₂, hname₂, hspec₂, hlabels₂⟩ := h'.kept key pvc₁ h₁
  exact ⟨pvc₂, h₂, hname₂.trans hname₁, hspec₂.trans hspec₁, fun label ha hw =>
    (hlabels₂ label ha hw).trans (hlabels₁ label ha hw)⟩

/-- Storing the claim of a volume, if it is the stored one but for the admission labels. -/
theorem onlyAdmitted_insert {volume : SandboxVolume} (hv : volume ∈ volumes)
    {new : PersistentVolumeClaim}
    (hnew : ∀ pvc : PersistentVolumeClaim, k[claimKey ns name volume]? = some pvc →
      new.name = pvc.name ∧ new.spec = pvc.spec ∧ ∀ label : String,
        label ≠ Volumes.attachableLabel → label ≠ Volumes.attachableWorkspaceLabel →
        new.labels.bind (·[label]?) = pvc.labels.bind (·[label]?)) :
    OnlyAdmitted ns name volumes k (k.insert (claimKey ns name volume) new) := by
  refine ⟨fun key pvc hpvc => ?_, fun key hkey => ?_⟩
  · rw [KeyMap.get?_insert]
    split_ifs with hkey
    · subst hkey
      exact ⟨new, rfl, hnew pvc hpvc⟩
    · exact ⟨pvc, hpvc, rfl, rfl, fun _ _ _ => rfl⟩
  · rw [KeyMap.get?_insert, if_neg (hkey volume hv).symm]

/-- The patch with the admission labels leaves every other label. -/
theorem get?_admit {workspace label : String} (labels : Option (StrMap String))
    (ha : label ≠ Volumes.attachableLabel) (hw : label ≠ Volumes.attachableWorkspaceLabel) :
    (Cluster.mergeLabels labels (Volumes.admissionLabels workspace))[label]? =
      labels.bind (·[label]?) := by
  have hnone : (Volumes.admissionLabels workspace)[label]? = none := by
    cases h : (Volumes.admissionLabels workspace)[label]? with
    | none => rfl
    | some v =>
        rcases get?_admissionLabels h with h | h
        · exact absurd h hw
        · exact absurd h ha
  rw [Cluster.get?_mergeLabels, hnone]
  cases labels <;> simp

/-- The calls of the loop: for each volume, its claim is looked up, created or labelled. -/
inductive VolumeCall (ns name workspace : String) (volumes : List SandboxVolume) : Call → Prop
  | get {volume : SandboxVolume} (hv : volume ∈ volumes) :
      VolumeCall ns name workspace volumes (.kube (.getPvc ns (Volumes.pvcName name volume)))
  | create {volume : SandboxVolume} (hv : volume ∈ volumes) :
      VolumeCall ns name workspace volumes
        (.kube (.createPvc ns (Volumes.buildPvc name workspace volume)))
  | label {volume : SandboxVolume} (hv : volume ∈ volumes) :
      VolumeCall ns name workspace volumes (.kube (.patchPvcLabels ns (Volumes.pvcName name volume)
        (Volumes.admissionLabels workspace)))

theorem ensurePvcs_volumeCalls (spec : OpenShellSandboxSpec) :
    (ensurePvcs ns name spec).Calls (VolumeCall ns name spec.workspaceOf spec.volumes) := by
  refine Prog.Calls.forM _ (fun volume hv => ?_)
  refine Prog.Calls.bind (Prog.calls_perform (.get hv)) (fun found => ?_)
  cases found with
  | none => exact Prog.calls_perform (.create hv)
  | some pvc =>
      dsimp only
      split_ifs
      · exact Prog.calls_perform (.label hv)
      · exact Prog.calls_pure _

/-- A call of the loop, in whatever world it is made and however it fares. -/
theorem VolumeCall.react {workspace : String} {c : Call} {X : Externals}
    (h : VolumeCall ns name workspace volumes c) (w : World) (f : Fate Outage) :
    OnlyAdmitted ns name volumes w.cluster.pvcs (World.react X w c f).1.cluster.pvcs := by
  suffices hserve : OnlyAdmitted ns name volumes w.cluster.pvcs (World.serve X w c).1.cluster.pvcs by
    rcases respond_world Outage.error (World.serve X) w c f with hw | hw
    · rw [World.react, hw]
      exact .refl _
    · rw [World.react, hw]
      exact hserve
  cases h with
  | get hv => exact .refl _
  | @create volume hv =>
      cases hs : w.cluster.pvcs[claimKey ns name volume]? with
      | some pvc =>
          have hthere : w.cluster.pvcs[(⟨ns, (Volumes.buildPvc name workspace volume).name⟩ : Key)]? =
            some pvc := hs
          show OnlyAdmitted ns name volumes _ (w.cluster.createPvc ns _).1.pvcs
          rw [Cluster.createPvc, hthere]
          exact .refl _
      | none =>
          rw [serve_createPvc hs]
          refine onlyAdmitted_insert hv (fun pvc hpvc => ?_)
          rw [hs] at hpvc
          cases hpvc
  | @label volume hv =>
      cases hs : w.cluster.pvcs[claimKey ns name volume]? with
      | none =>
          have hgone : w.cluster.pvcs[(⟨ns, Volumes.pvcName name volume⟩ : Key)]? = none := hs
          show OnlyAdmitted ns name volumes _ (w.cluster.patchPvcLabels ns _ _).1.pvcs
          rw [Cluster.patchPvcLabels, hgone]
          exact .refl _
      | some stored =>
          rw [serve_patchPvcLabels hs]
          refine onlyAdmitted_insert hv (fun pvc hpvc => ?_)
          cases hs.symm.trans hpvc
          exact ⟨rfl, rfl, fun label ha hw => get?_admit _ ha hw⟩

end frame

/-! ### Stores -/

section stores
variable (ns name workspace : String) (volumes : List SandboxVolume)

/-- Each claim is as it was, or provisioned. -/
def Partway (k k' : KeyMap PersistentVolumeClaim) : Prop :=
  ∀ key : Key, k'[key]? = k[key]? ∨ ∃ volume ∈ volumes, key = claimKey ns name volume ∧
    k'[key]? = some (provisioned name workspace volume (k[key]?))

/-- The claims of the volumes are provisioned, the others are as they were. -/
structure Provisioned (k k' : KeyMap PersistentVolumeClaim) : Prop where
  claims : ∀ volume ∈ volumes, k'[claimKey ns name volume]? =
    some (provisioned name workspace volume (k[claimKey ns name volume]?))
  others : ∀ key : Key, (∀ volume ∈ volumes, key ≠ claimKey ns name volume) → k'[key]? = k[key]?

variable {ns name workspace volumes} {k k₁ k₂ : KeyMap PersistentVolumeClaim}

theorem claimKey_injOn (hdistinct : (volumes.map (·.name)).Nodup) {v v' : SandboxVolume}
    (hv : v ∈ volumes) (hv' : v' ∈ volumes) (h : claimKey ns name v = claimKey ns name v') :
    v = v' :=
  List.inj_on_of_nodup_map hdistinct hv hv'
    (Volumes.pvcName_injective (congrArg Key.name h))

/-- Provisioning what has been provisioned changes nothing. -/
theorem provisioned_idem {volume : SandboxVolume} (stored : Option PersistentVolumeClaim) :
    provisioned name workspace volume (some (provisioned name workspace volume stored)) =
      provisioned name workspace volume stored :=
  provisioned_of_hasLabels hasLabels_provisioned

theorem Partway.refl (k : KeyMap PersistentVolumeClaim) : Partway ns name workspace volumes k k :=
  fun _ => .inl rfl

theorem Partway.trans (hdistinct : (volumes.map (·.name)).Nodup)
    (h : Partway ns name workspace volumes k k₁) (h' : Partway ns name workspace volumes k₁ k₂) :
    Partway ns name workspace volumes k k₂ := by
  intro key
  rcases h' key with h₂ | ⟨v, hv, hkey, h₂⟩
  · rw [h₂]
    exact h key
  · refine .inr ⟨v, hv, hkey, ?_⟩
    rcases h key with h₁ | ⟨v', hv', hkey', h₁⟩
    · rw [h₂, h₁]
    · cases claimKey_injOn hdistinct hv hv' (hkey.symm.trans hkey')
      rw [h₂, h₁, provisioned_idem]

/-- What is provisioned after a part of the work is what would have been without it. -/
theorem Provisioned.of_partway (hdistinct : (volumes.map (·.name)).Nodup)
    (h : Partway ns name workspace volumes k k₁) (h' : Provisioned ns name workspace volumes k₁ k₂) :
    Provisioned ns name workspace volumes k k₂ := by
  refine ⟨fun v hv => ?_, fun key hkey => ?_⟩
  · rw [h'.claims v hv]
    rcases h (claimKey ns name v) with h₁ | ⟨v', hv', hkey, h₁⟩
    · rw [h₁]
    · cases claimKey_injOn hdistinct hv hv' hkey
      rw [h₁, provisioned_idem]
  · rw [h'.others key hkey]
    rcases h key with h₁ | ⟨v, hv, hkey', _⟩
    · exact h₁
    · exact absurd hkey' (hkey v hv)

/-- There is one store in which the claims are provisioned. -/
theorem Provisioned.unique (h₁ : Provisioned ns name workspace volumes k k₁)
    (h₂ : Provisioned ns name workspace volumes k k₂) : k₁ = k₂ := by
  refine Std.ExtTreeMap.ext_getElem? (fun {key} => ?_)
  by_cases hkey : ∃ volume ∈ volumes, key = claimKey ns name volume
  · obtain ⟨volume, hv, rfl⟩ := hkey
    rw [h₁.claims volume hv, h₂.claims volume hv]
  · have hothers : ∀ volume ∈ volumes, key ≠ claimKey ns name volume :=
      fun volume hv heq => hkey ⟨volume, hv, heq⟩
    rw [h₁.others key hothers, h₂.others key hothers]

/-- One more volume. -/
theorem Provisioned.step {volume : SandboxVolume}
    (hnew : ∀ v ∈ volumes, claimKey ns name volume ≠ claimKey ns name v)
    (h : Provisioned ns name workspace volumes k k₁)
    (hself : k₂[claimKey ns name volume]? =
      some (provisioned name workspace volume (k₁[claimKey ns name volume]?)))
    (hothers : ∀ key : Key, key ≠ claimKey ns name volume → k₂[key]? = k₁[key]?) :
    Provisioned ns name workspace (volumes ++ [volume]) k k₂ := by
  refine ⟨fun v hv => ?_, fun key hkey => ?_⟩
  · rcases List.mem_append.mp hv with hv | hv
    · rw [hothers _ (hnew v hv).symm, h.claims v hv]
    · cases List.mem_singleton.mp hv
      rw [hself, h.others _ hnew]
  · have hvolume := hkey volume (List.mem_append.mpr (.inr (List.mem_singleton.mpr rfl)))
    rw [hothers key hvolume, h.others key (fun v hv => hkey v (List.mem_append_left _ hv))]

end stores

/-! ### Runs -/

/-- The claims stay as they are; anything else may change. -/
def keepingClaims : Rely World :=
  ⟨fun w w' => w'.cluster.pvcs = w.cluster.pvcs, fun _ => rfl, fun h h' => h'.trans h⟩

/-- What is known of the claims stays known. -/
theorem keepingClaims_stable {P : KeyMap PersistentVolumeClaim → Prop} (w w' : World)
    (h : P w.cluster.pvcs) (hw : keepingClaims w w') : P w'.cluster.pvcs := by
  have hpvcs : w'.cluster.pvcs = w.cluster.pvcs := hw
  rw [hpvcs]
  exact h

section runs
variable {ns name workspace : String} {volumes : List SandboxVolume} {spec : OpenShellSandboxSpec}
  {X : Externals} {w : World}

/-- A claim is looked up, or written where a write is due. -/
def Due (ns name workspace : String) (volumes : List SandboxVolume) (w : World) (c : Call) : Prop :=
  ∃ volume ∈ volumes, c = .kube (.getPvc ns (Volumes.pvcName name volume)) ∨
    ∃ c', c = .kube c' ∧
      writeOf ns name workspace volume (w.cluster.pvcs[claimKey ns name volume]?) = some c'

theorem Due.react {c : Call} (h : Due ns name workspace volumes w c) (f : Fate Outage) :
    Partway ns name workspace volumes w.cluster.pvcs (World.react X w c f).1.cluster.pvcs := by
  obtain ⟨volume, hv, rfl | ⟨c', rfl, hdue⟩⟩ := h
  · have hread : (World.react X w (.kube (.getPvc ns (Volumes.pvcName name volume))) f).1 = w :=
      respond_of_serve_eq rfl
    rw [hread]
    exact .refl _
  · rcases respond_world Outage.error (World.serve X) w (.kube c') f with hw | hw
    · rw [World.react, hw]
      exact .refl _
    · rw [World.react, hw, serve_writeOf hdue]
      intro key
      by_cases hkey : claimKey ns name volume = key
      · subst hkey
        exact .inr ⟨volume, hv, rfl, (KeyMap.get?_insert _ _ _ _).trans (if_pos rfl)⟩
      · exact .inl ((KeyMap.get?_insert _ _ _ _).trans (if_neg hkey))

/-- **The loop.**  It writes only what is due, and when it returns the claims are provisioned. -/
theorem ensurePvcs_safe (hdistinct : (spec.volumes.map (·.name)).Nodup) (w : World) :
    (ensurePvcs ns name spec).Safe (World.react X) keepingClaims
      (Due ns name spec.workspaceOf spec.volumes)
      (fun r w' => ∀ a, r = .ok a → Provisioned ns name spec.workspaceOf spec.volumes
        w.cluster.pvcs w'.cluster.pvcs) w := by
  -- the volumes before those to come are the ones that have been provided for
  let J : List SandboxVolume → World → Prop := fun todo w' =>
    ∃ before, before ++ todo = spec.volumes ∧
      Provisioned ns name spec.workspaceOf before w.cluster.pvcs w'.cluster.pvcs
  have hstart : J spec.volumes w := ⟨[], rfl, by simp, fun _ _ => rfl⟩
  have hstable : ∀ {w₁ w₂}, J [] w₁ → keepingClaims w₁ w₂ → J [] w₂ := by
    rintro w₁ w₂ ⟨before, hall, h⟩ hw
    exact ⟨before, hall, keepingClaims_stable w₁ w₂ h hw⟩
  refine Prog.Safe.mono (fun _ _ h => h) ?_
    (Prog.Safe.forM_ok (J := J) hstable ?_ spec.volumes w hstart)
  · intro r w' h a ha
    obtain ⟨before, hall, hprov⟩ := h a ha
    rw [List.append_nil] at hall
    rw [← hall]
    exact hprov
  · rintro volume todo w₁ ⟨before, hall, h⟩
    have hmem : volume ∈ spec.volumes := by
      rw [← hall]
      simp
    have hnew : ∀ v ∈ before, claimKey ns name volume ≠ claimKey ns name v := by
      intro v hv heq
      rw [← hall, List.map_append, List.nodup_append] at hdistinct
      refine hdistinct.2.2 v.name (List.mem_map_of_mem hv) volume.name (by simp) ?_
      exact (Volumes.pvcName_injective (congrArg Key.name heq)).symm
    refine ensurePvc_safe (fun hw => hw) (fun w' _ => ⟨volume, hmem, .inl rfl⟩) ?_ ?_
    · intro w' c hw hdue
      refine ⟨⟨volume, hmem, .inr ⟨c, rfl, hdue⟩⟩, fun w'' hw'' => ?_⟩
      refine ⟨before ++ [volume], by simp [← hall], ?_⟩
      have hpvcs : w''.cluster.pvcs = w₁.cluster.pvcs.insert (claimKey ns name volume)
          (provisioned name spec.workspaceOf volume (w₁.cluster.pvcs[claimKey ns name volume]?)) := by
        rw [← show w'.cluster.pvcs = w₁.cluster.pvcs from hw]
        exact hw''
      refine h.step hnew ?_ (fun key hkey => ?_)
      · rw [hpvcs, KeyMap.get?_insert, if_pos rfl]
      · rw [hpvcs, KeyMap.get?_insert, if_neg hkey.symm]
    · intro w' hw hnone
      have hpvcs : w'.cluster.pvcs = w₁.cluster.pvcs := hw
      obtain ⟨pvc, hget, hlabels⟩ := writeOf_eq_none.mp hnone
      refine ⟨before ++ [volume], by simp [← hall], h.step hnew ?_ (fun key _ => by rw [hpvcs])⟩
      rw [← hpvcs, hget, provisioned_of_hasLabels hlabels]

section
variable {w₁ : World} {tr : List (Call × Fate Outage)} {p' : Op PUnit}
  (hs : Prog.Steps (World.react X) keepingClaims (ensurePvcs ns name spec) w tr p' w₁)
include hs

/-- A run, wherever it is cut off, changes nothing but the admission labels of what is there. -/
theorem run_onlyAdmitted :
    OnlyAdmitted ns name spec.volumes w.cluster.pvcs w₁.cluster.pvcs := by
  refine (Prog.Safe.steps_inv
    (I := fun w' => OnlyAdmitted ns name spec.volumes w.cluster.pvcs w'.cluster.pvcs)
    keepingClaims_stable ?_ hs ((ensurePvcs_volumeCalls spec).safe w) (.refl _)).1
  intro w' c f h hc
  exact h.trans (hc.react w' f)

/-- A run, wherever it is cut off, leaves each claim as it was or provisioned. -/
theorem run_partway (hdistinct : (spec.volumes.map (·.name)).Nodup) :
    Partway ns name spec.workspaceOf spec.volumes w.cluster.pvcs w₁.cluster.pvcs := by
  refine (Prog.Safe.steps_inv
    (I := fun w' => Partway ns name spec.workspaceOf spec.volumes w.cluster.pvcs w'.cluster.pvcs)
    keepingClaims_stable ?_ hs (ensurePvcs_safe hdistinct w) (.refl _)).1
  intro w' c f h hc
  exact h.trans hdistinct (hc.react f)

/-- With the claims provisioned, a run looks them up and no more. -/
theorem run_reads (hdistinct : (spec.volumes.map (·.name)).Nodup) {k : KeyMap PersistentVolumeClaim}
    (h : Provisioned ns name spec.workspaceOf spec.volumes k w.cluster.pvcs) :
    w₁.cluster.pvcs = w.cluster.pvcs ∧ ∀ cf ∈ tr, ∃ volume ∈ spec.volumes,
      cf.1 = .kube (.getPvc ns (Volumes.pvcName name volume)) := by
  -- no write is due as long as the claims are what they are in `w`
  have hread : ∀ w' c, w'.cluster.pvcs = w.cluster.pvcs →
      Due ns name spec.workspaceOf spec.volumes w' c →
      ∃ volume ∈ spec.volumes, c = .kube (.getPvc ns (Volumes.pvcName name volume)) := by
    rintro w' c hw ⟨volume, hv, rfl | ⟨c', rfl, hdue⟩⟩
    · exact ⟨volume, hv, rfl⟩
    · rw [hw, h.claims volume hv, writeOf_eq_none.mpr ⟨_, rfl, hasLabels_provisioned⟩] at hdue
      cases hdue
  have hkept : ∀ w' c f, w'.cluster.pvcs = w.cluster.pvcs →
      Due ns name spec.workspaceOf spec.volumes w' c →
      (World.react X w' c f).1.cluster.pvcs = w.cluster.pvcs := by
    intro w' c f hw hdue
    obtain ⟨volume, _, rfl⟩ := hread w' c hw hdue
    have hsame : (World.react X w' (.kube (.getPvc ns (Volumes.pvcName name volume))) f).1 = w' :=
      respond_of_serve_eq rfl
    rw [hsame, hw]
  obtain ⟨hw₁, htr⟩ := Prog.Safe.steps_inv (I := fun w' => w'.cluster.pvcs = w.cluster.pvcs)
    (fun w' w'' hw hw' => Eq.trans hw' hw) hkept hs (ensurePvcs_safe hdistinct w) rfl
  refine ⟨hw₁, fun cf hcf => ?_⟩
  obtain ⟨w', hw', hdue⟩ := htr cf hcf
  exact hread w' cf.1 hw' hdue

end

/-- A run that returns has provisioned the claims. -/
theorem run_provisions (hdistinct : (spec.volumes.map (·.name)).Nodup) {w₁ : World}
    {tr : List (Call × Fate Outage)} (hs : Prog.Steps (World.react X) keepingClaims
      (ensurePvcs ns name spec) w tr (.done (.ok ⟨⟩)) w₁) :
    Provisioned ns name spec.workspaceOf spec.volumes w.cluster.pvcs w₁.cluster.pvcs :=
  Prog.Safe.steps hs (ensurePvcs_safe hdistinct w) w₁ (keepingClaims.refl w₁) ⟨⟩ rfl

theorem ensurePvcs_outcome (w : World) :
    ((ensurePvcs ns name spec).outcome (World.serve X) w).2 = .ok ⟨⟩ := by
  have hround : ∀ volume (todo : List SandboxVolume) w, True →
      ∃ w', (ensurePvc ns name spec.workspaceOf volume).outcome (World.serve X) w = (w', .ok ⟨⟩) ∧
        True := by
    intro volume _ w _
    obtain ⟨w', hw'⟩ := ensurePvc_outcome (X := X) (w := w)
    exact ⟨w', hw', trivial⟩
  obtain ⟨w', hw', _⟩ := Prog.outcome_forM (J := fun _ _ => True) hround spec.volumes w trivial
  exact congrArg Prod.snd hw'

/-- An uninterrupted run provisions the claims. -/
theorem outcome_provisions (hdistinct : (spec.volumes.map (·.name)).Nodup) (w : World) :
    Provisioned ns name spec.workspaceOf spec.volumes w.cluster.pvcs
      ((ensurePvcs ns name spec).outcome (World.serve X) w).1.cluster.pvcs := by
  obtain ⟨tr, hs⟩ := Prog.steps_outcome Outage.error (World.serve X) keepingClaims
    (ensurePvcs ns name spec) w
  rw [ensurePvcs_outcome w] at hs
  exact run_provisions hdistinct hs

theorem Provisioned.admitted {k k' : KeyMap PersistentVolumeClaim}
    (h : Provisioned ns name workspace volumes k k') {volume : SandboxVolume}
    (hv : volume ∈ volumes) :
    ∃ pvc : PersistentVolumeClaim, k'[claimKey ns name volume]? = some pvc ∧
      pvc.labels.bind (·[Volumes.attachableLabel]?) = some "true" ∧
      pvc.labels.bind (·[Volumes.attachableWorkspaceLabel]?) = some (workspaceName workspace) := by
  refine ⟨_, h.claims volume hv, ?_, ?_⟩
  · refine (hasLabels_iff _ _).mp hasLabels_provisioned _ _ ?_
    rw [Volumes.admissionLabels, Std.ExtTreeMap.getElem?_insert, if_neg (by decide),
      Std.ExtTreeMap.getElem?_insert_self]
  · refine (hasLabels_iff _ _).mp hasLabels_provisioned _ _ ?_
    rw [Volumes.admissionLabels, Std.ExtTreeMap.getElem?_insert_self]

/-- Attempts to provision the claims of a sandbox, one after the other, each of them cut off or
failing anywhere, while nothing else changes the claims. -/
def Attempts (X : Externals) (ns name : String) (spec : OpenShellSandboxSpec) :
    World → List (Call × Fate Outage) → World → Prop :=
  Session (World.react X) (fun _ p R => p = ensurePvcs ns name spec ∧ R = keepingClaims)
    keepingClaims (fun _ => True)

theorem Attempts.keeps {w₁ : World} {tr : List (Call × Fate Outage)}
    (hdistinct : (spec.volumes.map (·.name)).Nodup) (h : Attempts X ns name spec w tr w₁) :
    OnlyAdmitted ns name spec.volumes w.cluster.pvcs w₁.cluster.pvcs ∧
      Partway ns name spec.workspaceOf spec.volumes w.cluster.pvcs w₁.cluster.pvcs := by
  refine (Session.inv (A := fun _ => True) (I := fun w' =>
    OnlyAdmitted ns name spec.volumes w.cluster.pvcs w'.cluster.pvcs ∧
      Partway ns name spec.workspaceOf spec.volumes w.cluster.pvcs w'.cluster.pvcs)
    (fun w' w'' h hw => ⟨keepingClaims_stable w' w'' h.1 hw, keepingClaims_stable w' w'' h.2 hw⟩)
    ?_ h ⟨.refl _, .refl _⟩).1
  rintro w' p R tr' p' w'' ⟨honly, hpart⟩ ⟨rfl, rfl⟩ hs _
  exact ⟨⟨honly.trans (run_onlyAdmitted hs), hpart.trans hdistinct (run_partway hs hdistinct)⟩,
    fun _ _ => trivial⟩

/-- With the claims provisioned, attempts look them up and no more. -/
theorem Attempts.reads {w₁ : World} {tr : List (Call × Fate Outage)}
    (hdistinct : (spec.volumes.map (·.name)).Nodup) {k : KeyMap PersistentVolumeClaim}
    (hprov : Provisioned ns name spec.workspaceOf spec.volumes k w.cluster.pvcs)
    (h : Attempts X ns name spec w tr w₁) : ∀ cf ∈ tr, ∃ volume ∈ spec.volumes,
      cf.1 = .kube (.getPvc ns (Volumes.pvcName name volume)) := by
  refine (Session.inv (A := fun c => ∃ volume ∈ spec.volumes,
      c = .kube (.getPvc ns (Volumes.pvcName name volume)))
    (I := fun w' => w'.cluster.pvcs = w.cluster.pvcs) ?_ ?_ h rfl).2
  · intro w' w'' hw hw'
    exact Eq.trans hw' hw
  · rintro w' p R tr' p' w'' hw ⟨rfl, rfl⟩ hs _
    rw [← hw] at hprov ⊢
    exact run_reads hs hdistinct hprov

/-- **Provisioning touches only what it must.**  Whatever the claims and whatever else happens,
each call keeps the spec of every existing claim and every label but the two that admit it, and
touches no claim but those of the volumes; so does any sequence of attempts.  An attempt that
returns leaves the claim of each volume admitted to the workspace of the sandbox; whatever became
of the attempts before it, the store is the one that a single uninterrupted run would have left;
and attempts after it write nothing.  With its calls served, an attempt returns. -/
theorem provision_touches_only (X : Externals) (ns name : String) (spec : OpenShellSandboxSpec)
    (hvalid : Volumes.validate X.printable spec.volumes = .ok ()) {w w₁ : World}
    {tr : List (Call × Fate Outage)} (h : Attempts X ns name spec w tr w₁) :
    (ensurePvcs ns name spec).Calls (fun c => ∀ w' f, OnlyAdmitted ns name spec.volumes
        w'.cluster.pvcs (World.react X w' c f).1.cluster.pvcs) ∧
    OnlyAdmitted ns name spec.volumes w.cluster.pvcs w₁.cluster.pvcs ∧
    (∀ tr' w₂, Prog.Steps (World.react X) keepingClaims (ensurePvcs ns name spec) w₁ tr'
        (.done (.ok ⟨⟩)) w₂ →
      (∀ volume ∈ spec.volumes, ∃ pvc : PersistentVolumeClaim,
        w₂.cluster.pvcs[claimKey ns name volume]? = some pvc ∧
        pvc.labels.bind (·[Volumes.attachableLabel]?) = some "true" ∧
        pvc.labels.bind (·[Volumes.attachableWorkspaceLabel]?) =
          some (workspaceName spec.workspaceOf)) ∧
      w₂.cluster.pvcs = ((ensurePvcs ns name spec).outcome (World.serve X) w).1.cluster.pvcs ∧
      ∀ tr'' w₃, Attempts X ns name spec w₂ tr'' w₃ → ∀ cf ∈ tr'', ∃ volume ∈ spec.volumes,
        cf.1 = .kube (.getPvc ns (Volumes.pvcName name volume))) ∧
    ((ensurePvcs ns name spec).outcome (World.serve X) w₁).2 = .ok ⟨⟩ := by
  have hdistinct := ((Volumes.validate_ok_iff X.printable spec.volumes).mp hvalid).distinct
  obtain ⟨honly, hpart⟩ := h.keeps hdistinct
  refine ⟨(ensurePvcs_volumeCalls spec).mono (fun _ hc w' f => hc.react w' f), honly, ?_,
    ensurePvcs_outcome w₁⟩
  intro tr' w₂ hs
  have hprov := run_provisions hdistinct hs
  refine ⟨fun volume hv => hprov.admitted hv, ?_, fun tr'' w₃ h' => h'.reads hdistinct hprov⟩
  exact (Provisioned.of_partway hdistinct hpart hprov).unique (outcome_provisions hdistinct w)

end runs

namespace Sample

/-- Two volumes of a sandbox; the first has a claim from before. -/
def twoVolumes : OpenShellSandboxSpec where
  volumes := [⟨"data", "/data", none, false, {}⟩, ⟨"cache", "/cache", none, false, {}⟩]

/-- A claim that a user has labelled and that is not yet admitted. -/
def oldClaim : PersistentVolumeClaim where
  name := "dev-data"
  labels := some ((∅ : StrMap String).insert "tier" "gold")
  spec := some {}

def oneClaim : World :=
  { cluster := { pvcs := (∅ : KeyMap PersistentVolumeClaim).insert ⟨"team", "dev-data"⟩ oldClaim } }

/-- The old claim is labelled, then the create for the second volume fails. -/
def interrupted : Op PUnit × World :=
  Prog.exec (World.react versionExternals)
    [.served, .served, .served, .refused (.kube "unavailable")]
    (ensurePvcs "team" "dev" twoVolumes) oneClaim

/-- The next attempt ends where one uninterrupted run does. -/
theorem finished_after_failure :
    interrupted.1.returned = none ∧
      ((ensurePvcs "team" "dev" twoVolumes).outcome (World.serve versionExternals)
        interrupted.2).1.cluster.pvcs =
      ((ensurePvcs "team" "dev" twoVolumes).outcome (World.serve versionExternals)
        oneClaim).1.cluster.pvcs := by
  refine ⟨by decide +kernel, ?_⟩
  have hattempts : Attempts versionExternals "team" "dev" twoVolumes oneClaim _ interrupted.2 :=
    Session.run (.nil oneClaim) ⟨rfl, rfl⟩ (Prog.steps_exec (World.react versionExternals)
      keepingClaims _ (ensurePvcs "team" "dev" twoVolumes) oneClaim) trivial
  obtain ⟨-, -, hruns, hreturns⟩ := provision_touches_only versionExternals "team" "dev" twoVolumes
    rfl hattempts
  obtain ⟨tr, hs⟩ := Prog.steps_outcome Outage.error (World.serve versionExternals) keepingClaims
    (ensurePvcs "team" "dev" twoVolumes) interrupted.2
  rw [hreturns] at hs
  exact (hruns tr _ hs).2.1

end Sample
end SandboxController
end OpenShell
