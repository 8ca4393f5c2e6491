import OpenShellOperator.Effects.Threads
import OpenShellOperator.Sandbox.Spec
import Mathlib.Data.List.TakeDrop

/-! # Volume claims of several sandboxes

The claims of the sandboxes of one namespace, under every interleaving of their applies and
cleanups.  The claim of a volume is named by joining the names of the sandbox and the volume;
an existing claim of that name is used as it is; a cleanup deletes by label.

`claims_spared_iff`: the sandboxes mount different claims and no cleanup deletes a claim that
another sandbox mounts, in any run, if and only if no sandbox's name and volume name overlap
with another's (`Overlap`) and no claim that is there at first carries the label of the wrong
sandbox. -/

namespace OpenShell
open Wire Effects

namespace SandboxController

/-! ### Names and labels -/

/-- The name `b` extends the name `a` by `-t`, and the volume of `a` is named `t-` and the
name of the volume of `b`. -/
def Overlap (a v b u : String) : Prop := ∃ t, b = a ++ "-" ++ t ∧ v = t ++ "-" ++ u

theorem toList_join (a v : String) : (a ++ "-" ++ v).toList = a.toList ++ '-' :: v.toList := by
  simp

theorem overlap_of_split {a v b u : String} {c : List Char} (hb : b.toList = a.toList ++ c)
    (hv : '-' :: v.toList = c ++ '-' :: u.toList) : (a = b ∧ v = u) ∨ Overlap a v b u := by
  cases c with
  | nil =>
      rw [List.append_nil] at hb
      exact .inl ⟨String.toList_inj.mp hb.symm, String.toList_inj.mp (List.cons.inj hv).2⟩
  | cons d t =>
      rw [List.cons_append] at hv
      obtain ⟨hd, ht⟩ := List.cons.inj hv
      refine .inr ⟨String.ofList t, ?_, ?_⟩
      · apply String.toList_inj.mp
        rw [toList_join, hb, ← hd, String.toList_ofList]
      · apply String.toList_inj.mp
        rw [toList_join, ht, String.toList_ofList]

/-- Joined names are equal only for equal or overlapping names. -/
theorem join_eq_iff (a v b u : String) :
    a ++ "-" ++ v = b ++ "-" ++ u ↔ (a = b ∧ v = u) ∨ Overlap a v b u ∨ Overlap b u a v := by
  constructor
  · intro h
    have hl := congrArg String.toList h
    rw [toList_join, toList_join, List.append_eq_append_iff] at hl
    rcases hl with ⟨c, hb, hv⟩ | ⟨c, ha, hu⟩
    · exact (overlap_of_split hb hv).imp_right .inl
    · rcases overlap_of_split ha hu with ⟨rfl, rfl⟩ | ho
      · exact .inl ⟨rfl, rfl⟩
      · exact .inr (.inr ho)
  · rintro (⟨rfl, rfl⟩ | ⟨t, rfl, rfl⟩ | ⟨t, rfl, rfl⟩)
    · rfl
    · simp only [String.append_assoc]
    · simp only [String.append_assoc]

theorem Overlap.ne {a v b u : String} (h : Overlap a v b u) : a ≠ b := by
  obtain ⟨t, rfl, -⟩ := h
  intro he
  have hl := congrArg (fun s => s.toList.length) he
  simp at hl

/-- A selector selects by the value of the sandbox label. -/
theorem selected_selector (name : String) (pvc : PersistentVolumeClaim) :
    Cluster.selected (Volumes.selector name) pvc ↔
      pvc.labels.bind (·[Volumes.sandboxLabel]?) = some name := by
  have hparts : Cluster.selectorParts (Volumes.selector name) = (Volumes.sandboxLabel, name) := by
    have hall : ∀ c ∈ Volumes.sandboxLabel.toList, (c != '=') = true :=
      List.all_eq_true.mp (by decide : Volumes.sandboxLabel.toList.all (· != '=') = true)
    have hlist : (Volumes.selector name).toList =
        Volumes.sandboxLabel.toList ++ '=' :: name.toList := by
      simp [Volumes.selector]
    unfold Cluster.selectorParts
    rw [hlist, List.span_eq_takeWhile_dropWhile, List.takeWhile_append_of_pos hall,
      List.dropWhile_append_of_pos hall]
    simp
  unfold Cluster.selected
  rw [hparts]
  cases pvc.labels <;> simp

/-- The claim that one volume of a driver configuration names. -/
def claimName (volume : Json) : Option String :=
  match (volume.get? "persistent_volume_claim").bind (·.get? "claim_name") with
  | some (.str name) => some name
  | _ => none

/-- The claims that a driver configuration names. -/
def claimNames (config : Option Json) : List String :=
  match (config.bind (·.get? Volumes.driverKey)).bind (·.get? "volumes") with
  | some (.arr volumes) => volumes.filterMap claimName
  | _ => []

/-- The claims a sandbox mounts. -/
def mounts (sandbox : OpenShellSandbox) : List String :=
  claimNames (Volumes.driverConfigJson sandbox.metadata.name sandbox.spec.volumes)

theorem claimName_volumeEntry (name : String) (volume : SandboxVolume) :
    claimName (Volumes.volumeEntry name volume) = some (Volumes.pvcName name volume) := by
  simp [claimName, Volumes.volumeEntry, Json.ofPairs, Json.get?, Json.find_insert]

theorem mounts_eq (sandbox : OpenShellSandbox) :
    mounts sandbox = sandbox.spec.volumes.map (Volumes.pvcName sandbox.metadata.name) := by
  unfold mounts Volumes.driverConfigJson
  cases hv : sandbox.spec.volumes with
  | nil => rfl
  | cons volume volumes =>
      have hvolumes : ∀ entries mounts : Json,
          ((some (Json.ofPairs [(Volumes.driverKey, Json.ofPairs [("volumes", entries),
            ("containers", mounts)])])).bind (·.get? Volumes.driverKey)).bind (·.get? "volumes") =
              some entries := by
        intro entries mounts
        simp [Json.ofPairs, Json.get?, Json.find_insert]
      rw [if_neg (by simp), claimNames, hvolumes]
      show (List.map _ (volume :: volumes)).filterMap claimName = _
      rw [List.filterMap_map]
      have hname : claimName ∘ Volumes.volumeEntry sandbox.metadata.name =
          fun volume => some (Volumes.pvcName sandbox.metadata.name volume) :=
        funext (claimName_volumeEntry sandbox.metadata.name)
      rw [hname, List.filterMap_eq_map']

/-! ### The system -/

section system
variable (X : Externals) (ns : String) (resources : OpenShellSandbox → Prop)

/-- A reconcile of a sandbox of the namespace: the apply or the cleanup of one of its versions. -/
def ClaimReconcile (name : String) (_ : World) (p : Op Action) : Prop :=
  ∃ sandbox, resources sandbox ∧ sandbox.metadata.name = name ∧
    sandbox.metadata.namespace_ = some ns ∧
    ((∃ now, p = apply X now sandbox) ∨ p = cleanup sandbox)

/-- Everything but the claims may change on its own. -/
def KeepsClaims (w w' : World) : Prop := w'.cluster.pvcs = w.cluster.pvcs

/-- The sandboxes of the namespace run side by side, one reconcile of each at a time. -/
abbrev ClaimReach : Conf String Call.Answer Error Action World →
    Conf String Call.Answer Error Action World → Prop :=
  Reach (fun _ => World.react X) (ClaimReconcile X ns resources) KeepsClaims

/-- All versions of the sandbox keep their claims. -/
def Retains (name : String) : Prop :=
  ∀ sandbox, resources sandbox → sandbox.metadata.name = name →
    sandbox.spec.volumeRetention = .retain

/-- A reconcile that is about to delete claims spares those of the other sandboxes, and those
of the sandboxes that retain theirs. -/
def Spares (s : Conf String Call.Answer Error Action World) : Prop :=
  ∀ name scope selector k, s.thread name = some (.call (.kube (.deletePvcs scope selector)) k) →
    ∀ other, resources other → other.metadata.name ≠ name ∨ Retains resources other.metadata.name →
      ∀ claim ∈ mounts other, ∀ pvc, s.world.cluster.pvcs[(⟨ns, claim⟩ : Key)]? = some pvc →
        ¬ (scope = ns ∧ Cluster.selected selector pvc)

/-- No two sandboxes mount one claim. -/
def MountsApart : Prop :=
  ∀ a b, resources a → resources b → a.metadata.name ≠ b.metadata.name →
    ∀ claim ∈ mounts a, claim ∉ mounts b

/-- No name and volume name of a sandbox overlap with those of another. -/
def NamesApart : Prop :=
  ∀ a b, resources a → resources b → ∀ v ∈ a.spec.volumes, ∀ u ∈ b.spec.volumes,
    ¬ Overlap a.metadata.name v.name b.metadata.name u.name

/-- No claim that a sandbox mounts carries the label of another one that deletes its claims. -/
def LabelsApart (w : World) : Prop :=
  ∀ a b, resources a → resources b → a.metadata.name ≠ b.metadata.name →
    a.spec.volumeRetention = .delete → ∀ claim ∈ mounts b, ∀ pvc,
      w.cluster.pvcs[(⟨ns, claim⟩ : Key)]? = some pvc →
        pvc.labels.bind (·[Volumes.sandboxLabel]?) ≠ some a.metadata.name

end system

section system
variable {X : Externals} {ns : String} {resources : OpenShellSandbox → Prop} {w : World}

theorem mem_mounts {sandbox : OpenShellSandbox} {claim : String} :
    claim ∈ mounts sandbox ↔
      ∃ volume ∈ sandbox.spec.volumes, claim = sandbox.metadata.name ++ "-" ++ volume.name := by
  rw [mounts_eq, List.mem_map]
  simp only [Volumes.pvcName, eq_comm]

/-- The sandboxes mount different claims if and only if their names do not overlap. -/
theorem mountsApart_iff : MountsApart resources ↔ NamesApart resources := by
  constructor
  · intro h a b ha hb v hv u hu ho
    refine h a b ha hb ho.ne _ (mem_mounts.mpr ⟨v, hv, rfl⟩) (mem_mounts.mpr ⟨u, hu, ?_⟩)
    exact (join_eq_iff _ _ _ _).mpr (.inr (.inl ho))
  · intro h a b ha hb hne claim hca hcb
    obtain ⟨v, hv, rfl⟩ := mem_mounts.mp hca
    obtain ⟨u, hu, he⟩ := mem_mounts.mp hcb
    rcases (join_eq_iff _ _ _ _).mp he with ⟨hn, -⟩ | ho | ho
    · exact hne hn
    · exact h a b ha hb v hv u hu ho
    · exact h b a hb ha u hu v hv ho

/-- The calls of the reconciles of a sandbox. -/
def ClaimCall (ns : String) (resources : OpenShellSandbox → Prop) (name : String) (c : Call) : Prop :=
  ∃ sandbox, resources sandbox ∧ sandbox.metadata.name = name ∧
    (ApplyCall ns sandbox c ∨ sandbox.spec.volumeRetention = .delete ∧
      c = .kube (.deletePvcs ns (Volumes.selector name)))

theorem cleanup_calls {sandbox : OpenShellSandbox}
    (hns : sandbox.metadata.namespace_ = some ns) :
    (cleanup sandbox).Calls (fun c => ApplyCall ns sandbox c ∨
      sandbox.spec.volumeRetention = .delete ∧
        c = .kube (.deletePvcs ns (Volumes.selector sandbox.metadata.name))) := by
  refine Prog.Calls.bind (Prog.Calls.bind (Prog.calls_perform (.inl .delete))
    (fun _ => Prog.calls_pure _)) (fun _ => ?_)
  split_ifs with hd
  · refine Prog.Calls.bind ?_ (fun _ => Prog.calls_pure _)
    unfold deleteProvisionedVolumes
    rw [hns]
    exact Prog.calls_perform (.inr ⟨hd, rfl⟩)
  · exact Prog.calls_pure _

theorem claimReconcile_calls {name : String} {p : Op Action}
    (h : ClaimReconcile X ns resources name w p) : p.Calls (ClaimCall ns resources name) := by
  obtain ⟨sandbox, hr, rfl, hns, ⟨now, rfl⟩ | rfl⟩ := h
  · exact (apply_calls now hns).mono (fun c hc => ⟨sandbox, hr, rfl, .inl hc⟩)
  · exact (cleanup_calls hns).mono (fun c hc => ⟨sandbox, hr, rfl, hc⟩)

/-- The sandbox whose label a claim carries. -/
def labelOf (pvc : PersistentVolumeClaim) : Option String :=
  pvc.labels.bind (·[Volumes.sandboxLabel]?)

/-- Claims that keep their label stay apart. -/
theorem LabelsApart.congr {w w' : World} (h : LabelsApart ns resources w)
    (hw : ∀ (key : Key) pvc', w'.cluster.pvcs[key]? = some pvc' →
      ∃ pvc, w.cluster.pvcs[key]? = some pvc ∧ labelOf pvc' = labelOf pvc) :
    LabelsApart ns resources w' := by
  intro a b ha hb hne hdel claim hclaim pvc' hpvc'
  obtain ⟨pvc, hpvc, hlabel⟩ := hw _ pvc' hpvc'
  have hapart := h a b ha hb hne hdel claim hclaim pvc hpvc
  rw [← labelOf, hlabel]
  exact hapart

theorem admissionLabels_sandboxLabel (workspace : String) :
    (Volumes.admissionLabels workspace)[Volumes.sandboxLabel]? = none := by
  unfold Volumes.admissionLabels
  rw [Std.ExtTreeMap.getElem?_insert, if_neg (by decide), Std.ExtTreeMap.getElem?_insert,
    if_neg (by decide)]
  simp

theorem labelOf_buildPvc (name workspace : String) (volume : SandboxVolume) :
    labelOf (Volumes.buildPvc name workspace volume) = some name := by
  show ((((Volumes.admissionLabels workspace).insert _ _).insert Volumes.sandboxLabel
    name)[Volumes.sandboxLabel]?) = some name
  rw [Std.ExtTreeMap.getElem?_insert, if_pos (by decide)]

theorem labelOf_merge (pvc : PersistentVolumeClaim) (workspace : String) :
    labelOf { pvc with labels := some (Cluster.mergeLabels pvc.labels
      (Volumes.admissionLabels workspace)) } = labelOf pvc := by
  show (Cluster.mergeLabels pvc.labels (Volumes.admissionLabels workspace))[
    Volumes.sandboxLabel]? = _
  rw [Cluster.get?_mergeLabels, admissionLabels_sandboxLabel, labelOf]
  cases pvc.labels <;> simp

theorem LabelsApart.createPvc (hn : NamesApart resources) {sandbox : OpenShellSandbox}
    (hr : resources sandbox) {volume : SandboxVolume} (hv : volume ∈ sandbox.spec.volumes)
    (workspace : String) (h : LabelsApart ns resources w) :
    LabelsApart ns resources { w with cluster := (w.cluster.createPvc ns
      (Volumes.buildPvc sandbox.metadata.name workspace volume)).1 } := by
  unfold Cluster.createPvc
  split
  · exact h
  · intro a b ha hb hne hdel claim hclaim pvc hpvc
    rw [KeyMap.get?_insert] at hpvc
    split_ifs at hpvc with hkey
    · rw [← Option.some.inj hpvc]
      show labelOf _ ≠ _
      rw [labelOf_buildPvc]
      intro hname
      have hmount : claim ∈ mounts sandbox := by
        rw [mem_mounts]
        exact ⟨volume, hv, (congrArg Key.name hkey).symm⟩
      have hnames : sandbox.metadata.name ≠ b.metadata.name := by
        rw [Option.some.inj hname]
        exact hne
      exact mountsApart_iff.mpr hn sandbox b hr hb hnames claim hmount hclaim
    · exact h a b ha hb hne hdel claim hclaim pvc hpvc

theorem labelOf_patchPvcLabels {k : Cluster} {ns name workspace : String} {key : Key}
    {pvc' : PersistentVolumeClaim}
    (h : (k.patchPvcLabels ns name (Volumes.admissionLabels workspace)).1.pvcs[key]? = some pvc') :
    ∃ pvc, k.pvcs[key]? = some pvc ∧ labelOf pvc' = labelOf pvc := by
  unfold Cluster.patchPvcLabels at h
  split at h
  · exact ⟨pvc', h, rfl⟩
  · rename_i pvc hpvc
    rw [KeyMap.get?_insert] at h
    split_ifs at h with hkey
    · subst hkey
      rw [← Option.some.inj h]
      exact ⟨pvc, hpvc, labelOf_merge pvc workspace⟩
    · exact ⟨pvc', h, rfl⟩

theorem patchSandboxStatus_pvcs (k : Cluster) (key : Key) (status : OpenShellSandboxStatus) :
    (k.patchSandboxStatus key status).1.pvcs = k.pvcs := by
  unfold Cluster.patchSandboxStatus
  split <;> rfl

/-- The calls of the sandboxes keep the labels apart. -/
theorem LabelsApart.call (hn : NamesApart resources) {name : String} {c : Call}
    (hc : ClaimCall ns resources name c) (h : LabelsApart ns resources w) (f : Fate Outage) :
    LabelsApart ns resources (World.react X w c f).1 := by
  have hsame : ∀ w' : World, w'.cluster.pvcs = w.cluster.pvcs → LabelsApart ns resources w' :=
    fun w' hw => h.congr (fun key pvc hpvc => ⟨pvc, hw ▸ hpvc, rfl⟩)
  rcases respond_world Outage.error (World.serve X) w c f with hw | hw
  · rw [World.react, hw]
    exact h
  · rw [World.react, hw]
    obtain ⟨sandbox, hr, -, hcall | ⟨-, rfl⟩⟩ := hc
    · cases hcall with
      | upkeep hup =>
          cases hup with
          | createPvc hv => exact h.createPvc hn hr hv _
          | patchPvc hv => exact h.congr (fun _ _ => labelOf_patchPvcLabels)
          | _ => exact hsame _ rfl
      | create policy => exact hsame _ rfl
      | delete => exact hsame _ rfl
      | status status => exact hsame _ (patchSandboxStatus_pvcs _ _ _)
    · refine h.congr (fun key pvc' hpvc' => ?_)
      have hfilter := (KeyMap.get?_filter _ _ _).symm.trans hpvc'
      rw [Option.filter_eq_some_iff] at hfilter
      exact ⟨pvc', hfilter.1, rfl⟩

/-- In every run the labels stay apart and every reconcile stays inside its footprint. -/
theorem labelsApart_reach (hn : NamesApart resources) (h : LabelsApart ns resources w)
    {s : Conf String Call.Answer Error Action World}
    (hs : ClaimReach X ns resources (Conf.idle w) s) :
    LabelsApart ns resources s.world ∧
      ∀ name p, s.thread name = some p → p.Calls (ClaimCall ns resources name) := by
  have hstart : ∀ name w' p, LabelsApart ns resources w' →
      ClaimReconcile X ns resources name w' p → p.Calls (ClaimCall ns resources name) :=
    fun _ _ _ _ => claimReconcile_calls
  have hcall : ∀ name c f w', LabelsApart ns resources w' → ClaimCall ns resources name c →
      LabelsApart ns resources (World.react X w' c f).1 :=
    fun _ _ f _ h' hc => h'.call hn hc f
  have henv : ∀ w₁ w₂, LabelsApart ns resources w₁ → KeepsClaims w₁ w₂ →
      LabelsApart ns resources w₂ :=
    fun w₁ w₂ h₁ hkeep => h₁.congr (fun key pvc hpvc => ⟨pvc, hkeep ▸ hpvc, rfl⟩)
  exact Reach.footprint hstart hcall henv hs h

theorem spares_of_labelsApart {s : Conf String Call.Answer Error Action World}
    (h : LabelsApart ns resources s.world)
    (hcalls : ∀ name p, s.thread name = some p → p.Calls (ClaimCall ns resources name)) :
    Spares ns resources s := by
  rintro name scope selector k hthread other hother hspared claim hclaim pvc hpvc ⟨-, hsel⟩
  obtain ⟨sandbox, hr, hname, hcall | ⟨hdel, hcall⟩⟩ := (hcalls name _ hthread).1
  · cases hcall with
    | upkeep hup => cases hup
  · cases hcall
    have hlabel := (selected_selector name pvc).mp hsel
    rcases hspared with hne | hretains
    · refine h sandbox other hr hother ?_ hdel claim hclaim pvc hpvc ?_
      · rw [hname]
        exact hne.symm
      · rw [hname]
        exact hlabel
    · by_cases hne : sandbox.metadata.name = other.metadata.name
      · have hret := hretains sandbox hr hne
        rw [hdel] at hret
        cases hret
      · refine h sandbox other hr hother hne hdel claim hclaim pvc hpvc ?_
        rw [hname]
        exact hlabel

/-- After its gateway delete, the cleanup of a sandbox that deletes its claims is about to
delete them. -/
theorem cleanup_deletes {sandbox : OpenShellSandbox} (hns : sandbox.metadata.namespace_ = some ns)
    (hdel : sandbox.spec.volumeRetention = .delete) (w : World) :
    ∃ k, (Prog.exec (World.react X) [.served] (cleanup sandbox) w).1 =
      .call (.kube (.deletePvcs ns (Volumes.selector sandbox.metadata.name))) k ∧
    (Prog.exec (World.react X) [.served] (cleanup sandbox) w).2.cluster = w.cluster := by
  obtain ⟨outcome, hanswer⟩ : ∃ outcome, (World.serve X w (deleteCall sandbox)).2 = .ok outcome := by
    show ∃ outcome, (w.gateway.deleteSandbox _).2 = .ok outcome
    unfold Gateway.deleteSandbox
    split
    · exact ⟨_, rfl⟩
    · exact ⟨_, rfl⟩
  have hnext : (Prog.exec (World.react X) [.served] (cleanup sandbox) w).1 =
      ((Prog.done (World.serve X w (deleteCall sandbox)).2 : Op DeletionOutcome) >>= fun _ =>
        if sandbox.spec.volumeRetention = .delete then do
          deleteProvisionedVolumes sandbox sandbox.metadata.name
          pure .awaitChange
        else pure .awaitChange) := by
    show (Prog.bind (Prog.bind (Prog.done (World.serve X w (deleteCall sandbox)).2) _) _) = _
    rw [hanswer]
    rfl
  rw [hnext, hanswer]
  simp only [hdel, if_true, deleteProvisionedVolumes, hns]
  exact ⟨_, rfl, rfl⟩

/-- From any world a run leads to the point where that cleanup deletes its claims. -/
theorem cleanup_reaches {sandbox : OpenShellSandbox} (hr : resources sandbox)
    (hns : sandbox.metadata.namespace_ = some ns) (hdel : sandbox.spec.volumeRetention = .delete)
    (w : World) :
    ∃ s k, ClaimReach X ns resources (Conf.idle w) s ∧
      s.thread sandbox.metadata.name =
        some (.call (.kube (.deletePvcs ns (Volumes.selector sandbox.metadata.name))) k) ∧
      s.world.cluster = w.cluster := by
  obtain ⟨k, hnext, hcluster⟩ := cleanup_deletes (X := X) hns hdel w
  have hstart : ClaimReconcile X ns resources sandbox.metadata.name w (cleanup sandbox) :=
    ⟨sandbox, hr, rfl, hns, .inr rfl⟩
  obtain ⟨s, hreach, hthread, hworld⟩ : ∃ s, ClaimReach X ns resources (Conf.idle w) s ∧ _ ∧ _ :=
    Reach.launch sandbox.metadata.name [.served] rfl hstart
  refine ⟨s, k, hreach, hthread.trans (congrArg some hnext), ?_⟩
  rw [hworld]
  exact hcluster

/-- **Claims of several sandboxes.**  From claims in a given state, the sandboxes of a
namespace mount different claims and in every run no cleanup deletes a claim that another
sandbox or a retaining one mounts, if and only if no sandbox's name and volume name overlap
with another's and no mounted claim carries at first the label of another sandbox that deletes
its claims. -/
theorem claims_spared_iff (X : Externals) (ns : String) (resources : OpenShellSandbox → Prop)
    (hns : ∀ sandbox, resources sandbox → sandbox.metadata.namespace_ = some ns) (w : World) :
    (MountsApart resources ∧
        ∀ s, ClaimReach X ns resources (Conf.idle w) s → Spares ns resources s) ↔
      NamesApart resources ∧ LabelsApart ns resources w := by
  constructor
  · rintro ⟨hmounts, hspares⟩
    refine ⟨mountsApart_iff.mp hmounts, ?_⟩
    intro a b ha hb hne hdel claim hclaim pvc hpvc hlabel
    obtain ⟨s, k, hreach, hnext, hcluster⟩ := cleanup_reaches (X := X) ha (hns a ha) hdel w
    refine hspares s hreach a.metadata.name ns _ k hnext b hb (.inl hne.symm) claim hclaim pvc ?_
      ⟨rfl, (selected_selector _ _).mpr hlabel⟩
    rw [hcluster]
    exact hpvc
  · rintro ⟨hnames, hlabels⟩
    refine ⟨mountsApart_iff.mpr hnames, fun s hs => ?_⟩
    obtain ⟨hlabels', hcalls⟩ := labelsApart_reach hnames hlabels hs
    exact spares_of_labelsApart hlabels' hcalls

end system

namespace Sample

/-- A sandbox with one volume. -/
def box (name volume : String) (retention : VolumeRetention) : OpenShellSandbox where
  metadata := { name := name, namespace_ := some "team" }
  spec := { volumes := [⟨volume, "/data", none, false, {}⟩], volumeRetention := retention }

/-- Names without a common start are apart. -/
theorem apart_boxes :
    MountsApart (fun sandbox => sandbox = box "a" "data" .delete ∨ sandbox = box "b" "data" .retain) ∧
      ∀ s, ClaimReach versionExternals "team"
          (fun sandbox => sandbox = box "a" "data" .delete ∨ sandbox = box "b" "data" .retain)
          (Conf.idle {}) s →
        Spares "team"
          (fun sandbox => sandbox = box "a" "data" .delete ∨ sandbox = box "b" "data" .retain) s := by
  refine (claims_spared_iff versionExternals "team" _ ?_ {}).mpr ⟨?_, ?_⟩
  · rintro _ (rfl | rfl) <;> rfl
  · rintro a b ha hb v hv u hu ⟨t, -, ht⟩
    have hv' : v.name = "data" := by
      rcases ha with rfl | rfl <;> rw [List.mem_singleton.mp hv]
    have hu' : u.name = "data" := by
      rcases hb with rfl | rfl <;> rw [List.mem_singleton.mp hu]
    rw [hv', hu'] at ht
    have hl := congrArg (fun s => s.toList.length) ht
    simp at hl
  · intro a b _ _ _ _ claim _ pvc hpvc
    cases hpvc

/-- `a` with volume `b-c`, and `a-b` with volume `c`. -/
def joined (sandbox : OpenShellSandbox) : Prop :=
  sandbox = box "a" "b-c" .delete ∨ sandbox = box "a-b" "c" .retain

/-- The first sandbox has been applied. -/
def half : World :=
  (Prog.exec (World.react versionExternals) (List.replicate 5 .served)
    (apply versionExternals 0 (box "a" "b-c" .delete)) {}).2

/-- Both sandboxes have been applied. -/
def applied : World :=
  (Prog.exec (World.react versionExternals) (List.replicate 5 .served)
    (apply versionExternals 0 (box "a-b" "c" .retain)) half).2

/-- Both mount the claim `a-b-c`, and the cleanup of `a` deletes it. -/
theorem joined_claim_deleted :
    ¬ MountsApart joined ∧ ∃ s, ClaimReach versionExternals "team" joined (Conf.idle {}) s ∧
      ¬ Spares "team" joined s := by
  constructor
  · intro h
    refine h _ _ (.inl rfl) (.inr rfl) (by decide) "a-b-c" ?_ ?_
    · rw [mounts_eq]
      exact List.mem_singleton.mpr rfl
    · rw [mounts_eq]
      exact List.mem_singleton.mpr rfl
  · have ha : ClaimReconcile versionExternals "team" joined "a" {}
        (apply versionExternals 0 (box "a" "b-c" .delete)) :=
      ⟨_, .inl rfl, rfl, rfl, .inl ⟨0, rfl⟩⟩
    have hb : ClaimReconcile versionExternals "team" joined "a-b" half
        (apply versionExternals 0 (box "a-b" "c" .retain)) :=
      ⟨_, .inr rfl, rfl, rfl, .inl ⟨0, rfl⟩⟩
    have hfirst : ClaimReach versionExternals "team" joined (Conf.idle {}) (Conf.idle half) :=
      Reach.job "a" (List.replicate 5 Fate.served) rfl ha
    have hsecond : ClaimReach versionExternals "team" joined (Conf.idle half) (Conf.idle applied) :=
      Reach.job "a-b" (List.replicate 5 Fate.served) rfl hb
    have hjoined : joined (box "a" "b-c" .delete) := .inl rfl
    obtain ⟨s, k, hcleanup, hnext, hcluster⟩ :=
      cleanup_reaches (X := versionExternals) hjoined rfl rfl applied
    refine ⟨s, (hfirst.trans hsecond).trans hcleanup, fun hspares => ?_⟩
    have hclaim : (applied.cluster.pvcs[(⟨"team", "a-b-c"⟩ : Key)]?.any
        (Cluster.selected (Volumes.selector "a"))) = true := by decide +kernel
    obtain ⟨pvc, hpvc, hsel⟩ := (Option.any_eq_true _ _).mp hclaim
    refine hspares "a" "team" _ k hnext (box "a-b" "c" .retain) (.inr rfl) (.inl (by decide))
      "a-b-c" ?_ pvc ?_ ⟨rfl, hsel⟩
    · rw [mounts_eq]
      exact List.mem_singleton.mpr rfl
    · rw [hcluster]
      exact hpvc

end Sample
end SandboxController
end OpenShell
