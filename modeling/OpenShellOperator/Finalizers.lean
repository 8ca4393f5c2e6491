import OpenShellOperator.Ownership
import OpenShellOperator.Provider.Reconcile
import OpenShellOperator.Sandbox.Reconcile
import OpenShellOperator.Workspace.Reconcile

/-! # Finalizers

`Cluster.entry` is what the cluster has of a resource: its metadata and the workspace it refers
to.  Calls that add or remove a finalizer are the only ones of the operator that change
entries.  `finalizer_safe` is the rule for the finalizer machinery: a cleanup has to establish
what may be relied on before the finalizer is removed. -/

namespace OpenShell
open Wire Effects

/-- The finalizer the operator puts on each kind of resource. -/
def Kind.finalizerName : Kind → String
  | .sandbox => SandboxController.finalizerName
  | .provider => ProviderController.finalizerName
  | .workspace => WorkspaceController.finalizerName

/-! ### Entries -/

/-- What the cluster has of a resource. -/
structure Entry where
  metadata : ObjectMeta
  workspace : Option String
deriving DecidableEq

/-- The operator's finalizer is on the resource. -/
def Entry.finalized (e : Entry) (kind : Kind) : Prop := kind.finalizerName ∈ e.metadata.finalizers

/-- The deletion of the resource has been requested. -/
def Entry.deleting (e : Entry) : Prop := e.metadata.deletionTimestamp.isSome

namespace Cluster

def entry (k : Cluster) (i : ResourceId) : Option Entry :=
  match i.kind with
  | .sandbox =>
      k.sandboxes[i.key]?.map (fun o => ⟨o.metadata, some (workspaceName o.spec.workspaceOf)⟩)
  | .provider =>
      k.providers[i.key]?.map
        (fun o => ⟨o.metadata, some (workspaceName (ProviderController.workspaceOf o))⟩)
  | .workspace => k.workspaces[i.key]?.map (fun o => ⟨o.metadata, none⟩)

/-- The entry after its metadata has been changed, or the resource removed. -/
def changed (f : ObjectMeta → Option ObjectMeta) (e : Entry) : Option Entry :=
  (f e.metadata).map (⟨·, e.workspace⟩)

section entries
variable {k : Cluster} {i : ResourceId}

theorem get?_modifyAt {β : Type} (m : KeyMap β) (key : Key) (f : β → Option β) (j : Key) :
    ((modifyAt m key f).toOption.getD m)[j]? = if j = key then m[j]?.bind f else m[j]? := by
  unfold modifyAt
  by_cases hj : j = key
  · subst hj
    rw [if_pos rfl]
    cases hv : m[j]? with
    | none => simpa [Except.toOption] using hv
    | some v =>
        cases hu : f v with
        | none => simp [Except.toOption, hu]
        | some u => simp [Except.toOption, hu]
  · rw [if_neg hj]
    cases hv : m[key]? with
    | none => rfl
    | some v =>
        cases hu : f v with
        | none => simp [Except.toOption, hu, KeyMap.get?_erase, Ne.symm hj]
        | some u => simp [Except.toOption, hu, KeyMap.get?_insert, Ne.symm hj]

theorem modifyMeta_sandbox (k : Cluster) (key : Key) (f : ObjectMeta → Option ObjectMeta) :
    (k.modifyMeta .sandbox key f).1 = { k with
      sandboxes := (modifyAt k.sandboxes key
        (fun o => (f o.metadata).map ({ o with metadata := · }))).toOption.getD k.sandboxes } := by
  simp only [modifyMeta]
  split <;> rename_i h <;> rw [h] <;> rfl

theorem modifyMeta_provider (k : Cluster) (key : Key) (f : ObjectMeta → Option ObjectMeta) :
    (k.modifyMeta .provider key f).1 = { k with
      providers := (modifyAt k.providers key
        (fun o => (f o.metadata).map ({ o with metadata := · }))).toOption.getD k.providers } := by
  simp only [modifyMeta]
  split <;> rename_i h <;> rw [h] <;> rfl

theorem modifyMeta_workspace (k : Cluster) (key : Key) (f : ObjectMeta → Option ObjectMeta) :
    (k.modifyMeta .workspace key f).1 = { k with
      workspaces := (modifyAt k.workspaces key
        (fun o => (f o.metadata).map ({ o with metadata := · }))).toOption.getD k.workspaces } := by
  simp only [modifyMeta]
  split <;> rename_i h <;> rw [h] <;> rfl

/-- One kind of resource in `entry_modifyMeta`. -/
theorem map_modifyAt {β : Type} {m : KeyMap β} {key j : Key} {f : β → Option β} {p : β → Entry}
    {g : ObjectMeta → Option ObjectMeta} (hf : ∀ v, (f v).map p = changed g (p v)) :
    (((modifyAt m key f).toOption.getD m)[j]?).map p =
      if j = key then (m[j]?.map p).bind (changed g) else m[j]?.map p := by
  rw [get?_modifyAt]
  split_ifs
  · cases m[j]? with
    | none => rfl
    | some v => exact hf v
  · rfl

/-- A change of metadata changes the entry of that resource. -/
theorem entry_modifyMeta (k : Cluster) (i : ResourceId) (f : ObjectMeta → Option ObjectMeta)
    (j : ResourceId) : (k.modifyMeta i.kind i.key f).1.entry j =
      if j = i then (k.entry j).bind (changed f) else k.entry j := by
  obtain ⟨kind, key⟩ := i
  obtain ⟨kind', key'⟩ := j
  have hid : ((⟨kind', key'⟩ : ResourceId) = ⟨kind, key⟩) = (kind' = kind ∧ key' = key) := by simp
  rw [if_congr (iff_of_eq hid) rfl rfl]
  by_cases hkind : kind' = kind
  · subst hkind
    rw [if_congr (and_iff_right rfl) rfl rfl]
    cases kind' with
    | sandbox =>
        rw [modifyMeta_sandbox]
        refine map_modifyAt (fun o => ?_)
        cases h : f o.metadata <;> simp [changed, h]
    | provider =>
        rw [modifyMeta_provider]
        refine map_modifyAt (fun o => ?_)
        cases h : f o.metadata <;> simp [changed, h, ProviderController.workspaceOf]
    | workspace =>
        rw [modifyMeta_workspace]
        refine map_modifyAt (fun o => ?_)
        cases h : f o.metadata <;> simp [changed, h]
  · rw [if_neg (fun h => hkind h.1)]
    cases kind with
    | sandbox =>
        rw [modifyMeta_sandbox]
        cases kind' <;> first | rfl | exact absurd rfl hkind
    | provider =>
        rw [modifyMeta_provider]
        cases kind' <;> first | rfl | exact absurd rfl hkind
    | workspace =>
        rw [modifyMeta_workspace]
        cases kind' <;> first | rfl | exact absurd rfl hkind

/-- The call adds or removes a finalizer. -/
inductive Marks : KubeCall → Prop
  | add (kind : Kind) (key : Key) (name : String) : Marks (.addFinalizer kind key name)
  | remove (kind : Kind) (key : Key) (name : String) : Marks (.removeFinalizer kind key name)

theorem map_insert {β : Type} {m : KeyMap β} {key j : Key} {v v' : β} {p : β → Entry}
    (hv : m[key]? = some v) (hp : p v' = p v) : ((m.insert key v')[j]?).map p = m[j]?.map p := by
  rw [KeyMap.get?_insert]
  split_ifs with hj
  · rw [← hj, hv]
    exact congrArg some hp
  · rfl

/-- Other calls leave all entries alone. -/
theorem entry_serve {c : KubeCall} (h : ¬ Marks c) (k : Cluster) (i : ResourceId) :
    (k.serve c).1.entry i = k.entry i := by
  obtain ⟨kind, key⟩ := i
  cases c with
  | addFinalizer kind key name => exact absurd (.add kind key name) h
  | removeFinalizer kind key name => exact absurd (.remove kind key name) h
  | createPvc ns pvc =>
      show (k.createPvc ns pvc).1.entry _ = _
      unfold createPvc
      split <;> cases kind <;> rfl
  | patchPvcLabels ns name labels =>
      show (k.patchPvcLabels ns name labels).1.entry _ = _
      unfold patchPvcLabels
      split <;> cases kind <;> rfl
  | patchSandboxStatus ns name status =>
      show (k.patchSandboxStatus ⟨ns, name⟩ status).1.entry _ = _
      unfold patchSandboxStatus
      split
      · rfl
      · rename_i o ho
        cases kind with
        | sandbox => exact map_insert ho rfl
        | _ => rfl
  | patchProviderStatus ns name status =>
      show (k.patchProviderStatus ⟨ns, name⟩ status).1.entry _ = _
      unfold patchProviderStatus
      split
      · rfl
      · rename_i o ho
        cases kind with
        | provider => exact map_insert ho rfl
        | _ => rfl
  | patchWorkspaceStatus name status =>
      show (k.patchWorkspaceStatus ⟨"", name⟩ status).1.entry _ = _
      unfold patchWorkspaceStatus
      split
      · rfl
      · rename_i o ho
        cases kind with
        | workspace => exact map_insert ho rfl
        | _ => rfl
  | _ => cases kind <;> rfl

/-- A resource that is there stays there, for its workspace, with its finalizers, and with its
deletion requested once it has been. -/
def Kept (e e' : Option Entry) : Prop :=
  ∀ x, e = some x → ∃ x', e' = some x' ∧ x'.workspace = x.workspace ∧
    (∀ kind, x.finalized kind → x'.finalized kind) ∧ (x.deleting → x'.deleting)

theorem Kept.of_eq {e e' : Option Entry} (h : e' = e) : Kept e e' :=
  fun x hx => ⟨x, h.trans hx, rfl, fun _ h => h, fun h => h⟩

/-- Every resource is kept by every call that does not remove a finalizer of it. -/
theorem serve_kept {c : KubeCall} (h : ∀ name, c ≠ .removeFinalizer i.kind i.key name) :
    Kept (k.entry i) ((k.serve c).1.entry i) := by
  by_cases hm : Marks c
  · cases hm with
    | add kind key name =>
        have hentry := entry_modifyMeta k ⟨kind, key⟩ (some ∘ addFinalizerTo name) i
        split_ifs at hentry
        · intro x hx
          rw [hx] at hentry
          exact ⟨_, hentry, rfl, fun _ hf => List.mem_append_left _ hf, fun hd => hd⟩
        · exact .of_eq hentry
    | remove kind key name =>
        have hentry := entry_modifyMeta k ⟨kind, key⟩ (removeFinalizerFrom name) i
        rw [if_neg ?_] at hentry
        · exact .of_eq hentry
        · rintro rfl
          exact h name rfl
  · exact .of_eq (entry_serve hm k i)

/-- No call makes a resource appear or changes the workspace of one. -/
theorem serve_known (c : KubeCall) {x' : Entry} (h : (k.serve c).1.entry i = some x') :
    ∃ x, k.entry i = some x ∧ x.workspace = x'.workspace := by
  have hbind : ∀ f, (k.entry i).bind (changed f) = some x' →
      ∃ x, k.entry i = some x ∧ x.workspace = x'.workspace := by
    intro f hf
    obtain ⟨x, hx, hx'⟩ := Option.bind_eq_some_iff.mp hf
    obtain ⟨m, -, rfl⟩ := Option.map_eq_some_iff.mp hx'
    exact ⟨x, hx, rfl⟩
  by_cases hm : Marks c
  · cases hm with
    | add kind key name =>
        have hentry := entry_modifyMeta k ⟨kind, key⟩ (some ∘ addFinalizerTo name) i
        split_ifs at hentry
        · exact hbind _ (hentry.symm.trans h)
        · exact ⟨x', hentry.symm.trans h, rfl⟩
    | remove kind key name =>
        have hentry := entry_modifyMeta k ⟨kind, key⟩ (removeFinalizerFrom name) i
        split_ifs at hentry
        · exact hbind _ (hentry.symm.trans h)
        · exact ⟨x', hentry.symm.trans h, rfl⟩
  · exact ⟨x', (entry_serve hm k i).symm.trans h, rfl⟩

end entries
end Cluster

namespace World
variable {X : Externals} {w : World} {c : Call} {i : ResourceId}

/-- A call leaves the cluster alone or is served by it. -/
theorem react_cluster (X : Externals) (w : World) (c : Call) (f : Fate Outage) :
    (World.react X w c f).1.cluster = w.cluster ∨
      ∃ k, c = .kube k ∧ (World.react X w c f).1.cluster = (w.cluster.serve k).1 := by
  rcases respond_world Outage.error (World.serve X) w c f with h | h
  · exact .inl (congrArg World.cluster h)
  · cases c with
    | rpc r => exact .inl ((congrArg World.cluster h).trans rfl)
    | kube k => exact .inr ⟨k, rfl, congrArg World.cluster h⟩

theorem react_kept (h : ∀ name, c ≠ .kube (.removeFinalizer i.kind i.key name))
    (f : Fate Outage) :
    Cluster.Kept (w.cluster.entry i) ((World.react X w c f).1.cluster.entry i) := by
  rcases react_cluster X w c f with hc | ⟨k, rfl, hc⟩
  · rw [hc]
    exact .of_eq rfl
  · rw [hc]
    exact Cluster.serve_kept (fun name hk => h name (congrArg Call.kube hk))

theorem react_known (f : Fate Outage) {x' : Entry}
    (h : (World.react X w c f).1.cluster.entry i = some x') :
    ∃ x, w.cluster.entry i = some x ∧ x.workspace = x'.workspace := by
  rcases react_cluster X w c f with hc | ⟨k, rfl, hc⟩
  · rw [hc] at h
    exact ⟨x', h, rfl⟩
  · rw [hc] at h
    exact Cluster.serve_known k h

end World

/-! ### The finalizer machinery -/

section machinery
variable {W : Type} {react : W → (c : Call) → Fate Outage → W × Except Error c.Answer}
  {R : Rely W} {G : W → Call → Prop} {w : W}

theorem Op.mapErr_safe {α : Type} {p : Op α} {g : Error → Error} {Q : Except Error α → W → Prop}
    (hQ : ∀ r w w', Q r w → R w w' → Q r w') (he : ∀ err w, Q (.error err) w → Q (.error (g err)) w)
    (h : p.Safe react R G Q w) : (p.mapErr g).Safe react R G Q w := by
  refine Prog.Safe.bind (Prog.Safe.attempt (Prog.Safe.mono (fun _ _ hc => hc) ?_ h))
  intro r w' hr
  cases r with
  | ok a => exact fun w'' hw => hQ _ w' w'' hr hw
  | error err => exact fun w'' hw => he err w'' (hQ _ w' w'' hr hw)

/-- **Finalizers.**  The apply runs on a resource that has the finalizer, the cleanup on one
that has it and is being deleted; after the cleanup it has to be fine to remove the
finalizer. -/
theorem finalizer_safe {kind : Kind} {name : String} {m : ObjectMeta} {apply cleanup : Op Action}
    (hadd : ∀ w, G w (.kube (.addFinalizer kind m.key name)))
    (happly : name ∈ m.finalizers → apply.Safe react R G (fun _ _ => True) w)
    (hcleanup : name ∈ m.finalizers → m.deletionTimestamp.isSome →
      cleanup.Safe react R G (fun r w' => ∀ action, r = .ok action → ∀ w'', R w' w'' →
        G w'' (.kube (.removeFinalizer kind m.key name))) w) :
    (finalizer kind name m apply cleanup).Safe react R G (fun _ _ => True) w := by
  unfold finalizer
  split
  · rename_i hf _
    exact Op.mapErr_safe (fun _ _ _ h _ => h) (fun _ _ h => h) (happly (by simpa using hf))
  · rename_i hf hd
    refine Prog.Safe.bind (Prog.Safe.mono (fun _ _ hc => hc) ?_ (Op.mapErr_safe ?_ ?_
      (hcleanup (by simpa using hf) hd)))
    · intro r w₁ hr
      cases r with
      | error err => exact fun _ _ => trivial
      | ok action =>
          refine Prog.Safe.bind_inv (I := fun _ => True) (Op.mapErr_safe (fun _ _ _ h _ => h)
            (fun _ _ h => h) (Prog.safe_perform (fun w₂ hw => ⟨hr action rfl w₂ hw, ?_⟩))) ?_ ?_
          · exact fun _ _ _ => trivial
          · exact fun _ _ _ _ _ => trivial
          · exact fun _ _ _ _ _ => trivial
    · exact fun r w₁ w₂ hr hw action hact w₃ hw₃ => hr action hact w₃ (R.trans hw hw₃)
    · exact fun _ _ _ _ h => by cases h
  · refine Prog.Safe.bind_inv (I := fun _ => True) (Op.mapErr_safe (fun _ _ _ h _ => h)
      (fun _ _ h => h) (Prog.safe_perform (fun w₁ _ => ⟨hadd w₁, ?_⟩))) ?_ ?_
    · exact fun _ _ _ => trivial
    · exact fun _ _ _ _ _ => trivial
    · exact fun _ _ _ _ _ => trivial
  · exact fun _ _ => trivial

end machinery
end OpenShell
