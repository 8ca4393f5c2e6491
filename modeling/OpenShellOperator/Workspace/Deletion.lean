import OpenShellOperator.Exclusive
import OpenShellOperator.Finalizers
import OpenShellOperator.Workspace.Spec

/-! # When a workspace is deleted

Sandbox, provider and workspace resources are reconciled side by side, with finalizers, while
users create resources and request deletions.  An object of the gateway is *live* until its
deletion is accepted.

The invariant is `Guarded`: the creator of a live object is still there, for the workspace of
the object, and has its finalizer.  A workspace cleanup that found no resource of the
workspace may therefore rely on there being no live object in it; a sandbox whose deletion has
been accepted may still be there (`workspace_delete_iff`).  Nothing that is live is left behind by a
resource that goes (`nothing_left_behind`). -/

namespace OpenShell
open Wire Effects

/-! ### Live objects -/

def Object.workspace : Object → String
  | .sandbox key => key.scope
  | .provider key => key.scope

namespace Gateway

/-- The object is there, and its deletion has not been accepted. -/
def Live (g : Gateway) : Object → Prop
  | .sandbox key => ∃ s, g.sandboxes[key]? = some s ∧ s.deleting = false
  | .provider key => g.providers[key]?.isSome

section live
variable {g g' : Gateway} {key : Key} {o : Object}

theorem has_of_live (h : g.Live o) : g.has o := by
  cases o with
  | sandbox key =>
      obtain ⟨s, hs, -⟩ := h
      exact Option.isSome_of_mem hs
  | provider key => exact h

theorem Same.live (h : Same g g' o) : g'.Live o ↔ g.Live o := by
  cases o with
  | sandbox key => simp only [Live, show g'.sandboxes[key]? = g.sandboxes[key]? from h]
  | provider key => simp only [Live, show g'.providers[key]? = g.providers[key]? from h]

theorem modifySandbox_live {f : GatewaySandbox → Except Error GatewaySandbox}
    (hf : ∀ s s', f s = .ok s' → s'.deleting = s.deleting)
    (h : (g.modifySandbox key f).1.Live (.sandbox key)) : g.Live (.sandbox key) := by
  unfold modifySandbox at h
  split at h
  · exact h
  · rename_i s hs
    split at h
    · rename_i s' hs'
      obtain ⟨t, ht, hlive⟩ := h
      have heq : some s' = some t := ((KeyMap.get?_insert ..).trans (if_pos rfl)).symm.trans ht
      refine ⟨s, hs, ?_⟩
      rw [← hf s s' hs', Option.some.inj heq]
      exact hlive
    · exact h

theorem attach_deleting {scope : WorkspaceSelector} {provider : String} {s s' : GatewaySandbox}
    (h : g.attach scope provider s = .ok s') : s'.deleting = s.deleting := by
  unfold attach at h
  split at h <;> cases h
  rfl

theorem updateConfig_deleting {accepts : Option SandboxPolicy → SandboxPolicy → Bool}
    {policy : Option SandboxPolicy} {s s' : GatewaySandbox}
    (h : Gateway.updateConfig accepts policy s = .ok s') : s'.deleting = s.deleting := by
  unfold Gateway.updateConfig at h
  split at h
  · cases h
    rfl
  · split_ifs at h
    cases h
    rfl

theorem deleteSandbox_dead : ¬ (g.deleteSandbox key).1.Live (.sandbox key) := by
  rintro ⟨s, hs, hlive⟩
  unfold deleteSandbox at hs
  split at hs
  · have heq := ((KeyMap.get?_insert ..).trans (if_pos rfl)).symm.trans hs
    rw [← Option.some.inj heq] at hlive
    cases hlive
  · rename_i hnone
    rw [hnone] at hs
    cases hs

theorem deleteProvider_dead : ¬ (g.deleteProvider key).1.Live (.provider key) := by
  intro h
  unfold deleteProvider at h
  split at h
  · have hgone := (KeyMap.get?_erase g.providers key key).trans (if_pos rfl)
    simp only [Live, hgone, Option.isSome_none, Bool.false_eq_true] at h
  · rename_i hnone
    simp only [Live, hnone, Option.isSome_none, Bool.false_eq_true] at h

/-- A call brings no object back to life. -/
theorem serve_live (accepts : Option SandboxPolicy → SandboxPolicy → Bool) {r : Rpc}
    (hhas : g.has o) (h : (g.serve accepts r).1.Live o) : g.Live o := by
  by_cases ht : r.target = some o
  · cases o with
    | provider key => exact hhas
    | sandbox key =>
        cases r with
        | createSandbox request =>
            cases ht
            obtain ⟨s, hs⟩ := Option.isSome_iff_exists.mp hhas
            have hsame : (g.createSandbox request).1 = g := by
              simp only [createSandbox, hs]
            exact hsame ▸ h
        | deleteSandbox name scope =>
            cases ht
            exact absurd h deleteSandbox_dead
        | attachSandboxProvider sandbox provider scope =>
            cases ht
            exact modifySandbox_live (fun _ _ => attach_deleting) h
        | detachSandboxProvider sandbox provider scope =>
            cases ht
            refine modifySandbox_live (fun s s' hs => ?_) h
            cases hs
            rfl
        | updateConfig request =>
            cases ht
            exact modifySandbox_live (fun _ _ => updateConfig_deleting) h
        | _ => cases ht
  · exact (serve_same accepts ht).live.mp h

end live
end Gateway

theorem World.react_live {X : Externals} {w : World} {c : Call} {o : Object} {f : Fate Outage}
    (hhas : w.gateway.has o) (h : (World.react X w c f).1.gateway.Live o) : w.gateway.Live o := by
  rcases respond_world Outage.error (World.serve X) w c f with hw | hw
  · rwa [World.react, hw] at h
  · rw [World.react, hw] at h
    cases c with
    | rpc r => exact Gateway.serve_live X.accepts hhas h
    | kube k => exact h

/-- A live object with a creator was there, or has just been created. -/
theorem Attributed.live_react {X : Externals} {i j : ResourceId} {a : Attributed} {c : Call}
    {f : Fate Outage} {o : Object} (h : (Attributed.react X i a c f).1.creator o = some j)
    (hlive : (Attributed.react X i a c f).1.world.gateway.Live o) :
    (a.creator o = some j ∧ a.world.gateway.Live o) ∨ (j = i ∧ c.target = some o) := by
  rcases Attributed.creator_react h with ⟨hold, hhas⟩ | ⟨hj, ht, -⟩
  · exact .inl ⟨hold, World.react_live hhas hlive⟩
  · exact .inr ⟨hj, ht⟩

/-! ### The invariant -/

/-- The object of a resource in a workspace. -/
def ResourceId.object? (i : ResourceId) (workspace : String) : Option Object :=
  match i.kind with
  | .sandbox => some (.sandbox ⟨workspace, i.key.name⟩)
  | .provider => some (.provider ⟨workspace, i.key.name⟩)
  | .workspace => none

namespace Attributed

def entry (a : Attributed) (i : ResourceId) : Option Entry := a.world.cluster.entry i

/-- The resource is there, for the workspace, with its finalizer. -/
def Held (i : ResourceId) (workspace : String) (a : Attributed) : Prop :=
  ∃ x, a.entry i = some x ∧ x.workspace = some workspace ∧ x.finalized i.kind

/-- The creator of every live object is held, for the object's workspace. -/
def Guarded (a : Attributed) : Prop :=
  ∀ o j, a.creator o = some j → a.world.gateway.Live o →
    ∃ workspace, a.Held j workspace ∧ j.object? workspace = some o

/-- No live object was created by the resource. -/
def Released (i : ResourceId) (a : Attributed) : Prop :=
  ∀ o, a.creator o = some i → ¬ a.world.gateway.Live o

/-- The workspace resource of that name. -/
def workspaceId (name : String) : ResourceId := ⟨.workspace, ⟨"", name⟩⟩

/-- The deletion of the workspace resource has been requested. -/
def Deleting (name : String) (a : Attributed) : Prop :=
  ∃ x, a.entry (workspaceId name) = some x ∧ x.deleting

/-- The workspace resource is being deleted and has its finalizer. -/
def Closing (name : String) (a : Attributed) : Prop :=
  ∃ x, a.entry (workspaceId name) = some x ∧ x.finalized .workspace ∧ x.deleting

/-- No resource of the kind refers to the workspace. -/
def Unreferred (kind : Kind) (name : String) (a : Attributed) : Prop :=
  ∀ key x, a.entry ⟨kind, key⟩ = some x → x.workspace ≠ some name

end Attributed

/-- What a reconcile of resource `i` may do: write its own object while it is held, remove its
own finalizer once it is released, and delete a workspace that nothing refers to. -/
structure Permitted (i : ResourceId) (a : Attributed) (c : Call) : Prop where
  target : ∀ o, c.target = some o → ∃ workspace, a.Held i workspace ∧ i.object? workspace = some o
  release : ∀ kind key name, c = .kube (.removeFinalizer kind key name) →
    (⟨kind, key⟩ : ResourceId) = i ∧ a.Released i
  delete : ∀ name, c = .rpc (.deleteWorkspace name) → name ≠ defaultWorkspace ∧
    a.Unreferred .sandbox name ∧ a.Unreferred .provider name

/-- What the reconcile of resource `i` relies on. -/
structure Undisturbed (i : ResourceId) (a a' : Attributed) : Prop where
  held : ∀ workspace, a.Held i workspace → a'.Held i workspace
  released : a.Released i → a'.Released i
  closing : ∀ name, i = Attributed.workspaceId name → a.Closing name → a'.Closing name
  unreferred : ∀ name kind, i = Attributed.workspaceId name → a.Closing name →
    a.Unreferred kind name → a'.Unreferred kind name

/-- The rely of the reconcile of resource `i`: the invariant holds on, and `i` is undisturbed. -/
def guardRely (i : ResourceId) : Rely Attributed where
  rel a a' := a.Guarded → a'.Guarded ∧ Undisturbed i a a'
  refl a h := ⟨h, fun _ h => h, fun h => h, fun _ _ h => h, fun _ _ _ _ h => h⟩
  trans h h' hg := by
    obtain ⟨hg₁, hu₁⟩ := h hg
    obtain ⟨hg₂, hu₂⟩ := h' hg₁
    refine ⟨hg₂, fun workspace hh => hu₂.held workspace (hu₁.held workspace hh),
      fun hr => hu₂.released (hu₁.released hr),
      fun name hi hc => hu₂.closing name hi (hu₁.closing name hi hc), ?_⟩
    intro name kind hi hc hu
    exact hu₂.unreferred name kind hi (hu₁.closing name hi hc) (hu₁.unreferred name kind hi hc hu)

/-! ### What a permitted call keeps -/

section calls
variable {X : Externals} {i j : ResourceId} {a : Attributed} {c : Call} {f : Fate Outage}

theorem Attributed.Held.unique {workspace workspace' : String} (h : a.Held i workspace)
    (h' : a.Held i workspace') : workspace = workspace' := by
  obtain ⟨x, hx, hw, -⟩ := h
  obtain ⟨x', hx', hw', -⟩ := h'
  rw [hx] at hx'
  cases hx'
  rw [hw] at hw'
  exact Option.some.inj hw'

theorem Attributed.Held.react {workspace : String}
    (hc : ∀ name, c ≠ .kube (.removeFinalizer j.kind j.key name)) (h : a.Held j workspace) :
    (Attributed.react X i a c f).1.Held j workspace := by
  obtain ⟨x, hx, hw, hf⟩ := h
  obtain ⟨x', hx', hw', hf', -⟩ := World.react_kept (X := X) hc f x hx
  exact ⟨x', hx', hw'.trans hw, hf' _ hf⟩

theorem Attributed.Closing.react {name : String}
    (hc : ∀ f, c ≠ .kube (.removeFinalizer .workspace ⟨"", name⟩ f)) (h : a.Closing name) :
    (Attributed.react X i a c f).1.Closing name := by
  obtain ⟨x, hx, hf, hd⟩ := h
  obtain ⟨x', hx', -, hf', hd'⟩ := World.react_kept (X := X) (i := workspaceId name) hc f x hx
  exact ⟨x', hx', hf' _ hf, hd' hd⟩

theorem Attributed.Unreferred.react {kind : Kind} {name : String} (h : a.Unreferred kind name) :
    (Attributed.react X i a c f).1.Unreferred kind name := by
  intro key x' hx' hw'
  obtain ⟨x, hx, hw⟩ := World.react_known (X := X) f hx'
  exact h key x hx (hw.trans hw')

theorem Attributed.Released.react (hc : j = i → c.target = none) (h : a.Released j) :
    (Attributed.react X i a c f).1.Released j := by
  intro o hcreator hlive
  rcases Attributed.live_react hcreator hlive with ⟨hold, hlive'⟩ | ⟨hj, ht⟩
  · exact h o hold hlive'
  · rw [hc hj] at ht
    cases ht

/-- A permitted call keeps the invariant. -/
theorem Attributed.Guarded.react (h : a.Guarded) (hc : Permitted i a c) :
    (Attributed.react X i a c f).1.Guarded := by
  intro o j hcreator hlive
  rcases Attributed.live_react hcreator hlive with ⟨hold, hlive'⟩ | ⟨rfl, ht⟩
  · obtain ⟨workspace, hheld, hobject⟩ := h o j hold hlive'
    refine ⟨workspace, hheld.react (fun name hremove => ?_), hobject⟩
    obtain ⟨hid, hreleased⟩ := hc.release _ _ _ hremove
    have hji : j = i := hid
    exact hreleased o (hji ▸ hold) hlive'
  · obtain ⟨workspace, hheld, hobject⟩ := hc.target o ht
    refine ⟨workspace, hheld.react (fun name hremove => ?_), hobject⟩
    rw [hremove] at ht
    cases ht

/-- **Interference.**  A permitted call of one resource keeps the invariant and leaves the
others undisturbed. -/
theorem permitted_react (h : a.Guarded) (hc : Permitted i a c) :
    (Attributed.react X i a c f).1.Guarded ∧
      ∀ j, j ≠ i → guardRely j a (Attributed.react X i a c f).1 := by
  refine ⟨h.react hc, fun j hj _ => ⟨h.react hc, ?_⟩⟩
  have hremove : ∀ name, c ≠ .kube (.removeFinalizer j.kind j.key name) :=
    fun name he => hj (hc.release _ _ _ he).1
  exact ⟨fun _ hheld => hheld.react hremove, fun hr => hr.react (fun hji => absurd hji hj),
    fun name hi hclosing => hclosing.react (fun f he => hremove f (hi ▸ he)),
    fun _ _ _ _ hu => hu.react⟩

end calls

/-! ### The system -/

/-- What users and the gateway do: they create and change resources, and request deletions, but
no resource of a workspace appears while the workspace is being deleted, and a resource with a
finalizer stays, for its workspace; objects may be removed, but nothing created by a resource
appears or comes back to life. -/
structure Outside (a a' : Attributed) : Prop where
  objects : ∀ o j, a'.creator o = some j → a'.world.gateway.Live o →
    a.creator o = some j ∧ a.world.gateway.Live o
  resources : ∀ i x, a.entry i = some x → x.finalized i.kind →
    ∃ x', a'.entry i = some x' ∧ x'.workspace = x.workspace ∧ x'.finalized i.kind ∧
      (x.deleting → x'.deleting)
  references : ∀ i x' name, a'.entry i = some x' → x'.workspace = some name →
    (∃ x, a.entry i = some x ∧ x.workspace = some name) ∨ ¬ a.Deleting name

theorem Outside.relies {a a' : Attributed} (h : Outside a a') (hg : a.Guarded) :
    a'.Guarded ∧ ∀ j, guardRely j a a' := by
  have hheld : ∀ j workspace, a.Held j workspace → a'.Held j workspace := by
    rintro j workspace ⟨x, hx, hw, hf⟩
    obtain ⟨x', hx', hw', hf', -⟩ := h.resources j x hx hf
    exact ⟨x', hx', hw'.trans hw, hf'⟩
  have hg' : a'.Guarded := by
    intro o j hcreator hlive
    obtain ⟨hold, hlive'⟩ := h.objects o j hcreator hlive
    obtain ⟨workspace, hh, hobject⟩ := hg o j hold hlive'
    exact ⟨workspace, hheld j workspace hh, hobject⟩
  refine ⟨hg', fun j _ => ⟨hg', hheld j, ?_, ?_, ?_⟩⟩
  · intro hr o hcreator hlive
    obtain ⟨hold, hlive'⟩ := h.objects o j hcreator hlive
    exact hr o hold hlive'
  · rintro name - ⟨x, hx, hf, hd⟩
    obtain ⟨x', hx', -, hf', hd'⟩ := h.resources _ x hx hf
    exact ⟨x', hx', hf', hd' hd⟩
  · rintro name kind - ⟨x, hx, -, hd⟩ hu key x' hx' hw'
    rcases h.references _ x' name hx' hw' with ⟨x₀, hx₀, hw₀⟩ | hnot
    · exact hu key x₀ hx₀ hw₀
    · exact hnot ⟨x, hx, hd⟩

/-- What a controller has seen of a resource when it starts to reconcile it: the resource is
there, and a finalizer or a deletion that was seen is there as well. -/
def Seen (i : ResourceId) (a : Attributed) (m : ObjectMeta) (workspace : Option String) : Prop :=
  m.key = i.key ∧ ∃ x, a.entry i = some x ∧ x.workspace = workspace ∧
    (i.kind.finalizerName ∈ m.finalizers → x.finalized i.kind) ∧
    (m.deletionTimestamp.isSome → x.deleting)

/-- A reconcile of the resource as it was seen. -/
def ReconcileSeen (X : Externals) (i : ResourceId) (a : Attributed) (p : Op Action) : Prop :=
  match i.kind with
  | .sandbox => ∃ now s, Seen i a s.metadata (some (workspaceName s.spec.workspaceOf)) ∧
      p = SandboxController.reconcile X now s
  | .provider => ∃ now s,
      Seen i a s.metadata (some (workspaceName (ProviderController.workspaceOf s))) ∧
      p = ProviderController.reconcile X now s
  | .workspace => ∃ now s, Seen i a s.metadata none ∧ s.metadata.namespace_ = none ∧
      p = WorkspaceController.reconcile now s

/-- All resources run side by side, one reconcile of each at a time. -/
abbrev TenantReach (X : Externals) : Conf ResourceId Call.Answer Error Action Attributed →
    Conf ResourceId Call.Answer Error Action Attributed → Prop :=
  Reach (Attributed.react X) (ReconcileSeen X) Outside

/-- The deletion of a resource is requested. -/
def Attributed.requestDeletion (a : Attributed) (i : ResourceId) (time : Int) : Attributed :=
  { a with world := { a.world with
      cluster := (a.world.cluster.modifyMeta i.kind i.key
        (fun m => some { m with deletionTimestamp := some time })).1 } }

/-- Requesting a deletion is something users may do. -/
theorem outside_requestDeletion (a : Attributed) (i : ResourceId) (time : Int) :
    Outside a (a.requestDeletion i time) := by
  have hentry : ∀ j, (a.requestDeletion i time).entry j = _ :=
    Cluster.entry_modifyMeta a.world.cluster i
      (fun m => some { m with deletionTimestamp := some time })
  refine ⟨fun _ _ hcreator hlive => ⟨hcreator, hlive⟩, fun j x hx hf => ?_, fun j x' name hx' hw => ?_⟩
  · have hj := hentry j
    split_ifs at hj
    · refine ⟨_, hj.trans (congrArg (Option.bind · _) hx), rfl, hf, fun _ => rfl⟩
    · exact ⟨x, hj.trans hx, rfl, hf, fun hd => hd⟩
  · have hj := (hentry j).symm.trans hx'
    split_ifs at hj
    · obtain ⟨x, hx, hchanged⟩ := Option.bind_eq_some_iff.mp hj
      cases hchanged
      exact .inl ⟨x, hx, hw⟩
    · exact .inl ⟨x', hj, hw⟩

/-- The gateway finishes the deletion of a sandbox, if it has been accepted. -/
def Attributed.reap (a : Attributed) (key : Key) : Attributed :=
  if a.world.gateway.sandboxes[key]?.any (·.deleting) then
    { world := { a.world with
        gateway := { a.world.gateway with sandboxes := a.world.gateway.sandboxes.erase key } }
      creator := fun o => if o = .sandbox key then none else a.creator o }
  else a

/-- Nothing changes but the sandbox, which is gone if its deletion was accepted. -/
theorem Attributed.reap_frame (a : Attributed) (key : Key) :
    (∀ i, (a.reap key).entry i = a.entry i) ∧
    (a.reap key).world.gateway.workspaces = a.world.gateway.workspaces ∧
    ∀ o, (a.reap key).world.gateway.has o →
      a.world.gateway.Same (a.reap key).world.gateway o ∧ (a.reap key).creator o = a.creator o := by
  unfold Attributed.reap
  split_ifs
  · refine ⟨fun _ => rfl, rfl, fun o hhas => ?_⟩
    by_cases ho : o = .sandbox key
    · subst ho
      have hgone := (KeyMap.get?_erase a.world.gateway.sandboxes key key).trans (if_pos rfl)
      simp only [Gateway.has, hgone, Option.isSome_none, Bool.false_eq_true] at hhas
    · have honly : Gateway.SandboxOnly key a.world.gateway
          { a.world.gateway with sandboxes := a.world.gateway.sandboxes.erase key } :=
        ⟨fun k hk => by rw [KeyMap.get?_erase, if_neg hk.symm], rfl⟩
      exact ⟨honly.same ho, if_neg ho⟩
  · exact ⟨fun _ => rfl, rfl, fun o _ => ⟨by cases o <;> rfl, rfl⟩⟩

/-- Finishing a deletion is something the gateway may do. -/
theorem outside_reap (a : Attributed) (key : Key) : Outside a (a.reap key) := by
  obtain ⟨hentry, -, hobjects⟩ := a.reap_frame key
  refine ⟨fun o j hcreator hlive => ?_, fun i x hx hf => ?_, fun i x name hx hw => ?_⟩
  · obtain ⟨hsame, hcreator'⟩ := hobjects o (Gateway.has_of_live hlive)
    exact ⟨hcreator'.symm.trans hcreator, hsame.live.mp hlive⟩
  · exact ⟨x, (hentry i).trans hx, rfl, hf, fun hd => hd⟩
  · exact .inl ⟨x, (hentry i).symm.trans hx, hw⟩

/-! ### Reconciles make permitted calls -/

/-- The call neither removes a finalizer nor deletes a workspace. -/
def Plain (c : Call) : Prop :=
  (∀ kind key name, c ≠ .kube (.removeFinalizer kind key name)) ∧
    ∀ name, c ≠ .rpc (.deleteWorkspace name)

/-- The call does not write an object either. -/
def Quiet (c : Call) : Prop := Plain c ∧ c.target = none

/-- The resource is looked after. -/
def Tending (i : ResourceId) (workspace : String) (a : Attributed) : Prop :=
  a.Guarded ∧ a.Held i workspace

/-- The resource may go. -/
def Leaving (i : ResourceId) (a : Attributed) : Prop := a.Guarded ∧ a.Released i

section reconciles
variable {X : Externals} {i : ResourceId} {workspace : String} {a a' : Attributed} {c : Call}
  {o : Object}

theorem Tending.rely (h : Tending i workspace a) (hr : guardRely i a a') : Tending i workspace a' :=
  ⟨(hr h.1).1, (hr h.1).2.held workspace h.2⟩

theorem Leaving.rely (h : Leaving i a) (hr : guardRely i a a') : Leaving i a' :=
  ⟨(hr h.1).1, (hr h.1).2.released h.2⟩

theorem Tending.call (h : Tending i workspace a) (hplain : Plain c)
    (ho : ∀ o, c.target = some o → i.object? workspace = some o) :
    Permitted i a c ∧ ∀ f, Tending i workspace (Attributed.react X i a c f).1 := by
  have hc : Permitted i a c :=
    ⟨fun o ht => ⟨workspace, h.2, ho o ht⟩, fun _ _ _ he => absurd he (hplain.1 _ _ _),
      fun _ he => absurd he (hplain.2 _)⟩
  exact ⟨hc, fun f => ⟨h.1.react hc, h.2.react (fun _ => hplain.1 _ _ _)⟩⟩

theorem Quiet.permitted (h : Quiet c) : Permitted i a c where
  target o ht := by
    rw [h.2] at ht
    cases ht
  release _ _ _ he := absurd he (h.1.1 _ _ _)
  delete _ he := absurd he (h.1.2 _)

theorem Leaving.call (h : Leaving i a) (hc : Quiet c) :
    Permitted i a c ∧ ∀ f, Leaving i (Attributed.react X i a c f).1 :=
  ⟨hc.permitted, fun _ => ⟨h.1.react hc.permitted, h.2.react (fun _ => hc.2)⟩⟩

theorem Leaving.release (h : Leaving i a) (name : String) :
    Permitted i a (.kube (.removeFinalizer i.kind i.key name)) where
  target o ht := by cases ht
  release _ _ _ he := by
    cases he
    exact ⟨rfl, h.2⟩
  delete _ he := by cases he

theorem add_permitted (kind : Kind) (key : Key) (name : String) :
    Permitted i a (.kube (.addFinalizer kind key name)) where
  target o ht := by cases ht
  release _ _ _ he := by cases he
  delete _ he := by cases he

/-- After its object has been deleted the resource may go. -/
theorem delete_leaving (h : Tending i workspace a) (hplain : Plain c) (ht : c.target = some o)
    (ho : i.object? workspace = some o) (hdead : ∀ w, ¬ (World.serve X w c).1.gateway.Live o) :
    (Prog.perform c : Op c.Answer).Safe (Attributed.react X i) (guardRely i) (Permitted i)
      (fun r a' => ∀ x, r = .ok x → Leaving i a') a := by
  refine Prog.safe_perform (fun a₁ hr => ?_)
  have h₁ := h.rely hr
  have htarget : ∀ o', c.target = some o' → i.object? workspace = some o' :=
    fun o' ht' => ho.trans (ht.symm.trans ht')
  obtain ⟨hc, hcall⟩ := h₁.call (X := X) hplain htarget
  refine ⟨hc, fun f a₂ hr₂ x hx => Leaving.rely ⟨(hcall f).1, ?_⟩ hr₂⟩
  have hx' : (respond Outage.error (World.serve X) a₁.world c f).2 = .ok x := hx
  obtain ⟨rfl, -⟩ := respond_ok hx'
  intro o' hcreator hlive
  have hsame : o' = o := by
    rcases Attributed.live_react hcreator hlive with ⟨hold, hlive'⟩ | ⟨-, ht'⟩
    · obtain ⟨workspace', hheld, hobject⟩ := h₁.1 o' i hold hlive'
      rw [hheld.unique h₁.2, ho] at hobject
      exact (Option.some.inj hobject).symm
    · exact Option.some.inj (ht'.symm.trans ht)
  rw [hsame] at hlive
  exact hdead a₁.world hlive

/-- Quiet calls after the deletion. -/
theorem quiet_leaving {α : Type} {p : Op α} (hp : p.Calls Quiet) (h : Leaving i a) :
    p.Safe (Attributed.react X i) (guardRely i) (Permitted i) (fun _ a' => Leaving i a') a :=
  hp.safe_inv (fun _ _ => Leaving.rely) (fun _ _ ha hc => ha.call hc) h

theorem apply_permitted {r : Resource} (now : Time) (ho : i.object? workspace = some r.object)
    (h : Tending i workspace a) :
    (r.apply X now).Safe (Attributed.react X i) (guardRely i) (Permitted i) (fun _ _ => True) a := by
  have hcall : ∀ a c, Tending i workspace a → r.ApplyCall c →
      Permitted i a c ∧ ∀ f, Tending i workspace (Attributed.react X i a c f).1 := by
    intro a c ha hc
    refine ha.call ?_ (fun o ht => ho.trans (congrArg some (hc.own o ht).symm))
    cases r with
    | sandbox s =>
        obtain ⟨ns, hc⟩ := hc
        cases hc with
        | upkeep hup => cases hup <;> exact ⟨nofun, nofun⟩
        | _ => exact ⟨nofun, nofun⟩
    | provider p =>
        obtain ⟨ns, hc⟩ := hc
        cases hc <;> exact ⟨nofun, nofun⟩
  exact Prog.Safe.mono (fun _ _ hc => hc) (fun _ _ _ => trivial)
    (Prog.Safe.with_inv (fun _ _ => Tending.rely) hcall (r.apply_safe now a) h)

theorem deleteSandbox_leaving {s : OpenShellSandbox}
    (ho : i.object? workspace = some (Resource.sandbox s).object) (h : Tending i workspace a) :
    (SdkGateway.deleteSandbox s.metadata.name s.spec.workspaceOf).Safe (Attributed.react X i)
      (guardRely i) (Permitted i) (fun r a' => ∀ x, r = .ok x → Leaving i a') a := by
  have hdelete := delete_leaving (X := X) (c := SandboxController.deleteCall s) h ⟨nofun, nofun⟩
    rfl ho (fun _ => Gateway.deleteSandbox_dead)
  refine Prog.Safe.bind (Prog.Safe.mono (fun _ _ hc => hc) ?_ hdelete)
  intro r a₁ hr
  cases r with
  | error err => exact fun _ _ => nofun
  | ok outcome => exact fun a₂ hr₂ _ _ => (hr outcome rfl).rely hr₂

theorem deleteProvider_leaving {p : OpenShellProvider}
    (ho : i.object? workspace = some (Resource.provider p).object) (h : Tending i workspace a) :
    (SdkGateway.deleteProvider p.metadata.name (ProviderController.workspaceOf p)).Safe
      (Attributed.react X i) (guardRely i) (Permitted i)
      (fun r a' => ∀ x, r = .ok x → Leaving i a') a := by
  have hdelete := delete_leaving (X := X) (c := ProviderController.deleteCall p) h ⟨nofun, nofun⟩
    rfl ho (fun _ => Gateway.deleteProvider_dead)
  refine Prog.Safe.bind (Prog.Safe.mono (fun _ _ hc => hc) ?_ hdelete)
  intro r a₁ hr
  cases r with
  | error err => exact fun _ _ => nofun
  | ok outcome => exact fun a₂ hr₂ _ _ => (hr outcome rfl).rely hr₂

/-- Sequencing after the deletion. -/
theorem bind_leaving {α β : Type} {p : Op α} {g : α → Op β}
    (hp : p.Safe (Attributed.react X i) (guardRely i) (Permitted i)
      (fun r a' => ∀ x, r = .ok x → Leaving i a') a) (hg : ∀ x, (g x).Calls Quiet) :
    (p >>= g).Safe (Attributed.react X i) (guardRely i) (Permitted i)
      (fun r a' => ∀ x, r = .ok x → Leaving i a') a := by
  refine Prog.Safe.bind (Prog.Safe.mono (fun _ _ hc => hc) ?_ hp)
  intro r a₁ hr
  cases r with
  | error err => exact fun _ _ => nofun
  | ok x =>
      exact Prog.Safe.mono (fun _ _ hc => hc) (fun _ _ h _ _ => h)
        (quiet_leaving (hg x) (hr x rfl))

theorem cleanup_leaving {r : Resource} (ho : i.object? workspace = some r.object)
    (h : Tending i workspace a) :
    r.cleanup.Safe (Attributed.react X i) (guardRely i) (Permitted i)
      (fun r a' => ∀ x, r = .ok x → Leaving i a') a := by
  cases r with
  | sandbox s =>
      refine bind_leaving (deleteSandbox_leaving ho h) (fun _ => ?_)
      show Prog.Calls _ (ite _ _ _)
      split_ifs
      · refine Prog.Calls.bind ?_ (fun _ => Prog.calls_pure _)
        unfold SandboxController.deleteProvisionedVolumes
        cases s.metadata.namespace_ with
        | none => exact Prog.calls_fail _
        | some ns => exact Prog.calls_perform ⟨⟨nofun, nofun⟩, rfl⟩
      · exact Prog.calls_pure _
  | provider p => exact bind_leaving (deleteProvider_leaving ho h) (fun _ => Prog.calls_pure _)

/-- The reconcile of a sandbox or a provider. -/
theorem resource_permitted {r : Resource} {m : ObjectMeta} (now : Time)
    (hseen : Seen i a m (some workspace)) (hg : a.Guarded)
    (ho : i.object? workspace = some r.object) :
    (finalizer i.kind i.kind.finalizerName m (r.apply X now) r.cleanup).Safe (Attributed.react X i)
      (guardRely i) (Permitted i) (fun _ _ => True) a := by
  obtain ⟨hkey, x, hx, hw, hf, -⟩ := hseen
  have htending : i.kind.finalizerName ∈ m.finalizers → Tending i workspace a :=
    fun hm => ⟨hg, x, hx, hw, hf hm⟩
  refine finalizer_safe (fun _ => add_permitted _ _ _) (fun hm => ?_) (fun hm _ => ?_)
  · exact apply_permitted now ho (htending hm)
  · refine Prog.Safe.mono (fun _ _ hc => hc) ?_ (cleanup_leaving ho (htending hm))
    intro r a₁ hr action haction a₂ hr₂
    rw [hkey]
    exact ((hr action haction).rely hr₂).release _

/-! ### The workspace controller -/

theorem recordEvent_quiet (kind : Kind) (key : Key) (event : Event) :
    (recordEvent kind key event).Calls Quiet :=
  Prog.Calls.bind (Prog.calls_perform ⟨⟨nofun, nofun⟩, rfl⟩).attempt (fun _ => Prog.calls_pure _)

theorem patchStatus_calls (name : String) (status : OpenShellWorkspaceStatus) :
    (WorkspaceController.patchStatus name status).Calls Quiet :=
  Prog.calls_perform ⟨⟨nofun, nofun⟩, rfl⟩

theorem apply_quiet (now : Time) (ws : OpenShellWorkspace) :
    (WorkspaceController.apply now ws).Calls Quiet := by
  refine (WorkspaceController.apply_calls now ws).mono (fun c hc => ?_)
  cases hc <;> exact ⟨⟨nofun, nofun⟩, rfl⟩

/-- Nothing on the gateway is created for a workspace resource. -/
theorem leaving_workspace (hi : i.kind = .workspace) (hg : a.Guarded) : Leaving i a := by
  refine ⟨hg, fun o hcreator hlive => ?_⟩
  obtain ⟨workspace, -, hobject⟩ := hg o i hcreator hlive
  rw [ResourceId.object?, hi] at hobject
  cases hobject

/-- A listing without a match: no sandbox refers to the workspace. -/
theorem unreferred_sandbox {name : String}
    (h : WorkspaceController.sandboxRefs name a.world.cluster.sandboxes.values = 0) :
    a.Unreferred .sandbox name := by
  intro key x hx hw
  obtain ⟨s, hs, rfl⟩ := Option.map_eq_some_iff.mp hx
  have hmem := (KeyMap.mem_values _).mpr ⟨key, hs⟩
  exact List.countP_eq_zero.mp h s hmem (beq_iff_eq.mpr (Option.some.inj hw))

/-- A listing without a match: no provider refers to the workspace. -/
theorem unreferred_provider {name : String}
    (h : WorkspaceController.providerRefs name a.world.cluster.providers.values = 0) :
    a.Unreferred .provider name := by
  intro key x hx hw
  obtain ⟨p, hp, rfl⟩ := Option.map_eq_some_iff.mp hx
  have hmem := (KeyMap.mem_values _).mpr ⟨key, hp⟩
  exact List.countP_eq_zero.mp h p hmem (beq_iff_eq.mpr (Option.some.inj hw))

/-- A workspace cleanup is at work. -/
def Emptying (name : String) (a : Attributed) : Prop := a.Guarded ∧ a.Closing name

theorem Emptying.rely {name : String} (h : Emptying name a)
    (hr : guardRely (Attributed.workspaceId name) a a') : Emptying name a' :=
  ⟨(hr h.1).1, (hr h.1).2.closing name rfl h.2⟩

theorem Emptying.unreferred {name : String} {kind : Kind} (h : Emptying name a)
    (hr : guardRely (Attributed.workspaceId name) a a') (hu : a.Unreferred kind name) :
    a'.Unreferred kind name :=
  (hr h.1).2.unreferred name kind rfl h.2 hu

theorem Emptying.react {name : String} {f : Fate Outage} (h : Emptying name a) (hc : Quiet c) :
    Emptying name (Attributed.react X i a c f).1 :=
  ⟨h.1.react (i := i) hc.permitted, h.2.react (fun _ => hc.1.1 _ _ _)⟩

/-- A listing that, if `P` holds of it, shows that nothing of the kind refers to the
workspace. -/
theorem listing_safe {name : String} (kind : Kind) (c : Call) {P : c.Answer → Prop} (hc : Quiet c)
    (hlist : ∀ (a : Attributed) l, (World.serve X a.world c).2 = .ok l → P l →
      a.Unreferred kind name) (h : Emptying name a) :
    (Prog.perform c : Op c.Answer).Safe (Attributed.react X (Attributed.workspaceId name))
      (guardRely (Attributed.workspaceId name)) (Permitted (Attributed.workspaceId name))
      (fun r a' => Emptying name a' ∧ (∀ kind', a.Unreferred kind' name → a'.Unreferred kind' name) ∧
        ∀ l, r = .ok l → P l → a'.Unreferred kind name) a := by
  refine Prog.safe_perform (fun a₁ hr => ⟨hc.permitted, fun f a₂ hr₂ => ?_⟩)
  have h₁ := h.rely hr
  have h₂ : Emptying name (Attributed.react X (Attributed.workspaceId name) a₁ c f).1 := h₁.react hc
  refine ⟨h₂.rely hr₂, fun _ hu => h₂.unreferred hr₂ (h.unreferred hr hu).react, ?_⟩
  intro l hl hP
  have hl' : (respond Outage.error (World.serve X) a₁.world c f).2 = .ok l := hl
  obtain ⟨rfl, hserved⟩ := respond_ok hl'
  exact h₂.unreferred hr₂ (hlist a₁ l hserved hP).react

/-- A count of zero means that nothing refers to the workspace, and nothing will. -/
theorem countReferencing_safe {name : String} (h : Emptying name a) :
    (WorkspaceController.countReferencing name).Safe
      (Attributed.react X (Attributed.workspaceId name))
      (guardRely (Attributed.workspaceId name)) (Permitted (Attributed.workspaceId name))
      (fun r a' => Emptying name a' ∧ (r = .ok 0 →
        a'.Unreferred .sandbox name ∧ a'.Unreferred .provider name)) a := by
  have hsandboxes := listing_safe (X := X) .sandbox (.kube .listSandboxes)
    (P := fun l => WorkspaceController.sandboxRefs name l = 0) ⟨⟨nofun, nofun⟩, rfl⟩
    (fun a l hl hP => unreferred_sandbox (by rw [Except.ok.inj hl]; exact hP)) h
  refine Prog.Safe.bind (Prog.Safe.mono (fun _ _ hc => hc) ?_ hsandboxes)
  intro r a₁ hr
  cases r with
  | error err => exact fun a₂ hr₂ => ⟨hr.1.rely hr₂, nofun⟩
  | ok sandboxes =>
      have hproviders := listing_safe (X := X) .provider (.kube .listProviders)
        (P := fun l => WorkspaceController.providerRefs name l = 0) ⟨⟨nofun, nofun⟩, rfl⟩
        (fun a l hl hP => unreferred_provider (by rw [Except.ok.inj hl]; exact hP)) hr.1
      refine Prog.Safe.bind (Prog.Safe.mono (fun _ _ hc => hc) ?_ hproviders)
      intro r a₂ hr'
      cases r with
      | error err => exact fun a₃ hr₃ => ⟨hr'.1.rely hr₃, nofun⟩
      | ok providers =>
          refine fun a₃ hr₃ => ⟨hr'.1.rely hr₃, fun hzero => ?_⟩
          obtain ⟨hs, hp⟩ := Nat.add_eq_zero_iff.mp (Except.ok.inj hzero)
          exact ⟨hr'.1.unreferred hr₃ (hr'.2.1 _ (hr.2.2 sandboxes rfl hs)),
            hr'.1.unreferred hr₃ (hr'.2.2 providers rfl hp)⟩

theorem refuseNonEmpty_quiet (now : Time) (ws : OpenShellWorkspace) (name : String) (n : ℕ) :
    (WorkspaceController.refuseNonEmpty now ws name n).Calls Quiet :=
  Prog.Calls.bind (recordEvent_quiet _ _ _)
    (fun _ => Prog.Calls.bind (patchStatus_calls _ _).attempt (fun _ => Prog.calls_pure _))

/-- The deletion of a workspace that nothing refers to. -/
theorem deleteWorkspace_permitted {name : String} (hname : name ≠ defaultWorkspace)
    (hs : a.Unreferred .sandbox name) (hp : a.Unreferred .provider name) :
    Permitted i a (.rpc (.deleteWorkspace name)) where
  target o ht := by cases ht
  release _ _ _ he := by cases he
  delete _ he := by
    cases he
    exact ⟨hname, hs, hp⟩

theorem deleteGatewayWorkspace_safe {name : String} (hname : name ≠ defaultWorkspace)
    (h : Emptying name a) (hs : a.Unreferred .sandbox name) (hp : a.Unreferred .provider name) :
    (WorkspaceController.deleteGatewayWorkspace name).Safe
      (Attributed.react X (Attributed.workspaceId name))
      (guardRely (Attributed.workspaceId name)) (Permitted (Attributed.workspaceId name))
      (fun _ a' => Leaving (Attributed.workspaceId name) a') a := by
  have hdelete : (rpc (.deleteWorkspace name)).Safe
      (Attributed.react X (Attributed.workspaceId name))
      (guardRely (Attributed.workspaceId name)) (Permitted (Attributed.workspaceId name))
      (fun _ a' => Leaving (Attributed.workspaceId name) a') a := by
    refine Prog.safe_perform (fun a₁ hr => ?_)
    have hc := deleteWorkspace_permitted (i := Attributed.workspaceId name) hname
      (h.unreferred hr hs) (h.unreferred hr hp)
    refine ⟨hc, fun f a₂ hr₂ => leaving_workspace rfl (hr₂ ?_).1⟩
    exact (h.rely hr).1.react hc
  have hend : ∀ {α : Type} (x : α) a', Leaving (Attributed.workspaceId name) a' →
      (pure x : Op α).Safe (Attributed.react X (Attributed.workspaceId name))
        (guardRely (Attributed.workspaceId name)) (Permitted (Attributed.workspaceId name))
        (fun _ a' => Leaving (Attributed.workspaceId name) a') a' :=
    fun _ _ h' _ hr => h'.rely hr
  refine Prog.Safe.bind_inv (Prog.Safe.bind_inv hdelete (fun _ => hend _) ?_) (fun _ => hend _) ?_
  · exact fun _ _ _ h' hr => h'.rely hr
  · exact fun _ _ _ h' hr => h'.rely hr

theorem workspace_cleanup_safe {ws : OpenShellWorkspace} (now : Time)
    (h : Emptying ws.metadata.name a) :
    (WorkspaceController.cleanup now ws).Safe
      (Attributed.react X (Attributed.workspaceId ws.metadata.name))
      (guardRely (Attributed.workspaceId ws.metadata.name))
      (Permitted (Attributed.workspaceId ws.metadata.name))
      (fun r a' => ∀ x, r = .ok x → Leaving (Attributed.workspaceId ws.metadata.name) a') a := by
  show Prog.Safe _ _ _ _ (ite _ _ _) a
  split_ifs with hdefault
  · exact fun a₁ hr _ _ => leaving_workspace rfl (hr h.1).1
  · refine Prog.Safe.bind (Prog.Safe.mono (fun _ _ hc => hc) ?_ (countReferencing_safe h))
    intro r a₁ hr
    cases r with
    | error err => exact fun _ _ => nofun
    | ok n =>
        show Prog.Safe _ _ _ _ (ite _ _ _) a₁
        split_ifs with hn
        · have hcalls := Prog.Calls.bind (refuseNonEmpty_quiet now ws ws.metadata.name n)
            (fun err => (Prog.calls_fail err : (Prog.fail err : Op Action).Calls Quiet))
          exact Prog.Safe.mono (fun _ _ hc => hc) (fun _ _ h' _ _ => h')
            (quiet_leaving hcalls (leaving_workspace rfl hr.1.1))
        · obtain ⟨hs, hp⟩ := hr.2 (congrArg Except.ok (Nat.eq_zero_of_not_pos hn))
          refine bind_leaving (Prog.Safe.mono (fun _ _ hc => hc) (fun _ _ h' _ _ => h')
            (deleteGatewayWorkspace_safe hdefault hr.1 hs hp)) (fun _ => Prog.calls_pure _)

theorem workspace_permitted {ws : OpenShellWorkspace} (now : Time)
    (hseen : Seen (Attributed.workspaceId ws.metadata.name) a ws.metadata none) (hg : a.Guarded) :
    (WorkspaceController.reconcile now ws).Safe
      (Attributed.react X (Attributed.workspaceId ws.metadata.name))
      (guardRely (Attributed.workspaceId ws.metadata.name))
      (Permitted (Attributed.workspaceId ws.metadata.name)) (fun _ _ => True) a := by
  obtain ⟨hkey, x, hx, -, hf, hd⟩ := hseen
  refine finalizer_safe (fun _ => add_permitted _ _ _) (fun _ => ?_) (fun hm hdel => ?_)
  · exact Prog.Safe.mono (fun _ _ hc => hc) (fun _ _ _ => trivial)
      (quiet_leaving (apply_quiet now ws) (leaving_workspace rfl hg))
  · refine Prog.Safe.mono (fun _ _ hc => hc) ?_
      (workspace_cleanup_safe now ⟨hg, x, hx, hf hm, hd hdel⟩)
    intro r a₁ hr action haction a₂ hr₂
    rw [hkey]
    exact ((hr action haction).rely hr₂).release _

/-- Every reconcile makes permitted calls. -/
theorem reconcile_permitted {p : Op Action} (hg : a.Guarded) (h : ReconcileSeen X i a p) :
    p.Safe (Attributed.react X i) (guardRely i) (Permitted i) (fun _ _ => True) a := by
  obtain ⟨kind, key⟩ := i
  cases kind with
  | sandbox =>
      obtain ⟨now, s, hseen, rfl⟩ := h
      have ho : ResourceId.object? ⟨.sandbox, key⟩ (workspaceName s.spec.workspaceOf) =
          some (Resource.sandbox s).object := by
        have hname : s.metadata.name = key.name := congrArg Key.name hseen.1
        simp only [ResourceId.object?, Resource.object, ← hname]
        rfl
      unfold SandboxController.reconcile
      split
      · exact fun _ _ => trivial
      · exact resource_permitted (r := .sandbox s) now hseen hg ho
  | provider =>
      obtain ⟨now, s, hseen, rfl⟩ := h
      have ho : ResourceId.object? ⟨.provider, key⟩
          (workspaceName (ProviderController.workspaceOf s)) = some (Resource.provider s).object := by
        have hname : s.metadata.name = key.name := congrArg Key.name hseen.1
        simp only [ResourceId.object?, Resource.object, ← hname]
        rfl
      unfold ProviderController.reconcile
      split
      · exact fun _ _ => trivial
      · exact resource_permitted (r := .provider s) now hseen hg ho
  | workspace =>
      obtain ⟨now, ws, hseen, hns, rfl⟩ := h
      have hkey : key = ⟨"", ws.metadata.name⟩ := by
        have hseenKey : ws.metadata.key = key := hseen.1
        rw [← hseenKey, ObjectMeta.key, hns]
        rfl
      subst hkey
      exact workspace_permitted now hseen hg

end reconciles

/-! ### The result -/

/-- No sandbox or provider that a resource created is in the workspace. -/
def Vacant (name : String) (a : Attributed) : Prop :=
  ∀ o j, a.creator o = some j → a.world.gateway.has o → o.workspace ≠ name

/-- No sandbox that a resource created is still terminating in the workspace. -/
def NoneTerminating (name : String) (a : Attributed) : Prop :=
  ∀ key j s, a.creator (.sandbox key) = some j → a.world.gateway.sandboxes[key]? = some s →
    key.scope = name → s.deleting = false

theorem guarded_reach {X : Externals} {w : World}
    {s : Conf ResourceId Call.Answer Error Action Attributed}
    (hs : TenantReach X (Conf.idle (.unclaimed w)) s) :
    s.world.Guarded ∧ ∀ i p, s.thread i = some p →
      p.Safe (Attributed.react X i) (guardRely i) (Permitted i) (fun _ _ => True) s.world := by
  have hstart : ∀ i a p, Attributed.Guarded a → ReconcileSeen X i a p →
      p.Safe (Attributed.react X i) (guardRely i) (Permitted i) (fun _ _ => True) a :=
    fun _ _ _ => reconcile_permitted
  have hcall : ∀ i c f a, Attributed.Guarded a → Permitted i a c →
      (Attributed.react X i a c f).1.Guarded ∧
        ∀ j, j ≠ i → guardRely j a (Attributed.react X i a c f).1 :=
    fun _ _ _ _ => permitted_react
  have henv : ∀ a a', Attributed.Guarded a → Outside a a' →
      a'.Guarded ∧ ∀ j, guardRely j a a' :=
    fun _ _ hg h => h.relies hg
  exact Reach.safe hstart hcall henv hs nofun

/-- **Deleting a workspace.**  In every run, whenever a reconcile is about to delete a workspace
on the gateway, it is not the built-in one, and nothing that a resource created is left in it
if and only if none of the sandboxes created there is still terminating. -/
theorem workspace_delete_iff (X : Externals) (w : World)
    (s : Conf ResourceId Call.Answer Error Action Attributed)
    (hs : TenantReach X (Conf.idle (.unclaimed w)) s) (i : ResourceId) (name : String)
    (k : Except Error DeletionOutcome → Op Action)
    (hthread : s.thread i = some (.call (.rpc (.deleteWorkspace name)) k)) :
    name ≠ defaultWorkspace ∧ (Vacant name s.world ↔ NoneTerminating name s.world) := by
  obtain ⟨hguarded, hsafe⟩ := guarded_reach hs
  obtain ⟨hpermitted, -⟩ := hsafe i _ hthread s.world ((guardRely i).refl _)
  obtain ⟨hname, hsandboxes, hproviders⟩ := hpermitted.delete name rfl
  refine ⟨hname, fun hvacant key j sandbox hcreator hsandbox hkey => ?_,
    fun hnone o j hcreator hhas hworkspace => ?_⟩
  · exact absurd hkey (hvacant _ j hcreator (Option.isSome_of_mem hsandbox))
  · have hlive : s.world.world.gateway.Live o := by
      cases o with
      | provider key => exact hhas
      | sandbox key =>
          obtain ⟨sandbox, hsandbox⟩ := Option.isSome_iff_exists.mp hhas
          exact ⟨sandbox, hsandbox, hnone key j sandbox hcreator hsandbox hworkspace⟩
    obtain ⟨workspace, ⟨x, hx, hw, -⟩, hobject⟩ := hguarded o j hcreator hlive
    obtain ⟨kind, key⟩ := j
    cases kind with
    | sandbox =>
        cases hobject
        cases hworkspace
        exact hsandboxes key x hx hw
    | provider =>
        cases hobject
        cases hworkspace
        exact hproviders key x hx hw
    | workspace => cases hobject

/-- **Nothing is left behind.**  In every run, a live object that a resource created has its
resource, with the finalizer and for the workspace and name of the object; whenever a reconcile is
about to remove a finalizer, it is that of its own resource, of which nothing live is left; and what a
resource that is gone has created is gone as well, or is a sandbox whose deletion has been accepted. -/
theorem nothing_left_behind (X : Externals) (w : World)
    (s : Conf ResourceId Call.Answer Error Action Attributed)
    (hs : TenantReach X (Conf.idle (.unclaimed w)) s) :
    (∀ o j, s.world.creator o = some j → s.world.world.gateway.Live o →
      ∃ x workspace, s.world.entry j = some x ∧ x.finalized j.kind ∧ x.workspace = some workspace ∧
        j.object? workspace = some o) ∧
    (∀ i kind key name k, s.thread i = some (.call (.kube (.removeFinalizer kind key name)) k) →
      i = ⟨kind, key⟩ ∧ ∀ o, s.world.creator o = some i → ¬ s.world.world.gateway.Live o) ∧
    ∀ i o, s.world.entry i = none → s.world.creator o = some i → s.world.world.gateway.has o →
      ∃ key sandbox, o = .sandbox key ∧ s.world.world.gateway.sandboxes[key]? = some sandbox ∧
        sandbox.deleting = true := by
  obtain ⟨hguarded, hsafe⟩ := guarded_reach hs
  refine ⟨fun o j hcreator hlive => ?_, fun i kind key name k hthread => ?_,
    fun i o hgone hcreator hhas => ?_⟩
  · obtain ⟨workspace, ⟨x, hx, hworkspace, hfinalized⟩, hobject⟩ := hguarded o j hcreator hlive
    exact ⟨x, workspace, hx, hfinalized, hworkspace, hobject⟩
  · obtain ⟨hpermitted, -⟩ := hsafe i _ hthread s.world ((guardRely i).refl _)
    obtain ⟨hid, hreleased⟩ := hpermitted.release kind key name rfl
    exact ⟨hid.symm, hreleased⟩
  · have hdead : ¬ s.world.world.gateway.Live o := by
      intro hlive
      obtain ⟨_, ⟨x, hx, -⟩, -⟩ := hguarded o i hcreator hlive
      rw [hgone] at hx
      cases hx
    cases o with
    | provider key => exact absurd hhas hdead
    | sandbox key =>
        obtain ⟨sandbox, hsandbox⟩ := Option.isSome_iff_exists.mp hhas
        refine ⟨key, sandbox, rfl, hsandbox, ?_⟩
        cases hdeleting : sandbox.deleting with
        | true => rfl
        | false => exact absurd ⟨sandbox, hsandbox, hdeleting⟩ hdead

namespace Sample

/-- A sandbox of the workspace `lab`. -/
def labBox (deletionTimestamp : Option Int) : OpenShellSandbox where
  metadata :=
    { name := "box"
      namespace_ := some "team"
      deletionTimestamp := deletionTimestamp
      finalizers := [SandboxController.finalizerName] }
  spec := { workspace := some "lab" }

/-- The workspace `lab`, whose deletion has been requested. -/
def lab : OpenShellWorkspace where
  metadata :=
    { name := "lab"
      deletionTimestamp := some 0
      finalizers := [WorkspaceController.finalizerName] }
  spec := {}

def labBoxId : ResourceId := ⟨.sandbox, ⟨"team", "box"⟩⟩

/-- Both resources are on the cluster. -/
def labWorld : World where
  gateway := { workspaces := (∅ : StrMap GatewayWorkspace).insert "lab" ⟨∅, .active, ∅⟩ }
  cluster :=
    { sandboxes := (∅ : KeyMap OpenShellSandbox).insert ⟨"team", "box"⟩ (labBox none)
      workspaces := (∅ : KeyMap OpenShellWorkspace).insert ⟨"", "lab"⟩ lab }

/-- The sandbox has been applied. -/
def labApplied : Attributed :=
  (Prog.exec (Attributed.react versionExternals labBoxId) (List.replicate 3 .served)
    (SandboxController.reconcile versionExternals 0 (labBox none)) (.unclaimed labWorld)).2

/-- The deletion of the sandbox has been requested. -/
def labRequested : Attributed := labApplied.requestDeletion labBoxId 1

/-- The sandbox has been cleaned up. -/
def labCleaned : Attributed :=
  (Prog.exec (Attributed.react versionExternals labBoxId) (List.replicate 2 .served)
    (SandboxController.reconcile versionExternals 0 (labBox (some 1))) labRequested).2

/-- The call deletes the workspace `lab`. -/
def deletesLab : Call → Bool
  | .rpc (.deleteWorkspace name) => name == "lab"
  | _ => false

theorem eq_of_deletesLab {c : Call} (h : deletesLab c) : c = .rpc (.deleteWorkspace "lab") := by
  unfold deletesLab at h
  split at h
  · rw [beq_iff_eq.mp h]
  · cases h

/-- The cleanup of `lab` deletes the workspace when its two listings show nothing. -/
theorem lab_deletes {a : Attributed}
    (hentry : a.entry (Attributed.workspaceId "lab") = some ⟨lab.metadata, none⟩)
    (hnext : (Prog.exec (Attributed.react versionExternals (Attributed.workspaceId "lab"))
      [.served, .served] (WorkspaceController.reconcile 0 lab) a).1.next.any deletesLab) :
    ∃ s k, TenantReach versionExternals (Conf.idle a) s ∧
      s.thread (Attributed.workspaceId "lab") = some (.call (.rpc (.deleteWorkspace "lab")) k) ∧
      s.world = (Prog.exec (Attributed.react versionExternals (Attributed.workspaceId "lab"))
        [.served, .served] (WorkspaceController.reconcile 0 lab) a).2 := by
  have hstart : ReconcileSeen versionExternals (Attributed.workspaceId "lab") a
      (WorkspaceController.reconcile 0 lab) :=
    ⟨0, lab, ⟨rfl, _, hentry, rfl, fun h => h, fun h => h⟩, rfl, rfl⟩
  obtain ⟨s, hreach, hthread, hworld⟩ : ∃ s, TenantReach versionExternals (Conf.idle a) s ∧ _ ∧ _ :=
    Reach.launch (Attributed.workspaceId "lab") [.served, .served] rfl hstart
  obtain ⟨c, hc, hdeletes⟩ := (Option.any_eq_true _ _).mp hnext
  rw [eq_of_deletesLab hdeletes] at hc
  obtain ⟨k, hk⟩ := Prog.eq_of_next hc
  exact ⟨s, k, hreach, hthread.trans (congrArg some hk), hworld⟩

theorem lab_applied_reach :
    TenantReach versionExternals (Conf.idle (.unclaimed labWorld)) (Conf.idle labApplied) := by
  have happly : ReconcileSeen versionExternals labBoxId (.unclaimed labWorld)
      (SandboxController.reconcile versionExternals 0 (labBox none)) := by
    refine ⟨0, labBox none, ⟨rfl, ⟨(labBox none).metadata, some "lab"⟩, ?_, rfl, fun h => h, fun h => h⟩, rfl⟩
    decide +kernel
  exact Reach.job labBoxId (List.replicate 3 Fate.served) rfl happly

theorem lab_requested_reach :
    TenantReach versionExternals (Conf.idle (.unclaimed labWorld)) (Conf.idle labRequested) :=
  lab_applied_reach.tail (.env (outside_requestDeletion labApplied labBoxId 1))

theorem lab_cleaned_reach :
    TenantReach versionExternals (Conf.idle (.unclaimed labWorld)) (Conf.idle labCleaned) := by
  have hcleanup : ReconcileSeen versionExternals labBoxId labRequested
      (SandboxController.reconcile versionExternals 0 (labBox (some 1))) := by
    refine ⟨0, labBox (some 1), ⟨rfl, ⟨(labBox (some 1)).metadata, some "lab"⟩, ?_, rfl, fun h => h,
      fun h => h⟩, rfl⟩
    decide +kernel
  have hrun : TenantReach versionExternals (Conf.idle labRequested) (Conf.idle labCleaned) :=
    Reach.job labBoxId (List.replicate 2 Fate.served) rfl hcleanup
  exact lab_requested_reach.trans hrun

/-- The gateway has finished the deletion of the sandbox. -/
def labEmpty : Attributed := labCleaned.reap ⟨"lab", "box"⟩

/-- The sandbox of `lab` has been created and cleaned up, and the gateway has removed it: the
workspace is deleted vacant. -/
theorem empty_lab_deleted : ∃ s k,
    labApplied.creator (.sandbox ⟨"lab", "box"⟩) = some labBoxId ∧
    labCleaned.world.gateway.has (.sandbox ⟨"lab", "box"⟩) ∧
    TenantReach versionExternals (Conf.idle (.unclaimed labWorld)) (Conf.idle labCleaned) ∧
    TenantReach versionExternals (Conf.idle labCleaned) s ∧
    s.thread (Attributed.workspaceId "lab") = some (.call (.rpc (.deleteWorkspace "lab")) k) ∧
    "lab" ≠ defaultWorkspace ∧ Vacant "lab" s.world := by
  have hentry : labEmpty.entry (Attributed.workspaceId "lab") = some ⟨lab.metadata, none⟩ := by
    decide +kernel
  obtain ⟨s, k, hdeletes, hthread, hworld⟩ := lab_deletes hentry (by decide +kernel)
  have hreach : TenantReach versionExternals (Conf.idle labCleaned) s :=
    .head (.env (outside_reap labCleaned ⟨"lab", "box"⟩)) hdeletes
  obtain ⟨hname, hiff⟩ := workspace_delete_iff versionExternals labWorld s
    (lab_cleaned_reach.trans hreach) _ "lab" k hthread
  refine ⟨s, k, by decide +kernel, by decide +kernel, lab_cleaned_reach, hreach, hthread, hname,
    hiff.mpr ?_⟩
  have hnone : s.world.world.gateway.sandboxes.toList = [] := by
    rw [hworld]
    decide +kernel
  intro key j sandbox _ hsandbox _
  have hmem := KeyMap.mem_toList hsandbox
  rw [hnone] at hmem
  cases hmem

/-- The sandbox has been cleaned up, its resource is gone, and it is still terminating when the
workspace is deleted. -/
theorem occupied_lab_deleted : ∃ s k,
    TenantReach versionExternals (Conf.idle (.unclaimed labWorld)) s ∧
    s.thread (Attributed.workspaceId "lab") = some (.call (.rpc (.deleteWorkspace "lab")) k) ∧
    ¬ Vacant "lab" s.world := by
  have hentry : labCleaned.entry (Attributed.workspaceId "lab") = some ⟨lab.metadata, none⟩ := by
    decide +kernel
  obtain ⟨s, k, hreach, hthread, hworld⟩ := lab_deletes hentry (by decide +kernel)
  refine ⟨s, k, lab_cleaned_reach.trans hreach, hthread, fun hvacant => ?_⟩
  refine hvacant (.sandbox ⟨"lab", "box"⟩) labBoxId ?_ ?_ rfl
  · rw [hworld]
    decide +kernel
  · rw [hworld]
    decide +kernel

/-- The sandbox that has been applied has its resource, with the finalizer. -/
theorem box_not_left_behind :
    labApplied.creator (.sandbox ⟨"lab", "box"⟩) = some labBoxId ∧
    labApplied.world.gateway.Live (.sandbox ⟨"lab", "box"⟩) ∧
    ∃ x workspace, labApplied.entry labBoxId = some x ∧ x.finalized .sandbox ∧
      x.workspace = some workspace ∧
      labBoxId.object? workspace = some (.sandbox ⟨"lab", "box"⟩) := by
  have hcreator : labApplied.creator (.sandbox ⟨"lab", "box"⟩) = some labBoxId := by decide +kernel
  have hlive : labApplied.world.gateway.Live (.sandbox ⟨"lab", "box"⟩) := by
    have hbox : labApplied.world.gateway.sandboxes[(⟨"lab", "box"⟩ : Key)]?.any
        (fun sandbox => !sandbox.deleting) = true := by decide +kernel
    obtain ⟨sandbox, hsandbox, hdeleting⟩ := (Option.any_eq_true _ _).mp hbox
    exact ⟨sandbox, hsandbox, by simpa using hdeleting⟩
  exact ⟨hcreator, hlive, (nothing_left_behind _ _ _ lab_applied_reach).1 _ _ hcreator hlive⟩

end Sample
end OpenShell
