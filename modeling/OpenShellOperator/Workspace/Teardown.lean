import OpenShellOperator.Effects.Embed
import OpenShellOperator.Triggers
import OpenShellOperator.Workspace.Deletion

/-! # Tearing a tenant down

The deletion of a workspace and of every resource that refers to it has been requested.  Reconciles
run in any order and may fail at any call; the gateway finishes deletions that it has accepted; and
whatever else happens keeps out of the tenant.

`Draining` is the invariant: what is left of the tenant is on its way out.  Every event keeps it and
brings nothing back (`Draining.happens`).  `teardown_completes`: once each resource that refers to the
workspace has been reconciled without an outage, then every accepted deletion has been finished, and
then the workspace has been reconciled, nothing of the tenant is left, on the cluster or on the
gateway. -/

namespace OpenShell
open Wire Effects

/-! ### A resource that goes -/

/-- The resource is on its way out: its deletion has been requested, and only the operator's
finalizer holds it. -/
structure Entry.Going (x : Entry) (kind : Kind) : Prop where
  finalizers : x.metadata.finalizers = [kind.finalizerName]
  deleting : x.deleting
  namespaced : kind ≠ .workspace → x.metadata.namespace_.isSome

section going
variable {X : Externals} {w : World} {i : ResourceId} {x : Entry} {kind : Kind}

/-- Without its finalizer the resource is gone. -/
theorem Entry.Going.removed (h : x.Going kind) :
    Cluster.changed (Cluster.removeFinalizerFrom kind.finalizerName) x = none := by
  have hdeleting : x.metadata.deletionTimestamp.isSome = true := h.deleting
  simp [Cluster.changed, Cluster.removeFinalizerFrom, h.finalizers, hdeleting]

/-- A removal of any finalizer removes the resource or leaves it as it is. -/
theorem Entry.Going.changed {x' : Entry} (h : x.Going kind) {name : String}
    (hx' : Cluster.changed (Cluster.removeFinalizerFrom name) x = some x') : x' = x := by
  by_cases hname : name = kind.finalizerName
  · rw [hname, h.removed] at hx'
    cases hx'
  · have hrest : x.metadata.finalizers.erase name = x.metadata.finalizers := by
      rw [h.finalizers]
      simp [Ne.symm hname]
    have hsome : x.metadata.finalizers.isEmpty = false := by
      rw [h.finalizers]
      rfl
    simp only [Cluster.changed, Cluster.removeFinalizerFrom, hrest, hsome] at hx'
    exact (Option.some.inj hx').symm

variable {cleanup : Op Action}

theorem Op.mapErr_returns {α : Type} {g : Error → Error} {p : Op α} {Q : α → World → Prop}
    (h : p.Returns (World.serve X) w Q) : (p.mapErr g).Returns (World.serve X) w Q :=
  Prog.Returns.bind (Prog.Returns.attempt (h.mono (fun _ _ ha => Prog.returns_pure ha)))

theorem modifyMeta_ok {k : Cluster} {f : ObjectMeta → Option ObjectMeta} (h : k.entry i = some x) :
    (k.modifyMeta i.kind i.key f).2 = .ok () := by
  obtain ⟨kind, key⟩ := i
  cases kind with
  | _ =>
      obtain ⟨o, ho, -⟩ := Option.map_eq_some_iff.mp h
      simp only [Cluster.modifyMeta, Cluster.modifyAt, ho]
      split
      · rfl
      · rename_i herr
        split at herr <;> cases herr

/-- A resource that goes is cleaned up, and then its finalizer removed. -/
theorem finalizer_of_going (apply cleanup : Op Action) (h : x.Going kind) :
    finalizer kind kind.finalizerName x.metadata apply cleanup = (do
      let action ← cleanup.mapErr (fun err => .finalizer (.cleanupFailed err))
      Op.mapErr (fun err => .finalizer (.removeFinalizer err.kubeText))
        (kube (.removeFinalizer kind x.metadata.key kind.finalizerName))
      pure action) := by
  have hcontains : x.metadata.finalizers.contains kind.finalizerName = true := by
    rw [h.finalizers]
    simp
  have hdeleting : x.metadata.deletionTimestamp.isSome = true := h.deleting
  rw [finalizer, hcontains, hdeleting]

/-- Once the cleanup has returned, the finalizer is removed and the resource is gone. -/
theorem finalizer_returns (apply : Op Action) (hgoing : x.Going i.kind) (hkey : x.metadata.key = i.key)
    (h : cleanup.Returns (World.serve X) w (fun _ w' => w'.cluster.entry i = some x)) :
    (finalizer i.kind i.kind.finalizerName x.metadata apply cleanup).Returns (World.serve X) w
      (fun _ w' => w'.cluster.entry i = none) := by
  rw [finalizer_of_going apply cleanup hgoing, hkey]
  refine Prog.Returns.bind (Op.mapErr_returns (h.mono (fun action w' hentry => ?_)))
  refine Prog.Returns.bind (Op.mapErr_returns (Prog.returns_perform (modifyMeta_ok hentry) ?_))
  refine Prog.returns_pure ((Cluster.entry_modifyMeta w'.cluster i _ i).trans ?_)
  rw [if_pos rfl, hentry]
  exact hgoing.removed

end going

/-! ### The events -/

/-- The resource belongs to the tenant: it refers to the workspace, or is the workspace. -/
def Tenant (name : String) (i : ResourceId) (x : Entry) : Prop :=
  x.workspace = some name ∨ i = Attributed.workspaceId name

def Resource.metadata : Resource → ObjectMeta
  | .sandbox s => s.metadata
  | .provider s => s.metadata

/-- A reconcile of the resource as it stands. -/
def ReconcileNow (X : Externals) (i : ResourceId) (a : Attributed) (p : Op Action) : Prop :=
  match i.kind with
  | .sandbox => ∃ now s, s.metadata.key = i.key ∧ a.world.cluster.sandboxes[i.key]? = some s ∧
      p = SandboxController.reconcile X now s
  | .provider => ∃ now s, s.metadata.key = i.key ∧ a.world.cluster.providers[i.key]? = some s ∧
      p = ProviderController.reconcile X now s
  | .workspace => ∃ now s, s.metadata.key = i.key ∧ s.metadata.namespace_ = none ∧
      a.world.cluster.workspaces[i.key]? = some s ∧ p = WorkspaceController.reconcile now s

/-- Others keep out of the tenant. -/
structure Aside (name : String) (a a' : Attributed) : Prop where
  outside : Outside a a'
  resources : ∀ i x, Tenant name i x → (a'.entry i = some x ↔ a.entry i = some x)
  objects : ∀ o, o.workspace = name →
    a'.creator o = a.creator o ∧ a.world.gateway.Same a'.world.gateway o
  workspace : a'.world.gateway.workspaces[name]? = a.world.gateway.workspaces[name]?

/-- What happens while a tenant is torn down. -/
inductive Occurrence where
  /-- A resource is reconciled to the end, and all calls are served. -/
  | reconcile (i : ResourceId)
  /-- A resource is reconciled; calls may fail, and the operator may stop. -/
  | attempt (i : ResourceId)
  /-- The gateway finishes a deletion. -/
  | reap (key : Key)
  /-- Something else happens. -/
  | aside

/-- What an event does.  A resource that is gone is not reconciled. -/
def Happens (X : Externals) (name : String) : Occurrence → Attributed → Attributed → Prop
  | .reconcile i, a, a' => a.entry i = none ∧ a' = a ∨ ∃ p tr r, ReconcileNow X i a p ∧
      Prog.Steps (Attributed.react X i) Rely.none p a tr (.done r) a' ∧ ∀ cf ∈ tr, cf.2 = .served
  | .attempt i, a, a' => ∃ p tr p', ReconcileNow X i a p ∧
      Prog.Steps (Attributed.react X i) Rely.none p a tr p' a'
  | .reap key, a, a' => a' = a.reap key
  | .aside, a, a' => Aside name a a'

/-! ### What a reconcile of the tenant does -/

section reconciles
variable {X : Externals} {name : String} {i : ResourceId} {a : Attributed} {p : Op Action}
  {x : Entry} {c : Call}

/-- What a reconcile consists of. -/
theorem ReconcileNow.inv (h : ReconcileNow X i a p) :
    ∃ x, a.entry i = some x ∧ x.metadata.key = i.key ∧
      ((∃ r now, i.kind ≠ .workspace ∧ x.metadata = Resource.metadata r ∧
          (x.metadata.namespace_ = none ∧ p = Prog.fail .missingNamespace ∨
            p = finalizer i.kind i.kind.finalizerName x.metadata (r.apply X now) r.cleanup)) ∨
        ∃ ws now, i = Attributed.workspaceId ws.metadata.name ∧
          p = finalizer i.kind i.kind.finalizerName x.metadata (WorkspaceController.apply now ws)
            (WorkspaceController.cleanup now ws)) := by
  obtain ⟨kind, key⟩ := i
  cases kind with
  | sandbox =>
      obtain ⟨now, s, hkey, hs, rfl⟩ := h
      refine ⟨⟨s.metadata, _⟩, congrArg (Option.map _) hs, hkey, .inl ⟨.sandbox s, now, nofun, rfl, ?_⟩⟩
      unfold SandboxController.reconcile
      split
      · rename_i hns
        exact .inl ⟨hns, rfl⟩
      · exact .inr rfl
  | provider =>
      obtain ⟨now, s, hkey, hs, rfl⟩ := h
      refine ⟨⟨s.metadata, _⟩, congrArg (Option.map _) hs, hkey, .inl ⟨.provider s, now, nofun, rfl, ?_⟩⟩
      unfold ProviderController.reconcile
      split
      · rename_i hns
        exact .inl ⟨hns, rfl⟩
      · exact .inr rfl
  | workspace =>
      obtain ⟨now, ws, hkey, hns, hws, rfl⟩ := h
      refine ⟨⟨ws.metadata, none⟩, congrArg (Option.map _) hws, hkey, .inr ⟨ws, now, ?_, rfl⟩⟩
      have hseen : ws.metadata.key = key := hkey
      rw [← hseen, ObjectMeta.key, hns]
      rfl

/-- A reconcile of a resource as it stands is one of the resource as it was seen. -/
theorem ReconcileNow.seen (h : ReconcileNow X i a p) : ReconcileSeen X i a p := by
  obtain ⟨kind, key⟩ := i
  cases kind with
  | sandbox =>
      obtain ⟨now, s, hkey, hs, rfl⟩ := h
      exact ⟨now, s, ⟨hkey, _, congrArg (Option.map _) hs, rfl, fun h => h, fun h => h⟩, rfl⟩
  | provider =>
      obtain ⟨now, s, hkey, hs, rfl⟩ := h
      exact ⟨now, s, ⟨hkey, _, congrArg (Option.map _) hs, rfl, fun h => h, fun h => h⟩, rfl⟩
  | workspace =>
      obtain ⟨now, ws, hkey, hns, hws, rfl⟩ := h
      exact ⟨now, ws, ⟨hkey, _, congrArg (Option.map _) hws, rfl, fun h => h, fun h => h⟩, hns, rfl⟩

/-- The call adds no finalizer, opens no workspace and creates nothing. -/
structure Clearing (c : Call) : Prop where
  adds : ∀ kind key finalizer, c ≠ .kube (.addFinalizer kind key finalizer)
  opens : ∀ name labels, c ≠ .rpc (.createWorkspace name labels)
  creates : ∀ X w o, (World.serve X w c).1.gateway.has o → w.gateway.has o

theorem clearing_kube {k : KubeCall} (h : ∀ kind key finalizer, k ≠ .addFinalizer kind key finalizer) :
    Clearing (.kube k) :=
  ⟨fun _ _ _ hk => h _ _ _ (Call.kube.inj hk), nofun, fun _ _ _ hhas => hhas⟩

theorem clearing_removeFinalizer (kind : Kind) (key : Key) (finalizer : String) :
    Clearing (.kube (.removeFinalizer kind key finalizer)) :=
  clearing_kube (fun _ _ _ hk => by cases hk)

theorem clearing_deleteSandbox (s : OpenShellSandbox) : Clearing (SandboxController.deleteCall s) := by
  refine ⟨nofun, nofun, fun X w o hhas => ?_⟩
  by_cases ho : (SandboxController.deleteCall s).target = some o
  · cases ho
    by_contra hnone
    have hgone : w.gateway.sandboxes[(workspaceScope s.spec.workspaceOf).key s.metadata.name]? = none := by
      simpa [Gateway.has] using hnone
    have hsame : (World.serve X w (SandboxController.deleteCall s)).1.gateway = w.gateway := by
      show (w.gateway.deleteSandbox _).1 = _
      simp only [Gateway.deleteSandbox, hgone]
    rw [hsame] at hhas
    exact hnone hhas
  · rwa [(World.serve_same X w ho).has] at hhas

theorem clearing_deleteProvider (s : OpenShellProvider) : Clearing (ProviderController.deleteCall s) := by
  refine ⟨nofun, nofun, fun X w o hhas => ?_⟩
  by_cases ho : (ProviderController.deleteCall s).target = some o
  · cases ho
    exact absurd hhas Gateway.deleteProvider_dead
  · rwa [(World.serve_same X w ho).has] at hhas

theorem clearing_deleteWorkspace (name : String) : Clearing (.rpc (.deleteWorkspace name)) := by
  refine ⟨nofun, nofun, fun X w o hhas => ?_⟩
  rwa [(World.serve_same X w (c := .rpc (.deleteWorkspace name)) nofun).has] at hhas

theorem cleanup_clears (r : Resource) : r.cleanup.Calls Clearing := by
  cases r with
  | sandbox s =>
      refine Prog.Calls.bind (Prog.Calls.bind (Prog.calls_perform (clearing_deleteSandbox s))
        (fun _ => Prog.calls_pure _)) (fun _ => ?_)
      show Prog.Calls _ (ite _ _ _)
      split_ifs
      · refine Prog.Calls.bind ?_ (fun _ => Prog.calls_pure _)
        unfold SandboxController.deleteProvisionedVolumes
        cases s.metadata.namespace_ with
        | none => exact Prog.calls_fail _
        | some ns => exact Prog.calls_perform (clearing_kube nofun)
      · exact Prog.calls_pure _
  | provider s =>
      exact Prog.Calls.bind (Prog.Calls.bind (Prog.calls_perform (clearing_deleteProvider s))
        (fun _ => Prog.calls_pure _)) (fun _ => Prog.calls_pure _)

theorem workspace_cleanup_clears (now : Time) (ws : OpenShellWorkspace) :
    (WorkspaceController.cleanup now ws).Calls Clearing := by
  refine (WorkspaceController.cleanup_calls now ws).mono (fun c hc => ?_)
  cases hc with
  | delete => exact clearing_deleteWorkspace _
  | _ => exact clearing_kube nofun

/-- A resource that goes is only cleaned up. -/
theorem finalizer_clears {apply cleanup : Op Action} {kind : Kind} (hgoing : x.Going kind)
    (h : cleanup.Calls Clearing) :
    (finalizer kind kind.finalizerName x.metadata apply cleanup).Calls Clearing := by
  rw [finalizer_of_going apply cleanup hgoing]
  refine Prog.Calls.bind (Op.mapErr_calls _ h) (fun action => ?_)
  exact Prog.Calls.bind (Op.mapErr_calls _ (Prog.calls_perform (clearing_removeFinalizer ..)))
    (fun _ => Prog.calls_pure _)

theorem reconcile_clears (h : ReconcileNow X i a p) (hx : a.entry i = some x)
    (hgoing : x.Going i.kind) : p.Calls Clearing := by
  obtain ⟨x', hx', -, ⟨r, now, -, -, ⟨-, rfl⟩ | rfl⟩ | ⟨ws, now, -, rfl⟩⟩ := h.inv
  · exact Prog.calls_fail _
  · cases hx.symm.trans hx'
    exact finalizer_clears hgoing (cleanup_clears r)
  · cases hx.symm.trans hx'
    exact finalizer_clears hgoing (workspace_cleanup_clears now ws)

/-- The call adds a finalizer only to the resource, and opens a workspace only for it. -/
structure Within (i : ResourceId) (c : Call) : Prop where
  adds : ∀ kind key finalizer, c = .kube (.addFinalizer kind key finalizer) →
    (⟨kind, key⟩ : ResourceId) = i
  opens : ∀ name labels, c = .rpc (.createWorkspace name labels) → i = Attributed.workspaceId name

theorem Clearing.within (h : Clearing c) : Within i c :=
  ⟨fun _ _ _ hc => absurd hc (h.adds _ _ _), fun _ _ hc => absurd hc (h.opens _ _)⟩

theorem within_apply {r : Resource} (h : r.ApplyCall c) : Within i c := by
  cases r with
  | sandbox s =>
      obtain ⟨ns, h⟩ := h
      cases h with
      | upkeep hup => cases hup <;> exact ⟨nofun, nofun⟩
      | _ => exact ⟨nofun, nofun⟩
  | provider s =>
      obtain ⟨ns, h⟩ := h
      cases h <;> exact ⟨nofun, nofun⟩

theorem within_workspace_apply {ws : OpenShellWorkspace}
    (h : WorkspaceController.ApplyCall ws c) : Within (Attributed.workspaceId ws.metadata.name) c := by
  cases h with
  | create =>
      refine ⟨nofun, fun _ _ hc => ?_⟩
      cases hc
      rfl
  | _ => exact ⟨nofun, nofun⟩

theorem finalizer_within {R : Rely Attributed} {apply cleanup : Op Action} (hkey : x.metadata.key = i.key)
    (happly : apply.Safe (Attributed.react X i) R (fun _ => Within i) (fun _ _ => True) a)
    (hcleanup : cleanup.Calls Clearing) :
    (finalizer i.kind i.kind.finalizerName x.metadata apply cleanup).Safe (Attributed.react X i) R
      (fun _ => Within i) (fun _ _ => True) a := by
  refine finalizer_safe (fun _ => ⟨fun _ _ _ hc => ?_, nofun⟩) (fun _ => happly) (fun _ _ => ?_)
  · cases hc
    rw [hkey]
  · exact Prog.Safe.mono (fun _ _ hc => Clearing.within hc)
      (fun _ _ _ _ _ _ _ => (clearing_removeFinalizer ..).within) (hcleanup.safe a)

theorem reconcile_within {R : Rely Attributed} (h : ReconcileNow X i a p) :
    p.Safe (Attributed.react X i) R (fun _ => Within i) (fun _ _ => True) a := by
  obtain ⟨x, -, hkey, ⟨r, now, -, -, ⟨-, rfl⟩ | rfl⟩ | ⟨ws, now, rfl, rfl⟩⟩ := h.inv
  · exact fun _ _ => trivial
  · exact finalizer_within hkey (Prog.Safe.mono (fun _ _ hc => within_apply hc) (fun _ _ h => h)
      (r.apply_safe now a)) (cleanup_clears r)
  · have happly := (WorkspaceController.apply_calls now ws).mono (fun _ => within_workspace_apply)
    exact finalizer_within hkey (happly.safe a) (workspace_cleanup_clears now ws)

/-! ### The workspace is deleted before its resource goes -/

/-- The gateway has no such workspace. -/
def Closed (name : String) (a : Attributed) : Prop := a.world.gateway.workspaces[name]? = none

/-- The call removes a finalizer of the workspace resource only if the workspace is closed. -/
def ClosedFirst (name : String) (a : Attributed) (c : Call) : Prop :=
  ∀ finalizer, c = .kube (.removeFinalizer .workspace ⟨"", name⟩ finalizer) → Closed name a

theorem deleteWorkspace_closed {g : Gateway} {outcome : DeletionOutcome}
    (h : (g.deleteWorkspace name).2 = .ok outcome) : (g.deleteWorkspace name).1.workspaces[name]? = none := by
  unfold Gateway.deleteWorkspace at h ⊢
  split
  · assumption
  · rename_i workspace hworkspace
    simp only [hworkspace] at h
    split_ifs at h ⊢
    exact Std.ExtTreeMap.getElem?_erase_self

theorem quiet_closed {α : Type} {p : Op α} (h : p.Calls Quiet) :
    p.Safe (Attributed.react X i) Rely.none (ClosedFirst name) (fun _ _ => True) a :=
  Prog.Safe.mono (fun _ _ hc _ hremove => absurd hremove (hc.1.1 _ _ _)) (fun _ _ h => h) (h.safe a)

/-- Returning a value after the workspace has been closed. -/
theorem then_pure_closed {α β : Type} {p : Op α} {g : α → β}
    (h : p.Safe (Attributed.react X i) Rely.none (ClosedFirst name)
      (fun r a' => ∀ u, r = .ok u → Closed name a') a) :
    (p >>= fun u => pure (g u)).Safe (Attributed.react X i) Rely.none (ClosedFirst name)
      (fun r a' => ∀ u, r = .ok u → Closed name a') a := by
  refine Prog.Safe.bind_ok (Prog.Safe.mono (fun _ _ hc => hc) ?_ h)
  intro _ a₁ hr u hu a₂ hw _ _
  cases hw
  exact hr u hu

theorem deleteGatewayWorkspace_closed :
    (WorkspaceController.deleteGatewayWorkspace name).Safe (Attributed.react X i) Rely.none
      (ClosedFirst name) (fun r a' => ∀ u, r = .ok u → Closed name a') a := by
  have hdelete : (rpc (.deleteWorkspace name)).Safe (Attributed.react X i) Rely.none
      (ClosedFirst name) (fun r a' => ∀ outcome, r = .ok outcome → Closed name a') a := by
    refine Prog.safe_perform (fun a₁ _ => ⟨nofun, fun f a₂ hw outcome houtcome => ?_⟩)
    cases hw
    have hanswer : (respond Outage.error (World.serve X) a₁.world
        (.rpc (.deleteWorkspace name)) f).2 = .ok outcome := houtcome
    obtain ⟨rfl, hserved⟩ := respond_ok hanswer
    exact deleteWorkspace_closed hserved
  exact then_pure_closed (then_pure_closed hdelete)

theorem cleanup_closed {ws : OpenShellWorkspace} (now : Time)
    (hname : ws.metadata.name ≠ defaultWorkspace) :
    (WorkspaceController.cleanup now ws).Safe (Attributed.react X i) Rely.none
      (ClosedFirst ws.metadata.name)
      (fun r a' => ∀ action, r = .ok action → Closed ws.metadata.name a') a := by
  have hcount : (WorkspaceController.countReferencing ws.metadata.name).Calls Quiet :=
    Prog.Calls.bind (Prog.calls_perform ⟨⟨nofun, nofun⟩, rfl⟩) (fun _ =>
      Prog.Calls.bind (Prog.calls_perform ⟨⟨nofun, nofun⟩, rfl⟩) (fun _ => Prog.calls_pure _))
  show Prog.Safe _ _ _ _ (ite _ _ _) a
  rw [if_neg hname]
  refine Prog.Safe.bind_ok (Prog.Safe.mono (fun _ _ hc => hc) ?_ (quiet_closed hcount))
  intro _ a₁ _ n _
  show Prog.Safe _ _ _ _ (ite _ _ _) a₁
  split_ifs
  · refine Prog.Safe.bind_ok (Prog.Safe.mono (fun _ _ hc => hc) ?_
      (quiet_closed (refuseNonEmpty_quiet now ws _ n)))
    exact fun _ _ _ _ _ _ _ _ h => by cases h
  · exact then_pure_closed deleteGatewayWorkspace_closed

theorem reconcile_closed (hname : name ≠ defaultWorkspace)
    (h : ReconcileNow X (Attributed.workspaceId name) a p) :
    p.Safe (Attributed.react X (Attributed.workspaceId name)) Rely.none (ClosedFirst name)
      (fun _ _ => True) a := by
  obtain ⟨x, -, -, ⟨r, now, hkind, -⟩ | ⟨ws, now, hi, rfl⟩⟩ := h.inv
  · exact absurd rfl hkind
  · cases hi
    refine finalizer_safe (fun _ _ hc => by cases hc) (fun _ => quiet_closed (apply_quiet now ws))
      (fun _ _ => ?_)
    refine Prog.Safe.mono (fun _ _ hc => hc) ?_ (cleanup_closed now hname)
    intro r a₁ hr action haction a₂ hw _ _
    cases hw
    exact hr action haction

end reconciles

/-! ### The invariant -/

/-- What is left of a tenant that is torn down: whatever of it is on the cluster is on its way out,
whatever of it is on the gateway was created by a resource, and the workspace resource goes only
after the workspace. -/
structure Draining (name : String) (a : Attributed) : Prop where
  guarded : a.Guarded
  going : ∀ i x, a.entry i = some x → Tenant name i x → x.Going i.kind
  created : ∀ o, o.workspace = name → a.world.gateway.has o → ∃ j, a.creator o = some j
  closed : a.entry (Attributed.workspaceId name) = none → Closed name a

/-- Nothing of the tenant appears. -/
def shrinks (name : String) : Rely Attributed where
  rel a a' := (∀ i x, a'.entry i = some x → Tenant name i x → a.entry i = some x) ∧
    ∀ o : Object, o.workspace = name → a'.world.gateway.has o → a.world.gateway.has o
  refl _ := ⟨fun _ _ hx _ => hx, fun _ _ hhas => hhas⟩
  trans h h' := ⟨fun i x hx ht => h.1 i x (h'.1 i x hx ht) ht,
    fun o ho hhas => h.2 o ho (h'.2 o ho hhas)⟩

/-- What a reconcile of the resource `i` may do while the tenant is torn down. -/
structure Tame (X : Externals) (name : String) (i : ResourceId) (a : Attributed) (c : Call) : Prop where
  permitted : Permitted i a c
  adds : ∀ kind key finalizer, c = .kube (.addFinalizer kind key finalizer) →
    ∀ x, a.entry ⟨kind, key⟩ = some x → ¬ Tenant name ⟨kind, key⟩ x
  creates : ∀ o, o.workspace = name → (World.serve X a.world c).1.gateway.has o → a.world.gateway.has o
  opens : ∀ labels, c ≠ .rpc (.createWorkspace name labels)
  closes : ClosedFirst name a c

section invariant
variable {X : Externals} {name : String} {i : ResourceId} {a a' : Attributed} {p : Op Action}
  {x : Entry} {c : Call}

theorem ResourceId.workspace_of_object {o : Object} {workspace : String}
    (h : i.object? workspace = some o) : o.workspace = workspace := by
  obtain ⟨kind, key⟩ := i
  cases kind <;> cases h <;> rfl

/-- A reconcile of a resource of the tenant is tame. -/
theorem tenant_tame (hname : name ≠ defaultWorkspace) (hdraining : Draining name a)
    (h : ReconcileNow X i a p) (hx : a.entry i = some x) (htenant : Tenant name i x) :
    p.Safe (Attributed.react X i) Rely.none (Tame X name i) (fun _ _ => True) a := by
  have hpermitted := reconcile_permitted hdraining.guarded h.seen
  have hclears : p.Safe (Attributed.react X i) Rely.none (fun _ => Clearing) (fun _ _ => True) a :=
    (reconcile_clears h hx (hdraining.going i x hx htenant)).safe a
  have hboth := Prog.Safe.both (R := Rely.none) (fun hw => hw ▸ (guardRely i).refl _) (fun hw => hw)
    hpermitted hclears
  by_cases hi : i = Attributed.workspaceId name
  · subst hi
    refine Prog.Safe.mono ?_ (fun _ _ _ => trivial)
      (Prog.Safe.both (fun hw => hw) (fun hw => hw) hboth (reconcile_closed hname h))
    rintro a c ⟨⟨hp, hc⟩, hclosed⟩
    exact ⟨hp, fun _ _ _ he => absurd he (hc.adds _ _ _), fun o _ => hc.creates X a.world o,
      fun _ => hc.opens _ _, hclosed⟩
  · refine Prog.Safe.mono ?_ (fun _ _ _ => trivial) hboth
    rintro a c ⟨hp, hc⟩
    refine ⟨hp, fun _ _ _ he => absurd he (hc.adds _ _ _), fun o _ => hc.creates X a.world o,
      fun _ => hc.opens _ _, fun _ he => ?_⟩
    exact absurd (hp.release _ _ _ he).1.symm hi

/-- A reconcile of any other resource is tame as well. -/
theorem other_tame (hguarded : a.Guarded) (h : ReconcileNow X i a p) (hx : a.entry i = some x)
    (hother : ¬ Tenant name i x) :
    p.Safe (Attributed.react X i) Rely.none (Tame X name i) (fun _ _ => True) a := by
  have hpermitted := reconcile_permitted hguarded h.seen
  have hboth := Prog.Safe.both (R := Rely.none) (fun hw => hw ▸ (guardRely i).refl _) (fun hw => hw)
    hpermitted (reconcile_within (R := Rely.none) h)
  have hi : i ≠ Attributed.workspaceId name := fun hi => hother (.inr hi)
  -- no call changes what the resource refers to
  have hkeep : ∀ a c, (∀ x', a.entry i = some x' → x'.workspace = x.workspace) →
      Permitted i a c ∧ Within i c → Tame X name i a c ∧
        ∀ f x', (Attributed.react X i a c f).1.entry i = some x' → x'.workspace = x.workspace := by
    rintro a c hsame ⟨hp, hc⟩
    refine ⟨⟨hp, ?_, ?_, ?_, ?_⟩, fun f x' hx' => ?_⟩
    · intro kind key finalizer he x' hx'
      have hid := hc.adds kind key finalizer he
      rw [hid] at hx' ⊢
      rintro (hw | hw)
      · exact hother (.inl ((hsame x' hx').symm.trans hw))
      · exact hi hw
    · intro o ho hhas
      by_cases ht : c.target = some o
      · obtain ⟨workspace, ⟨x', hx', hw, -⟩, hobject⟩ := hp.target o ht
        rw [ResourceId.workspace_of_object hobject] at ho
        rw [hsame x' hx', ho] at hw
        exact absurd (.inl hw) hother
      · rwa [(World.serve_same X a.world ht).has] at hhas
    · exact fun labels he => hi (hc.opens _ _ he)
    · exact fun _ he => absurd (hp.release _ _ _ he).1.symm hi
    · obtain ⟨x₀, hx₀, hw⟩ := World.react_known (X := X) f hx'
      exact hw.symm.trans (hsame x₀ hx₀)
  refine Prog.Safe.mono (fun _ _ hc => hc) (fun _ _ _ => trivial) (Prog.Safe.with_inv
    (fun _ _ hI hw => hw ▸ hI) hkeep hboth ?_)
  intro x' hx'
  rw [hx] at hx'
  cases hx'
  rfl

theorem Gateway.modifySandbox_workspaces {g : Gateway} {key : Key}
    {f : GatewaySandbox → Except Error GatewaySandbox} :
    (g.modifySandbox key f).1.workspaces = g.workspaces := by
  unfold Gateway.modifySandbox
  split
  · rfl
  · split <;> rfl

theorem Gateway.modifyMembers_closed {g : Gateway} {workspace : String}
    {f : StrMap WorkspaceRole → Except Error (StrMap WorkspaceRole)} (h : g.workspaces[name]? = none) :
    (g.modifyMembers workspace f).1.workspaces[name]? = none := by
  unfold Gateway.modifyMembers
  split
  · exact h
  · rename_i stored hstored
    split
    · exact h
    · have hne : workspace ≠ name := by
        rintro rfl
        cases h.symm.trans hstored
      rw [Std.ExtTreeMap.getElem?_insert]
      simpa [hne] using h

/-- Only the call that creates it opens a workspace. -/
theorem Gateway.serve_closed (accepts : Option SandboxPolicy → SandboxPolicy → Bool) {g : Gateway}
    {r : Rpc} (h : g.workspaces[name]? = none) (hr : ∀ labels, r ≠ .createWorkspace name labels) :
    (g.serve accepts r).1.workspaces[name]? = none := by
  cases r with
  | createWorkspace workspace labels =>
      have hne : workspace ≠ name := fun he => hr labels (by rw [he])
      show (g.createWorkspace workspace labels).1.workspaces[name]? = none
      unfold Gateway.createWorkspace
      split
      · exact h
      · rw [Std.ExtTreeMap.getElem?_insert]
        simpa [hne] using h
  | deleteWorkspace workspace =>
      show (g.deleteWorkspace workspace).1.workspaces[name]? = none
      unfold Gateway.deleteWorkspace
      split
      · exact h
      · rename_i stored hstored
        have hne : workspace ≠ name := by
          rintro rfl
          cases h.symm.trans hstored
        split_ifs
        · rw [Std.ExtTreeMap.getElem?_insert]
          simpa [hne] using h
        · rw [Std.ExtTreeMap.getElem?_erase]
          simpa [hne] using h
  | addWorkspaceMember scope subject role => exact modifyMembers_closed h
  | removeWorkspaceMember scope subject => exact modifyMembers_closed h
  | attachSandboxProvider sandbox provider scope => rwa [Gateway.serve, modifySandbox_workspaces]
  | detachSandboxProvider sandbox provider scope => rwa [Gateway.serve, modifySandbox_workspaces]
  | updateConfig request => rwa [Gateway.serve, modifySandbox_workspaces]
  | createSandbox request =>
      show (g.createSandbox request).1.workspaces[name]? = none
      unfold Gateway.createSandbox
      split <;> exact h
  | deleteSandbox sandbox scope =>
      show (g.deleteSandbox _).1.workspaces[name]? = none
      unfold Gateway.deleteSandbox
      split <;> exact h
  | createProvider provider scope =>
      show (g.createProvider provider scope).1.workspaces[name]? = none
      simp only [Gateway.createProvider]
      split <;> exact h
  | updateProvider provider scope =>
      show (g.updateProvider provider scope).1.workspaces[name]? = none
      simp only [Gateway.updateProvider]
      split <;> exact h
  | deleteProvider provider scope =>
      show (g.deleteProvider _).1.workspaces[name]? = none
      unfold Gateway.deleteProvider
      split <;> exact h
  | configureProviderRefresh request =>
      show (g.configureProviderRefresh request).1.workspaces[name]? = none
      simp only [Gateway.configureProviderRefresh]
      split <;> exact h
  | _ => exact h

/-- A tame call leaves the resources of the tenant as they are, or removes one. -/
theorem Draining.entry_serve (h : Draining name a) (hc : Tame X name i a c) {j : ResourceId}
    (hx : (World.serve X a.world c).1.cluster.entry j = some x) (htenant : Tenant name j x) :
    a.entry j = some x := by
  cases c with
  | rpc r => exact hx
  | kube k =>
      by_cases hm : Cluster.Marks k
      · cases hm with
        | add kind key finalizer =>
            have hentry := Cluster.entry_modifyMeta a.world.cluster ⟨kind, key⟩
              (some ∘ Cluster.addFinalizerTo finalizer) j
            split_ifs at hentry with hj
            · subst hj
              obtain ⟨x₀, hx₀, hchanged⟩ := Option.bind_eq_some_iff.mp (hentry.symm.trans hx)
              cases hchanged
              exact absurd htenant (hc.adds kind key finalizer rfl x₀ hx₀)
            · exact hentry.symm.trans hx
        | remove kind key finalizer =>
            have hentry := Cluster.entry_modifyMeta a.world.cluster ⟨kind, key⟩
              (Cluster.removeFinalizerFrom finalizer) j
            split_ifs at hentry with hj
            · obtain ⟨x₀, hx₀, hchanged⟩ := Option.bind_eq_some_iff.mp (hentry.symm.trans hx)
              have htenant₀ : Tenant name j x₀ := by
                obtain ⟨m, -, rfl⟩ := Option.map_eq_some_iff.mp hchanged
                exact htenant
              rw [(h.going j x₀ hx₀ htenant₀).changed hchanged]
              exact hx₀
            · exact hentry.symm.trans hx
      · exact (Cluster.entry_serve hm a.world.cluster j).symm.trans hx

/-- After a tame call the workspace resource is gone only if the workspace is. -/
theorem Draining.closed_serve (h : Draining name a) (hc : Tame X name i a c)
    (hgone : (World.serve X a.world c).1.cluster.entry (Attributed.workspaceId name) = none) :
    (World.serve X a.world c).1.gateway.workspaces[name]? = none := by
  cases c with
  | rpc r =>
      have hopens : ∀ labels, r ≠ .createWorkspace name labels :=
        fun labels he => hc.opens labels (congrArg Call.rpc he)
      exact Gateway.serve_closed X.accepts (h.closed hgone) hopens
  | kube k =>
      by_cases hk : ∃ finalizer, k = .removeFinalizer .workspace ⟨"", name⟩ finalizer
      · obtain ⟨finalizer, rfl⟩ := hk
        exact hc.closes finalizer rfl
      · refine h.closed ?_
        have hkept : Cluster.Kept (a.world.cluster.entry (Attributed.workspaceId name))
            ((a.world.cluster.serve k).1.entry (Attributed.workspaceId name)) :=
          Cluster.serve_kept (fun finalizer he => hk ⟨finalizer, he⟩)
        cases hx : a.entry (Attributed.workspaceId name) with
        | none => rfl
        | some x =>
            obtain ⟨x', hx', -⟩ := hkept x hx
            cases hgone.symm.trans hx'

/-- **One call.**  A tame call keeps the invariant, and nothing of the tenant appears. -/
theorem Draining.react (h : Draining name a) (hc : Tame X name i a c) (f : Fate Outage) :
    Draining name (Attributed.react X i a c f).1 ∧
      shrinks name a (Attributed.react X i a c f).1 := by
  have hworld := respond_world Outage.error (World.serve X) a.world c f
  have hentries : ∀ j x, (Attributed.react X i a c f).1.entry j = some x → Tenant name j x →
      a.entry j = some x := by
    intro j x hx htenant
    have hx' : (respond Outage.error (World.serve X) a.world c f).1.cluster.entry j = some x := hx
    rcases hworld with hw | hw
    · rwa [hw] at hx'
    · rw [hw] at hx'
      exact h.entry_serve hc hx' htenant
  have hobjects : ∀ o : Object, o.workspace = name →
      (Attributed.react X i a c f).1.world.gateway.has o → a.world.gateway.has o := by
    intro o ho hhas
    have hhas' : (respond Outage.error (World.serve X) a.world c f).1.gateway.has o := hhas
    rcases hworld with hw | hw
    · rwa [hw] at hhas'
    · rw [hw] at hhas'
      exact hc.creates o ho hhas'
  refine ⟨⟨h.guarded.react hc.permitted, ?_, ?_, ?_⟩, hentries, hobjects⟩
  · exact fun j x hx htenant => h.going j x (hentries j x hx htenant) htenant
  · intro o ho hhas
    obtain ⟨j, hj⟩ := h.created o ho (hobjects o ho hhas)
    have hhas' : (World.react X a.world c f).1.gateway.has o := hhas
    refine ⟨j, ?_⟩
    show (if _ then if _ then _ else _ else _) = _
    rw [if_pos hhas', if_pos (hobjects o ho hhas), hj]
  · intro hgone
    have hgone' : (respond Outage.error (World.serve X) a.world c f).1.cluster.entry
        (Attributed.workspaceId name) = none := hgone
    show (respond Outage.error (World.serve X) a.world c f).1.gateway.workspaces[name]? = none
    rcases hworld with hw | hw
    · rw [hw] at hgone' ⊢
      exact h.closed hgone'
    · rw [hw] at hgone' ⊢
      exact h.closed_serve hc hgone'

/-- A run of a reconcile, wherever it stops. -/
theorem Draining.steps (hname : name ≠ defaultWorkspace) (h : Draining name a)
    (hp : ReconcileNow X i a p) {tr : List (Call × Fate Outage)} {p' : Op Action}
    (hs : Prog.Steps (Attributed.react X i) Rely.none p a tr p' a') :
    Draining name a' ∧ shrinks name a a' := by
  obtain ⟨x, hx, -⟩ := hp.inv
  have htame : p.Safe (Attributed.react X i) Rely.none (Tame X name i) (fun _ _ => True) a := by
    by_cases htenant : Tenant name i x
    · exact tenant_tame hname h hp hx htenant
    · exact other_tame h.guarded hp hx htenant
  have hkeep : ∀ a₁ c f, Draining name a₁ ∧ shrinks name a a₁ → Tame X name i a₁ c →
      Draining name (Attributed.react X i a₁ c f).1 ∧
        shrinks name a (Attributed.react X i a₁ c f).1 := by
    rintro a₁ c f ⟨h₁, hs₁⟩ hc
    obtain ⟨h₂, hs₂⟩ := h₁.react hc f
    exact ⟨h₂, (shrinks name).trans hs₁ hs₂⟩
  exact (Prog.Safe.steps_inv (fun _ _ hI hw => hw ▸ hI) hkeep hs htame
    ⟨h, (shrinks name).refl a⟩).1

/-- What the gateway finishes. -/
theorem Draining.reap (h : Draining name a) (key : Key) :
    Draining name (a.reap key) ∧ shrinks name a (a.reap key) := by
  obtain ⟨hentry, hworkspaces, hobjects⟩ := a.reap_frame key
  refine ⟨⟨((outside_reap a key).relies h.guarded).1, ?_, ?_, ?_⟩, ?_, fun o _ hhas =>
    (hobjects o hhas).1.has ▸ hhas⟩
  · exact fun i x hx => h.going i x ((hentry i).symm.trans hx)
  · intro o ho hhas
    obtain ⟨hsame, hcreator⟩ := hobjects o hhas
    rw [hcreator]
    exact h.created o ho (hsame.has ▸ hhas)
  · intro hgone
    rw [hentry] at hgone
    exact (congrArg (fun m : StrMap GatewayWorkspace => m[name]?) hworkspaces).trans (h.closed hgone)
  · exact fun i x hx _ => (hentry i).symm.trans hx

/-- What others do. -/
theorem Draining.aside (h : Draining name a) (haside : Aside name a a') :
    Draining name a' ∧ shrinks name a a' := by
  have hobjects : ∀ o : Object, o.workspace = name → a'.world.gateway.has o → a.world.gateway.has o :=
    fun o ho hhas => (haside.objects o ho).2.has ▸ hhas
  refine ⟨⟨(haside.outside.relies h.guarded).1, ?_, ?_, ?_⟩, ?_, hobjects⟩
  · exact fun i x hx htenant => h.going i x ((haside.resources i x htenant).mp hx) htenant
  · intro o ho hhas
    rw [(haside.objects o ho).1]
    exact h.created o ho (hobjects o ho hhas)
  · intro hgone
    refine haside.workspace.trans (h.closed ?_)
    cases hx : a.entry (Attributed.workspaceId name) with
    | none => rfl
    | some x => cases hgone.symm.trans ((haside.resources _ x (.inr rfl)).mpr hx)
  · exact fun i x hx htenant => (haside.resources i x htenant).mp hx

/-- **One event.**  Every event keeps the invariant, and nothing of the tenant appears. -/
theorem Draining.happens (hname : name ≠ defaultWorkspace) (e : Occurrence) (a a' : Attributed)
    (h : Draining name a) (he : Happens X name e a a') : Draining name a' ∧ shrinks name a a' := by
  cases e with
  | reconcile i =>
      obtain ⟨-, rfl⟩ | ⟨p, tr, r, hp, hs, -⟩ := he
      · exact ⟨h, (shrinks name).refl _⟩
      · exact h.steps hname hp hs
  | attempt i =>
      obtain ⟨p, tr, p', hp, hs⟩ := he
      exact h.steps hname hp hs
  | reap key =>
      cases he
      exact h.reap key
  | aside => exact h.aside he

end invariant

/-! ### Progress -/

section progress
variable {X : Externals} {name : String} {i : ResourceId} {a a' : Attributed} {w : World}
  {p : Op Action}

/-- A reconcile whose calls are all served comes to its outcome. -/
theorem served_world {tr : List (Call × Fate Outage)} {r : Except Error Action}
    (hs : Prog.Steps (Attributed.react X i) Rely.none p a tr (.done r) a')
    (hserved : ∀ cf ∈ tr, cf.2 = .served) : (p.outcome (World.serve X) a.world).1 = a'.world := by
  have hover := Prog.outcome_over (Attributed.over_react X i) .served p a
  rw [hs.outcome_eq hserved] at hover
  exact hover

/-- The cleanup of a sandbox or a provider returns, and leaves the resources alone. -/
theorem cleanup_returns (r : Resource) (hns : r.metadata.namespace_.isSome) :
    r.cleanup.Returns (World.serve X) w (fun _ w' => ∀ i, w'.cluster.entry i = w.cluster.entry i) := by
  cases r with
  | sandbox s =>
      obtain ⟨ns, hns⟩ := Option.isSome_iff_exists.mp hns
      have hdelete : ∃ outcome, (World.serve X w (SandboxController.deleteCall s)).2 = .ok outcome := by
        show ∃ outcome, (w.gateway.deleteSandbox _).2 = .ok outcome
        unfold Gateway.deleteSandbox
        split <;> exact ⟨_, rfl⟩
      obtain ⟨outcome, houtcome⟩ := hdelete
      refine Prog.Returns.bind (Prog.Returns.bind (Prog.returns_perform houtcome
        (Prog.returns_pure ?_)))
      show Prog.Returns _ (ite _ _ _) _ _
      split_ifs
      · have hvolumes : SandboxController.deleteProvisionedVolumes s s.metadata.name =
            kube (.deletePvcs ns (Volumes.selector s.metadata.name)) := by
          have hns' : s.metadata.namespace_ = some ns := hns
          rw [SandboxController.deleteProvisionedVolumes, hns']
        rw [hvolumes]
        refine Prog.Returns.bind (Prog.returns_perform rfl (Prog.returns_pure ?_))
        exact Cluster.entry_serve (fun hm => by cases hm) w.cluster
      · exact Prog.returns_pure (fun _ => rfl)
  | provider s =>
      have hdelete : ∃ outcome, (World.serve X w (ProviderController.deleteCall s)).2 = .ok outcome := by
        show ∃ outcome, (w.gateway.deleteProvider _).2 = .ok outcome
        unfold Gateway.deleteProvider
        split <;> exact ⟨_, rfl⟩
      obtain ⟨outcome, houtcome⟩ := hdelete
      exact Prog.Returns.bind (Prog.Returns.bind (Prog.returns_perform houtcome
        (Prog.returns_pure (Prog.returns_pure (fun _ => rfl)))))

/-- **A resource of the tenant goes** when it is reconciled without an outage. -/
theorem Draining.reconciled (hname : name ≠ defaultWorkspace) (h : Draining name a)
    (he : Happens X name (.reconcile i) a a') (x : Entry) (hx : a'.entry i = some x) :
    x.workspace ≠ some name := by
  intro hworkspace
  have hx₀ := (h.happens hname _ a a' he).2.1 i x hx (.inl hworkspace)
  obtain ⟨hgone, -⟩ | ⟨p, tr, r, hp, hs, hserved⟩ := he
  · cases hgone.symm.trans hx₀
  · have hgoing := h.going i x hx₀ (.inl hworkspace)
    obtain ⟨x', hx', hkey, ⟨r, now, hkind, hmeta, ⟨hns, -⟩ | rfl⟩ | ⟨ws, now, rfl, -⟩⟩ := hp.inv
    · cases hx₀.symm.trans hx'
      have hsome := hgoing.namespaced hkind
      rw [hns] at hsome
      cases hsome
    · cases hx₀.symm.trans hx'
      have hcleanup := cleanup_returns (X := X) (w := a.world) r (hmeta ▸ hgoing.namespaced hkind)
      obtain ⟨w', action, houtcome, hgone⟩ := finalizer_returns (r.apply X now) hgoing hkey
        (hcleanup.mono (fun _ _ hentry => (hentry i).trans hx₀))
      have hworld := served_world hs hserved
      rw [houtcome] at hworld
      have hgone' : a'.entry i = none := by
        rw [Attributed.entry, ← hworld]
        exact hgone
      cases hgone'.symm.trans hx
    · obtain ⟨ws', -, rfl⟩ := Option.map_eq_some_iff.mp hx₀
      cases hworkspace

/-- No resource refers to the workspace. -/
def Forsaken (name : String) (a : Attributed) : Prop :=
  ∀ i x, a.entry i = some x → x.workspace ≠ some name

/-- No object is in the workspace. -/
def Vacated (name : String) (a : Attributed) : Prop :=
  ∀ o : Object, o.workspace = name → a.world.gateway.has o = false

theorem Forsaken.shrinks (h : Forsaken name a) (hs : shrinks name a a') : Forsaken name a' :=
  fun i x hx hw => h i x (hs.1 i x hx (.inl hw)) hw

theorem Vacated.shrinks (h : Vacated name a) (hs : OpenShell.shrinks name a a') : Vacated name a' := by
  intro o ho
  by_contra hhas
  have hbefore := hs.2 o ho (by simpa using hhas)
  rw [h o ho] at hbefore
  cases hbefore

/-- What is still in a workspace to which no resource refers is not live. -/
theorem Draining.dead (h : Draining name a) (hf : Forsaken name a) {o : Object}
    (ho : o.workspace = name) (hhas : a.world.gateway.has o) : ¬ a.world.gateway.Live o := by
  intro hlive
  obtain ⟨j, hj⟩ := h.created o ho hhas
  obtain ⟨workspace, ⟨x, hx, hw, -⟩, hobject⟩ := h.guarded o j hj hlive
  rw [← ResourceId.workspace_of_object hobject, ho] at hw
  exact hf j x hx hw

/-- Such a sandbox is gone once its deletion is finished. -/
theorem Draining.reaped (h : Draining name a) (hf : Forsaken name a) {key : Key}
    (hkey : key.scope = name) : (a.reap key).world.gateway.has (.sandbox key) = false := by
  unfold Attributed.reap
  split_ifs with hdeleting
  · have hgone := (KeyMap.get?_erase a.world.gateway.sandboxes key key).trans (if_pos rfl)
    simp only [Gateway.has, hgone, Option.isSome_none]
  · by_contra hhas
    have hhas' : a.world.gateway.has (.sandbox key) = true := by simpa using hhas
    obtain ⟨sandbox, hsandbox⟩ := Option.isSome_iff_exists.mp hhas'
    refine h.dead hf (o := .sandbox key) hkey hhas' ⟨sandbox, hsandbox, ?_⟩
    simpa [hsandbox] using hdeleting

/-- The cleanup of a workspace to which nothing refers, and which is empty. -/
theorem workspace_cleanup_returns {ws : OpenShellWorkspace} (now : Time)
    (hname : ws.metadata.name ≠ defaultWorkspace) (hf : Forsaken ws.metadata.name a)
    (hv : Vacated ws.metadata.name a) :
    (WorkspaceController.cleanup now ws).Returns (World.serve X) a.world
      (fun _ w' => w'.cluster = a.world.cluster) := by
  have hsandboxes : WorkspaceController.sandboxRefs ws.metadata.name a.world.cluster.sandboxes.values = 0 := by
    refine List.countP_eq_zero.mpr (fun s hs heq => ?_)
    obtain ⟨key, hkey⟩ := (KeyMap.mem_values _).mp hs
    exact hf ⟨.sandbox, key⟩ _ (congrArg (Option.map _) hkey) (congrArg some (beq_iff_eq.mp heq))
  have hproviders : WorkspaceController.providerRefs ws.metadata.name a.world.cluster.providers.values = 0 := by
    refine List.countP_eq_zero.mpr (fun s hs heq => ?_)
    obtain ⟨key, hkey⟩ := (KeyMap.mem_values _).mp hs
    exact hf ⟨.provider, key⟩ _ (congrArg (Option.map _) hkey) (congrArg some (beq_iff_eq.mp heq))
  have hempty : a.world.gateway.occupied ws.metadata.name = false := by
    refine Bool.or_eq_false_iff.mpr ⟨KeyMap.any_eq_false _ (fun key s hs => ?_),
      KeyMap.any_eq_false _ (fun key s hs => ?_)⟩
    · refine beq_eq_false_iff_ne.mpr (fun hkey => ?_)
      have hgone := hv (.sandbox key) hkey
      simp only [Gateway.has, hs, Option.isSome_some, Bool.true_eq_false] at hgone
    · refine beq_eq_false_iff_ne.mpr (fun hkey => ?_)
      have hgone := hv (.provider key) hkey
      simp only [Gateway.has, hs, Option.isSome_some, Bool.true_eq_false] at hgone
  have hdelete : ∃ outcome,
      (World.serve X a.world (.rpc (.deleteWorkspace ws.metadata.name))).2 = .ok outcome := by
    show ∃ outcome, (a.world.gateway.deleteWorkspace _).2 = .ok outcome
    unfold Gateway.deleteWorkspace
    split
    · exact ⟨_, rfl⟩
    · rw [hempty]
      exact ⟨_, rfl⟩
  obtain ⟨outcome, houtcome⟩ := hdelete
  have hcount : (WorkspaceController.countReferencing ws.metadata.name).Returns (World.serve X) a.world
      (fun n w' => n = 0 ∧ w' = a.world) :=
    ⟨a.world, _, rfl, Nat.add_eq_zero_iff.mpr ⟨hsandboxes, hproviders⟩, rfl⟩
  show Prog.Returns _ (ite _ _ _) _ _
  rw [if_neg hname]
  refine Prog.Returns.bind (hcount.mono ?_)
  rintro _ _ ⟨rfl, rfl⟩
  exact Prog.Returns.bind (Prog.Returns.bind (Prog.Returns.bind (Prog.returns_perform houtcome
    (Prog.returns_pure (Prog.returns_pure (Prog.returns_pure rfl))))))

/-- **The workspace goes** when it is reconciled without an outage and nothing is left in it. -/
theorem Draining.workspace_reconciled (hname : name ≠ defaultWorkspace) (h : Draining name a)
    (hf : Forsaken name a) (hv : Vacated name a)
    (he : Happens X name (.reconcile (Attributed.workspaceId name)) a a') :
    a'.entry (Attributed.workspaceId name) = none := by
  obtain ⟨hgone, rfl⟩ | ⟨p, tr, r, hp, hs, hserved⟩ := he
  · exact hgone
  · obtain ⟨x, hx, hkey, ⟨r, now, hkind, -⟩ | ⟨ws, now, hi, rfl⟩⟩ := hp.inv
    · exact absurd rfl hkind
    · cases hi
      have hgoing := h.going _ x hx (.inr rfl)
      have hcleanup := workspace_cleanup_returns (X := X) now hname hf hv
      obtain ⟨w', action, houtcome, hgone⟩ := finalizer_returns
        (WorkspaceController.apply now ws) hgoing hkey
        (hcleanup.mono (fun _ _ hcluster => by rw [hcluster]; exact hx))
      have hworld := served_world hs hserved
      rw [houtcome] at hworld
      rw [Attributed.entry, ← hworld]
      exact hgone

end progress

/-! ### The stages of a teardown -/

section stages
variable {X : Externals} {name : String} {a a' : Attributed} {es : List Occurrence}

/-- Every run of events keeps the invariant, and nothing of the tenant appears. -/
theorem Draining.trace (hname : name ≠ defaultWorkspace) (hd : Draining name a)
    (h : Trace (Happens X name) a es a') : Draining name a' ∧ shrinks name a a' :=
  h.keeps (Draining.happens hname) hd

/-- Each resource that refers to the workspace goes, and none appears. -/
theorem Draining.forsaken (hname : name ≠ defaultWorkspace) (hd : Draining name a)
    (h : Trace (Happens X name) a es a')
    (hall : ∀ i x, a.entry i = some x → x.workspace = some name → .reconcile i ∈ es) :
    Forsaken name a' := by
  intro i x hx hw
  have hvisited := hall i x ((hd.trace hname h).2.1 i x hx (.inl hw)) hw
  refine h.settles (P := fun a => ∀ x, a.entry i = some x → x.workspace ≠ some name)
    (Draining.happens hname) (fun _ _ hd he => hd.reconciled hname he) ?_ hd hvisited x hx hw
  intro a a' hP hsh x hx hw
  exact hP x (hsh.1 i x hx (.inl hw)) hw

/-- What is left in the workspace then are sandboxes whose deletion has been accepted. -/
theorem Draining.vacated (hname : name ≠ defaultWorkspace) (hd : Draining name a)
    (hf : Forsaken name a) (h : Trace (Happens X name) a es a')
    (hall : ∀ key, a.world.gateway.has (.sandbox key) → key.scope = name → .reap key ∈ es) :
    Vacated name a' := by
  have hstep : ∀ e a a', Draining name a ∧ Forsaken name a → Happens X name e a a' →
      (Draining name a' ∧ Forsaken name a') ∧ shrinks name a a' := by
    rintro e a a' ⟨hd, hf⟩ he
    obtain ⟨hd', hsh⟩ := hd.happens hname e a a' he
    exact ⟨⟨hd', hf.shrinks hsh⟩, hsh⟩
  obtain ⟨⟨hd', hf'⟩, hs⟩ := h.keeps hstep ⟨hd, hf⟩
  intro o ho
  by_contra hhas
  have hhas' : a'.world.gateway.has o = true := by simpa using hhas
  cases o with
  | provider key => exact hd'.dead hf' ho hhas' hhas'
  | sandbox key =>
      have hfinished := hall key (hs.2 _ ho hhas') ho
      refine hhas (h.settles (P := fun a => a.world.gateway.has (.sandbox key) = false) hstep
        (fun _ _ hI he => he ▸ hI.1.reaped hI.2 ho) ?_ ⟨hd, hf⟩ hfinished)
      intro a a' hP hsh
      by_contra hback
      rw [hsh.2 (.sandbox key) ho (by simpa using hback)] at hP
      cases hP

/-- The workspace resource goes last. -/
theorem Draining.gone (hname : name ≠ defaultWorkspace) (hd : Draining name a) (hf : Forsaken name a)
    (hv : Vacated name a) (h : Trace (Happens X name) a es a')
    (hlast : .reconcile (Attributed.workspaceId name) ∈ es) :
    a'.entry (Attributed.workspaceId name) = none := by
  have hstep : ∀ e a a', Draining name a ∧ Forsaken name a ∧ Vacated name a → Happens X name e a a' →
      (Draining name a' ∧ Forsaken name a' ∧ Vacated name a') ∧ shrinks name a a' := by
    rintro e a a' ⟨hd, hf, hv⟩ he
    obtain ⟨hd', hsh⟩ := hd.happens hname e a a' he
    exact ⟨⟨hd', hf.shrinks hsh, hv.shrinks hsh⟩, hsh⟩
  refine h.settles (P := fun a => a.entry (Attributed.workspaceId name) = none) hstep
    (fun _ _ hI he => hI.1.workspace_reconciled hname hI.2.1 hI.2.2 he) ?_ ⟨hd, hf, hv⟩ hlast
  intro a a' hP hsh
  cases hx : a'.entry (Attributed.workspaceId name) with
  | none => rfl
  | some x => cases hP.symm.trans (hsh.1 _ x hx (.inr rfl))

end stages

/-! ### The result -/

/-- Nothing of the tenant is left. -/
structure TornDown (name : String) (a : Attributed) : Prop where
  resources : ∀ i x, a.entry i = some x → ¬ Tenant name i x
  objects : ∀ o : Object, o.workspace = name → a.world.gateway.has o = false
  workspace : a.world.gateway.workspaces[name]? = none

/-- **A teardown completes.**  Take any state that the reconciles reach, side by side and with any
outages, in which the deletion of a workspace and of everything that refers to it has been requested,
and in which every object in the workspace was created by a resource.  Whatever happens from then on
and in whatever order: once each resource that refers to the workspace has been reconciled without an
outage, then the deletion of each sandbox left in it has been finished, and then the workspace has
been reconciled without an outage, nothing of the tenant is left. -/
theorem teardown_completes (X : Externals) (w : World)
    (s : Conf ResourceId Call.Answer Error Action Attributed)
    (hs : TenantReach X (Conf.idle (.unclaimed w)) s) (name : String) (hname : name ≠ defaultWorkspace)
    (hworkspace : (s.world.entry (Attributed.workspaceId name)).isSome)
    (hgoing : ∀ i x, s.world.entry i = some x → Tenant name i x → x.Going i.kind)
    (hcreated : ∀ o : Object, o.workspace = name → s.world.world.gateway.has o →
      ∃ j, s.world.creator o = some j)
    (es₁ es₂ es₃ : List Occurrence) (a₁ a₂ a₃ : Attributed)
    (h₁ : Trace (Happens X name) s.world es₁ a₁)
    (hreconciled : ∀ i x, s.world.entry i = some x → x.workspace = some name → .reconcile i ∈ es₁)
    (h₂ : Trace (Happens X name) a₁ es₂ a₂)
    (hreaped : ∀ key, a₁.world.gateway.has (.sandbox key) → key.scope = name → .reap key ∈ es₂)
    (h₃ : Trace (Happens X name) a₂ es₃ a₃)
    (hlast : .reconcile (Attributed.workspaceId name) ∈ es₃) : TornDown name a₃ := by
  have hd : Draining name s.world := by
    refine ⟨(guarded_reach hs).1, hgoing, hcreated, fun hgone => ?_⟩
    rw [hgone] at hworkspace
    cases hworkspace
  have hf₁ := hd.forsaken hname h₁ hreconciled
  obtain ⟨hd₁, -⟩ := hd.trace hname h₁
  have hv₂ := hd₁.vacated hname hf₁ h₂ hreaped
  obtain ⟨hd₂, hs₂⟩ := hd₁.trace hname h₂
  have hf₂ := hf₁.shrinks hs₂
  have hgone := hd₂.gone hname hf₂ hv₂ h₃ hlast
  obtain ⟨hd₃, hs₃⟩ := hd₂.trace hname h₃
  refine ⟨?_, hv₂.shrinks hs₃, hd₃.closed hgone⟩
  rintro i x hx (hw | rfl)
  · exact hf₂.shrinks hs₃ i x hx hw
  · cases hgone.symm.trans hx

/-- A resource that is there can be reconciled. -/
theorem happens_reconcile {X : Externals} {name : String} {i : ResourceId} {a : Attributed}
    {p : Op Action} (h : ReconcileNow X i a p) :
    Happens X name (.reconcile i) a (p.outcome (fun a c => Attributed.react X i a c .served) a).1 := by
  obtain ⟨tr, hs, hserved⟩ := Prog.exists_steps_outcome (Attributed.react X i) Rely.none .served p a
  exact .inr ⟨p, tr, _, h, hs, hserved⟩

namespace Sample

/-- The workspace is reconciled first, and its deletion refused. -/
def labRefused : Attributed :=
  ((WorkspaceController.reconcile 0 lab).outcome (fun a c =>
    Attributed.react versionExternals (Attributed.workspaceId "lab") a c .served) labRequested).1

/-- The sandbox as it stands then. -/
def labBoxNow : OpenShellSandbox :=
  labRefused.world.cluster.sandboxes[(⟨"team", "box"⟩ : Key)]?.getD (labBox none)

/-- The sandbox is cleaned up. -/
def labEmptied : Attributed :=
  ((SandboxController.reconcile versionExternals 0 labBoxNow).outcome (fun a c =>
    Attributed.react versionExternals labBoxId a c .served) labRefused).1

/-- The workspace is refused while its sandbox is there, the sandbox is cleaned up, the gateway
finishes, and the workspace goes: nothing of `lab` is left. -/
theorem lab_torn_down : ∃ a₃,
    Trace (Happens versionExternals "lab") labRequested
      [.reconcile (Attributed.workspaceId "lab"), .reconcile labBoxId] labEmptied ∧
    Trace (Happens versionExternals "lab") labEmptied [.reap ⟨"lab", "box"⟩]
      (labEmptied.reap ⟨"lab", "box"⟩) ∧
    Trace (Happens versionExternals "lab") (labEmptied.reap ⟨"lab", "box"⟩)
      [.reconcile (Attributed.workspaceId "lab")] a₃ ∧
    TornDown "lab" a₃ := by
  have hsandboxes : ∀ e ∈ labRequested.world.cluster.sandboxes.toList, e.1 = ⟨"team", "box"⟩ ∧
      e.2.metadata.finalizers = [SandboxController.finalizerName] ∧
      e.2.metadata.deletionTimestamp.isSome ∧ e.2.metadata.namespace_.isSome := by decide +kernel
  have hproviders : labRequested.world.cluster.providers.toList = [] := by decide +kernel
  have hworkspaces : ∀ e ∈ labRequested.world.cluster.workspaces.toList,
      e.2.metadata.finalizers = [WorkspaceController.finalizerName] ∧
      e.2.metadata.deletionTimestamp.isSome := by decide +kernel
  have hentries : ∀ i x, labRequested.entry i = some x →
      x.Going i.kind ∧ (x.workspace = some "lab" → i = labBoxId) := by
    generalize labRequested = a at hsandboxes hproviders hworkspaces ⊢
    rintro ⟨kind, key⟩ x hx
    cases kind with
    | sandbox =>
        obtain ⟨s, hs, rfl⟩ := Option.map_eq_some_iff.mp hx
        obtain ⟨hkey, hf, hd, hns⟩ := hsandboxes _ (KeyMap.mem_toList hs)
        refine ⟨⟨hf, hd, fun _ => hns⟩, fun _ => ?_⟩
        cases hkey
        rfl
    | provider =>
        obtain ⟨s, hs, rfl⟩ := Option.map_eq_some_iff.mp hx
        have hmem := KeyMap.mem_toList hs
        rw [hproviders] at hmem
        cases hmem
    | workspace =>
        obtain ⟨s, hs, rfl⟩ := Option.map_eq_some_iff.mp hx
        obtain ⟨hf, hd⟩ := hworkspaces _ (KeyMap.mem_toList hs)
        exact ⟨⟨hf, hd, fun hne => absurd rfl hne⟩, fun hw => by cases hw⟩
  have hobjects : ∀ o : Object, labRequested.world.gateway.has o →
      o = .sandbox ⟨"lab", "box"⟩ := by
    have hboxes : ∀ e ∈ labRequested.world.gateway.sandboxes.toList, e.1 = ⟨"lab", "box"⟩ := by
      decide +kernel
    have hnone : labRequested.world.gateway.providers.toList = [] := by decide +kernel
    generalize labRequested = a at hboxes hnone ⊢
    intro o hhas
    cases o with
    | sandbox key =>
        obtain ⟨s, hs⟩ := Option.isSome_iff_exists.mp hhas
        exact congrArg Object.sandbox (hboxes _ (KeyMap.mem_toList hs))
    | provider key =>
        obtain ⟨s, hs⟩ := Option.isSome_iff_exists.mp hhas
        have hmem := KeyMap.mem_toList hs
        rw [hnone] at hmem
        cases hmem
  have hboxes : ∀ e ∈ labEmptied.world.gateway.sandboxes.toList, e.1 = ⟨"lab", "box"⟩ := by
    decide +kernel
  have hrefuse : ReconcileNow versionExternals (Attributed.workspaceId "lab") labRequested
      (WorkspaceController.reconcile 0 lab) := ⟨0, lab, rfl, rfl, by decide +kernel, rfl⟩
  have hstored : ∀ {β : Type} {v : Option β} (d : β), v.isSome → v = some (v.getD d) := by
    rintro β (_ | v) d h
    · cases h
    · rfl
  have hclean : ReconcileNow versionExternals labBoxId labRefused
      (SandboxController.reconcile versionExternals 0 labBoxNow) :=
    ⟨0, labBoxNow, by decide +kernel, hstored _ (by decide +kernel), rfl⟩
  obtain ⟨ws, hws, hmeta⟩ := (Option.any_eq_true (fun ws : OpenShellWorkspace =>
    ws.metadata.key == ⟨"", "lab"⟩ && ws.metadata.namespace_ == none)
    (labEmptied.reap ⟨"lab", "box"⟩).world.cluster.workspaces[(⟨"", "lab"⟩ : Key)]?).mp
    (by decide +kernel)
  have hmeta' := Bool.and_eq_true_iff.mp hmeta
  have hlast : ReconcileNow versionExternals (Attributed.workspaceId "lab")
      (labEmptied.reap ⟨"lab", "box"⟩) (WorkspaceController.reconcile 0 ws) :=
    ⟨0, ws, beq_iff_eq.mp hmeta'.1, beq_iff_eq.mp hmeta'.2, hws, rfl⟩
  have h₁ : Trace (Happens versionExternals "lab") labRequested
      [.reconcile (Attributed.workspaceId "lab"), .reconcile labBoxId] labEmptied :=
    .cons (happens_reconcile hrefuse) (.cons (happens_reconcile hclean) (.nil _))
  have h₂ : Trace (Happens versionExternals "lab") labEmptied [.reap ⟨"lab", "box"⟩]
      (labEmptied.reap ⟨"lab", "box"⟩) := .cons rfl (.nil _)
  have h₃ : Trace (Happens versionExternals "lab") (labEmptied.reap ⟨"lab", "box"⟩)
      [.reconcile (Attributed.workspaceId "lab")] _ := .cons (happens_reconcile hlast) (.nil _)
  refine ⟨_, h₁, h₂, h₃, teardown_completes versionExternals labWorld _ lab_requested_reach "lab"
    (by decide) (by decide +kernel) (fun i x hx _ => (hentries i x hx).1) ?_ _ _ _ _ _ _ h₁ ?_ h₂ ?_ h₃
    List.mem_cons_self⟩
  · intro o _ hhas
    rw [hobjects o hhas]
    exact ⟨labBoxId, by decide +kernel⟩
  · intro i x hx hw
    rw [(hentries i x hx).2 hw]
    exact List.mem_cons_of_mem _ List.mem_cons_self
  · intro key hhas _
    obtain ⟨s, hs⟩ := Option.isSome_iff_exists.mp hhas
    have hkey : key = ⟨"lab", "box"⟩ := hboxes _ (KeyMap.mem_toList hs)
    rw [hkey]
    exact List.mem_cons_self

end Sample
end OpenShell
