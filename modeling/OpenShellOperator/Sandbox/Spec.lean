import OpenShellOperator.GatewaySpec
import OpenShellOperator.Sandbox.Reconcile

/-! # What a sandbox reconcile can do

`Upkeep` are the calls of a reconcile that neither create nor delete the sandbox nor write
its status; `ApplyCall` are all of them.  Every step of `converge` but the create and the
recreate stays inside the upkeep, and `apply` inside `ApplyCall`.  `resolve_safe` says which
policy a reconcile works with: the one the cluster had when it was read. -/

namespace OpenShell
open Wire Effects

namespace SandboxController

/-! ### Footprints -/

/-- The calls that look after a sandbox: its claims, its lookup and its policy, its providers
and its mutable policy sections, and events. -/
inductive Upkeep (ns : String) (sandbox : OpenShellSandbox) : Call → Prop
  | getPvc (pvcName : String) : Upkeep ns sandbox (.kube (.getPvc ns pvcName))
  | createPvc {volume : SandboxVolume} : volume ∈ sandbox.spec.volumes →
      Upkeep ns sandbox (.kube (.createPvc ns
        (Volumes.buildPvc sandbox.metadata.name sandbox.spec.workspaceOf volume)))
  | patchPvc {volume : SandboxVolume} : volume ∈ sandbox.spec.volumes →
      Upkeep ns sandbox (.kube (.patchPvcLabels ns (Volumes.pvcName sandbox.metadata.name volume)
        (Volumes.admissionLabels sandbox.spec.workspaceOf)))
  | getPolicy (name : String) : Upkeep ns sandbox (.kube (.getPolicy ns name))
  | getSandbox : Upkeep ns sandbox
      (.rpc (.getSandbox sandbox.metadata.name (workspaceScope sandbox.spec.workspaceOf)))
  | attach (provider : String) : Upkeep ns sandbox (.rpc (.attachSandboxProvider
      sandbox.metadata.name provider (workspaceScope sandbox.spec.workspaceOf)))
  | detach (provider : String) : Upkeep ns sandbox (.rpc (.detachSandboxProvider
      sandbox.metadata.name provider (workspaceScope sandbox.spec.workspaceOf)))
  | update (policy : SandboxPolicy) : Upkeep ns sandbox (.rpc (.updateConfig
      ⟨sandbox.metadata.name, some policy, some (workspaceScope sandbox.spec.workspaceOf)⟩))
  | publish (event : Event) : Upkeep ns sandbox (.kube (.publish .sandbox sandbox.metadata.key event))

/-- The create call for a resolved policy. -/
def createCall (sandbox : OpenShellSandbox) (policy : Option SandboxPolicy) : Call :=
  .rpc (.createSandbox (createSandboxRequest
    (buildSandboxCreate sandbox.metadata.name sandbox.spec policy)))

/-- The delete call. -/
def deleteCall (sandbox : OpenShellSandbox) : Call :=
  .rpc (.deleteSandbox sandbox.metadata.name (workspaceScope sandbox.spec.workspaceOf))

/-- The calls of an apply. -/
inductive ApplyCall (ns : String) (sandbox : OpenShellSandbox) : Call → Prop
  | upkeep {c : Call} : Upkeep ns sandbox c → ApplyCall ns sandbox c
  | create (policy : Option SandboxPolicy) : ApplyCall ns sandbox (createCall sandbox policy)
  | delete : ApplyCall ns sandbox (deleteCall sandbox)
  | status (status : OpenShellSandboxStatus) :
      ApplyCall ns sandbox (.kube (.patchSandboxStatus ns sandbox.metadata.name status))

section footprints
variable {X : Externals} {ns : String} {sandbox : OpenShellSandbox}

theorem ensurePvcs_calls :
    (ensurePvcs ns sandbox.metadata.name sandbox.spec).Calls (Upkeep ns sandbox) := by
  refine Prog.Calls.forM _ (fun volume hv => ?_)
  refine Prog.Calls.bind (Prog.calls_perform (.getPvc _)) (fun found => ?_)
  cases found with
  | none => exact Prog.calls_perform (.createPvc hv)
  | some existing =>
      show Prog.Calls _ (ite _ _ _)
      split_ifs
      · exact Prog.calls_perform (.patchPvc hv)
      · exact Prog.calls_pure _

theorem getSandbox_calls {P : Call → Prop} {name workspace : String}
    (h : P (.rpc (.getSandbox name (workspaceScope workspace)))) :
    (SdkGateway.getSandbox name workspace).Calls P := by
  refine Prog.Calls.bind (Prog.Calls.bind (Prog.calls_perform h).attempt (fun r => ?_))
    (fun _ => Prog.calls_pure _)
  cases r with
  | ok found => exact Prog.calls_pure _
  | error err =>
      show Prog.Calls _ (ite _ _ _)
      split_ifs
      · exact Prog.calls_pure _
      · exact Prog.calls_fail _

theorem fetchSource_calls : (fetchSource ns sandbox.spec).Calls (Upkeep ns sandbox) := by
  refine Prog.Calls.bind (Prog.calls_done _) (fun source => ?_)
  cases source with
  | none => exact Prog.calls_pure _
  | inline policy => exact Prog.calls_pure _
  | ref name =>
      refine Prog.Calls.bind (Prog.calls_perform (.getPolicy name)) (fun found => ?_)
      cases found with
      | none => exact Prog.calls_fail _
      | some policy => exact Prog.calls_pure _

theorem resolve_calls : (resolve X ns sandbox.spec).Calls (Upkeep ns sandbox) :=
  Prog.Calls.bind fetchSource_calls
    (fun _ => Prog.Calls.bind (Prog.calls_done _) (fun _ => Prog.calls_pure _))

theorem convergeProviders_calls (desired : List String) (existing : SandboxState) :
    (convergeProviders sandbox.metadata.name desired existing sandbox.spec.workspaceOf).Calls
      (Upkeep ns sandbox) := by
  refine Prog.Calls.bind (Prog.Calls.forM _ (fun provider _ => ?_))
    (fun _ => Prog.Calls.forM _ (fun provider _ => ?_))
  · exact Prog.calls_perform (.attach provider)
  · exact Prog.calls_perform (.detach provider)

theorem recordEvent_calls (event : Event) :
    (recordEvent .sandbox sandbox.metadata.key event).Calls (Upkeep ns sandbox) :=
  Prog.Calls.bind (Prog.calls_perform (.publish event)).attempt (fun _ => Prog.calls_pure _)

theorem updatePolicyIfDrifted_calls (policy : Option SandboxPolicy) (prior : Option String)
    (desired : String) :
    (updatePolicyIfDrifted sandbox.metadata.name sandbox policy prior desired).Calls
      (Upkeep ns sandbox) := by
  cases policy with
  | none => exact Prog.calls_pure _
  | some policy =>
      show Prog.Calls _ (ite _ _ _)
      split_ifs
      · refine Prog.Calls.bind (recordEvent_calls _) (fun _ => ?_)
        refine Prog.Calls.bind (Prog.calls_perform (.update policy)).attempt (fun r => ?_)
        cases r with
        | ok u => exact Prog.calls_pure _
        | error err => exact Prog.calls_fail _
      · exact Prog.calls_pure _

theorem create_calls {P : Call → Prop} {policy : Option SandboxPolicy}
    (h : P (createCall sandbox policy)) :
    (create sandbox.metadata.name sandbox policy).Calls P := by
  refine Prog.Calls.bind (Prog.calls_perform h) (fun found => ?_)
  cases found with
  | none => exact Prog.calls_fail _
  | some state => exact Prog.calls_pure _

theorem awaitGone_calls (policy : Option SandboxPolicy) : ∀ attempts,
    (awaitGone sandbox.metadata.name sandbox policy attempts).Calls (ApplyCall ns sandbox)
  | 0 => Prog.calls_fail _
  | attempts + 1 => by
      refine Prog.Calls.bind (getSandbox_calls (.upkeep .getSandbox)) (fun found => ?_)
      cases found with
      | none => exact create_calls (.create policy)
      | some state => exact awaitGone_calls policy attempts

theorem converge_calls :
    (converge X ns sandbox.metadata.name sandbox).Calls (ApplyCall ns sandbox) := by
  have hup : ∀ {α : Type} {p : Op α}, p.Calls (Upkeep ns sandbox) → p.Calls (ApplyCall ns sandbox) :=
    fun h => h.mono (fun _ => .upkeep)
  refine Prog.Calls.bind (Prog.calls_done _) (fun _ => ?_)
  refine Prog.Calls.bind (hup ensurePvcs_calls) (fun _ => ?_)
  refine Prog.Calls.bind (getSandbox_calls (.upkeep .getSandbox)) (fun existing => ?_)
  refine Prog.Calls.bind (hup resolve_calls.attempt) (fun resolved => ?_)
  cases existing with
  | none =>
      cases resolved with
      | ok resolved =>
          exact Prog.Calls.bind (create_calls (.create resolved.proto)) (fun _ => Prog.calls_pure _)
      | error err => exact Prog.calls_fail _
  | some existing =>
      cases resolved with
      | ok resolved =>
          show Prog.Calls _ (ite _ _ _)
          split_ifs
          · refine Prog.Calls.bind (hup (recordEvent_calls _)) (fun _ => ?_)
            refine Prog.Calls.bind ?_ (fun _ => Prog.calls_pure _)
            exact Prog.Calls.bind (Prog.Calls.bind (Prog.calls_perform .delete)
              (fun _ => Prog.calls_pure _)) (fun _ => awaitGone_calls resolved.proto _)
          · refine Prog.Calls.bind (hup (convergeProviders_calls _ existing)) (fun _ => ?_)
            exact Prog.Calls.bind (hup (updatePolicyIfDrifted_calls _ _ _))
              (fun _ => Prog.calls_pure _)
      | error err =>
          exact Prog.Calls.bind (hup (convergeProviders_calls _ existing))
            (fun _ => Prog.calls_fail _)

/-- **The calls of an apply.** -/
theorem apply_calls (now : Time) (hns : sandbox.metadata.namespace_ = some ns) :
    (apply X now sandbox).Calls (ApplyCall ns sandbox) := by
  unfold apply
  rw [hns]
  refine Prog.Calls.bind converge_calls.attempt (fun outcome => ?_)
  cases outcome with
  | ok converged => exact Prog.Calls.bind (Prog.calls_perform (.status _)) (fun _ => Prog.calls_pure _)
  | error err =>
      refine Prog.Calls.bind ((recordEvent_calls _).mono (fun _ => .upkeep)) (fun _ => ?_)
      exact Prog.Calls.bind (Prog.calls_perform (.status _)).attempt (fun _ => Prog.calls_fail _)

end footprints

/-! ### The policy a reconcile works with -/

/-- The source of the policy as the cluster has it. -/
def sourceIn (k : Cluster) (ns : String) (spec : OpenShellSandboxSpec) :
    Except Error (Option OpenShellPolicySpec) :=
  match selectPolicySource spec with
  | .error err => .error err
  | .ok .none => .ok none
  | .ok (.inline policy) => .ok (some policy)
  | .ok (.ref name) =>
      match k.policies[(⟨ns, name⟩ : Key)]? with
      | some policy => .ok (some policy)
      | none => .error (.policyNotFound ns name)

/-- The policy as the cluster has it. -/
def resolvedIn (X : Externals) (k : Cluster) (ns : String) (spec : OpenShellSandboxSpec) :
    Except Error ResolvedPolicy := do
  let source ← sourceIn k ns spec
  let proto ← resolvedProto X source
  pure ⟨source, proto⟩

section policy
variable {X : Externals} {W : Type}
  {react : W → (c : Call) → Fate Outage → W × Except Error c.Answer} {view : W → World}
  {R : Rely W} {G : W → Call → Prop} {w : W} {ns : String} {spec : OpenShellSandboxSpec}

/-- The world in which the policy was read, and the one that call left. -/
def PolicyRead (react : W → (c : Call) → Fate Outage → W × Except Error c.Answer) (R : Rely W)
    (ns : String) (w' w'' : W) : Prop :=
  R w' w'' ∨ ∃ name f, R (react w' (.kube (.getPolicy ns name)) f).1 w''

theorem PolicyRead.trans {w₁ w₂ w₃ : W} (h : PolicyRead react R ns w₁ w₂) (h' : R w₂ w₃) :
    PolicyRead react R ns w₁ w₃ := by
  rcases h with h | ⟨name, f, h⟩
  · exact .inl (R.trans h h')
  · exact .inr ⟨name, f, R.trans h h'⟩

theorem fetchSource_safe (hO : Over (World.react X) react view)
    (hG : ∀ w' name, R w w' → G w' (.kube (.getPolicy ns name)))
    {Q : Except Error (Option OpenShellPolicySpec) → W → Prop}
    (hQ : ∀ w' w'', R w w' → PolicyRead react R ns w' w'' → ∀ r,
      (∀ source, r = .ok source → sourceIn (view w').cluster ns spec = .ok source) → Q r w'') :
    (fetchSource ns spec).Safe react R G Q w := by
  have hnow : ∀ r, (∀ source, r = .ok source → sourceIn (view w).cluster ns spec = .ok source) →
      ∀ w'', R w w'' → Q r w'' :=
    fun r hr w'' hw => hQ w w'' (R.refl w) (.inl hw) r hr
  unfold fetchSource
  cases hs : selectPolicySource spec with
  | error err => exact hnow (.error err) (fun _ h => by cases h)
  | ok source =>
      cases source with
      | none => exact hnow (.ok none) (fun _ h => by rw [← Except.ok.inj h, sourceIn, hs])
      | inline policy =>
          exact hnow (.ok (some policy)) (fun _ h => by rw [← Except.ok.inj h, sourceIn, hs])
      | ref name =>
          show Prog.Safe _ _ _ _ (kube (.getPolicy ns name) >>= _) w
          refine Prog.Safe.bind (Prog.safe_perform (fun w' hw => ⟨hG w' name hw, ?_⟩))
          intro f w₁ hw₁
          have hread : ∀ w₂, R w₁ w₂ → PolicyRead react R ns w' w₂ :=
            fun w₂ hw₂ => .inr ⟨name, f, R.trans hw₁ hw₂⟩
          cases hr : (react w' (.kube (.getPolicy ns name)) f).2 with
          | error err => exact fun w₂ hw₂ => hQ w' w₂ hw (hread w₂ hw₂) (.error err) (fun _ h => by cases h)
          | ok found =>
              rw [hO.answer] at hr
              have hfound : (view w').cluster.policies[(⟨ns, name⟩ : Key)]? = found :=
                Except.ok.inj (respond_ok hr).2
              cases found with
              | none =>
                  exact fun w₂ hw₂ => hQ w' w₂ hw (hread w₂ hw₂) (.error _) (fun _ h => by cases h)
              | some policy =>
                  exact fun w₂ hw₂ => hQ w' w₂ hw (hread w₂ hw₂) (.ok (some policy))
                    (fun _ h => by simp only [← Except.ok.inj h, sourceIn, hs, hfound])

/-- **Resolving.**  A policy that resolves is the one the cluster had when it was read. -/
theorem resolve_safe (hO : Over (World.react X) react view)
    (hG : ∀ w' name, R w w' → G w' (.kube (.getPolicy ns name)))
    {Q : Except Error ResolvedPolicy → W → Prop}
    (hQ : ∀ w' w'', R w w' → PolicyRead react R ns w' w'' → ∀ r,
      (∀ resolved, r = .ok resolved → resolvedIn X (view w').cluster ns spec = .ok resolved) →
      Q r w'') :
    (resolve X ns spec).Safe react R G Q w := by
  refine Prog.Safe.bind (fetchSource_safe hO hG ?_)
  intro w' w₁ hw hread r hr
  cases r with
  | error err =>
      exact fun w₂ hw₂ => hQ w' w₂ hw (hread.trans hw₂) (.error err) (fun _ h => by cases h)
  | ok source =>
      have hres : resolvedIn X (view w').cluster ns spec =
          (resolvedProto X source).map (fun proto => ⟨source, proto⟩) := by
        rw [resolvedIn, hr source rfl]
        cases hp : resolvedProto X source <;>
          simp only [bind, Except.bind, pure, Except.pure, Except.map, hp]
      cases hp : resolvedProto X source with
      | error err =>
          simp only [Prog.Then, Op.lift, hp, Prog.done_error_bind]
          exact fun w₂ hw₂ => hQ w' w₂ hw (hread.trans hw₂) (.error err) (fun _ h => by cases h)
      | ok proto =>
          simp only [Prog.Then, Op.lift, hp, Prog.done_ok_bind]
          intro w₂ hw₂
          refine hQ w' w₂ hw (hread.trans hw₂) (.ok ⟨source, proto⟩) (fun _ h => ?_)
          rw [hres, hp, ← Except.ok.inj h]
          rfl

end policy

/-! ### The resource and its sandbox -/

theorem hashDrifted_eq_false {hash : Option String} {desired : String}
    (h : hashDrifted hash desired = false) : ∀ hash', hash = some hash' → hash' = desired := by
  rintro hash' rfl
  simpa [hashDrifted] using h

/-- The spec hash recorded on the resource. -/
def recorded (key : Key) (w : World) : Option String :=
  (w.cluster.sandboxes[key]?.bind (·.status)).bind (·.appliedSpecHash)

/-- The sandbox of the resource on the gateway. -/
def live (key : Key) (workspace : String) (w : World) : Option GatewaySandbox :=
  w.gateway.sandboxes[(workspaceScope workspace).key key.name]?

/-! ### What the calls of a reconcile leave alone -/

section frame
variable {X : Externals} {w : World} {ns : String} {sandbox : OpenShellSandbox} {c : Call}

theorem createPvc_frame (k : Cluster) (ns : String) (pvc : PersistentVolumeClaim) :
    (k.createPvc ns pvc).1.sandboxes = k.sandboxes ∧ (k.createPvc ns pvc).1.policies = k.policies := by
  unfold Cluster.createPvc
  split <;> exact ⟨rfl, rfl⟩

theorem patchPvcLabels_frame (k : Cluster) (ns name : String) (labels : StrMap String) :
    (k.patchPvcLabels ns name labels).1.sandboxes = k.sandboxes ∧
      (k.patchPvcLabels ns name labels).1.policies = k.policies := by
  unfold Cluster.patchPvcLabels
  split <;> exact ⟨rfl, rfl⟩

theorem patchSandboxStatus_policies (k : Cluster) (key : Key) (status : OpenShellSandboxStatus) :
    (k.patchSandboxStatus key status).1.policies = k.policies := by
  unfold Cluster.patchSandboxStatus
  split <;> rfl

/-- Upkeep changes neither the resources nor the policies of the cluster. -/
theorem upkeep_frame (h : Upkeep ns sandbox c) :
    (World.serve X w c).1.cluster.sandboxes = w.cluster.sandboxes ∧
      (World.serve X w c).1.cluster.policies = w.cluster.policies := by
  cases h with
  | createPvc hv => exact createPvc_frame _ _ _
  | patchPvc hv => exact patchPvcLabels_frame _ _ _ _
  | _ => exact ⟨rfl, rfl⟩

/-- A status patch records its hash, if it has one and the resource is there. -/
theorem recorded_patch (key : Key) (status : OpenShellSandboxStatus) :
    recorded key (World.serve X w (.kube (.patchSandboxStatus key.scope key.name status))).1 =
      if w.cluster.sandboxes[key]?.isSome then status.appliedSpecHash.or (recorded key w)
      else none := by
  show recorded key { w with cluster := (w.cluster.patchSandboxStatus key status).1 } = _
  unfold Cluster.patchSandboxStatus recorded
  cases hs : w.cluster.sandboxes[key]? with
  | none => simp [hs]
  | some o => cases ho : o.status <;>
      simp [Cluster.mergeSandboxStatus, Cluster.mergeField, ho]

theorem resolvedIn_congr {k k' : Cluster} (h : k.policies = k'.policies) (ns : String)
    (spec : OpenShellSandboxSpec) : resolvedIn X k ns spec = resolvedIn X k' ns spec := by
  unfold resolvedIn sourceIn
  rw [h]

end frame

/-! ### What the calls of a reconcile do to the sandbox -/

section requests
variable {X : Externals} {w : World} {ns : String} {sandbox : OpenShellSandbox} {c : Call}

theorem modifySandbox_request {g : Gateway} {key k : Key}
    {f : GatewaySandbox → Except Error GatewaySandbox} {s' : GatewaySandbox}
    (hf : ∀ s s', f s = .ok s' → s'.request = s.request)
    (h : (g.modifySandbox key f).1.sandboxes[k]? = some s') :
    ∃ s, g.sandboxes[k]? = some s ∧ s.request = s'.request := by
  unfold Gateway.modifySandbox at h
  split at h
  · exact ⟨s', h, rfl⟩
  · rename_i s hs
    split at h
    · rename_i s₁ hs₁
      rw [KeyMap.get?_insert] at h
      split_ifs at h with hk
      · subst hk
        rw [← Option.some.inj h]
        exact ⟨s, hs, (hf s s₁ hs₁).symm⟩
      · exact ⟨s', h, rfl⟩
    · exact ⟨s', h, rfl⟩

theorem attach_request {g : Gateway} {scope : WorkspaceSelector} {provider : String}
    {s s' : GatewaySandbox} (h : g.attach scope provider s = .ok s') : s'.request = s.request := by
  unfold Gateway.attach at h
  split at h <;> cases h
  rfl

theorem updateConfig_request {accepts : Option SandboxPolicy → SandboxPolicy → Bool}
    {policy : Option SandboxPolicy} {s s' : GatewaySandbox}
    (h : Gateway.updateConfig accepts policy s = .ok s') : s'.request = s.request := by
  unfold Gateway.updateConfig at h
  split at h
  · cases h
    rfl
  · split_ifs at h
    cases h
    rfl

theorem deleteSandbox_request {g : Gateway} {key k : Key} {s' : GatewaySandbox}
    (h : (g.deleteSandbox key).1.sandboxes[k]? = some s') :
    ∃ s, g.sandboxes[k]? = some s ∧ s.request = s'.request := by
  unfold Gateway.deleteSandbox at h
  split at h
  · rename_i s hs
    rw [KeyMap.get?_insert] at h
    split_ifs at h with hk
    · subst hk
      rw [← Option.some.inj h]
      exact ⟨s, hs, rfl⟩
    · exact ⟨s', h, rfl⟩
  · exact ⟨s', h, rfl⟩

/-- The key a create stores its sandbox under. -/
theorem requestKey_create {name workspace : String} {spec : OpenShellSandboxSpec}
    (hws : spec.workspaceOf = workspace) (proto : Option SandboxPolicy) :
    Gateway.requestKey (createSandboxRequest (buildSandboxCreate name spec proto)) =
      (workspaceScope workspace).key name := by
  rw [← hws]
  rfl

/-- A create where there is no sandbox stores the new one and reports it. -/
theorem serve_create {key : Key} {workspace : String} {request : CreateSandboxRequest}
    (hkey : Gateway.requestKey request = (workspaceScope workspace).key key.name)
    (hgone : live key workspace w = none) :
    live key workspace (World.serve X w (.rpc (.createSandbox request))).1 =
        some (Gateway.newSandbox ("sb-" ++ Nat.repr w.gateway.nextId) request) ∧
      (World.serve X w (.rpc (.createSandbox request))).2 =
        .ok (some (Gateway.report
          (Gateway.newSandbox ("sb-" ++ Nat.repr w.gateway.nextId) request))) := by
  have hfree : w.gateway.sandboxes[Gateway.requestKey request]? = none := by
    rw [hkey]
    exact hgone
  have hcreate := Gateway.createSandbox_of_none hfree
  constructor
  · show (w.gateway.createSandbox request).1.sandboxes[_]? = _
    rw [hcreate, hkey, KeyMap.get?_insert, if_pos rfl]
  · exact congrArg Prod.snd hcreate

/-- Upkeep and deletion create no sandbox. -/
theorem upkeep_request (hc : Upkeep ns sandbox c ∨ c = deleteCall sandbox) {k : Key}
    {s' : GatewaySandbox} (h : (World.serve X w c).1.gateway.sandboxes[k]? = some s') :
    ∃ s, w.gateway.sandboxes[k]? = some s ∧ s.request = s'.request := by
  rcases hc with hc | rfl
  · cases hc with
    | attach provider => exact modifySandbox_request (fun _ _ => attach_request) h
    | detach provider =>
        refine modifySandbox_request (fun s s' hs => ?_) h
        cases hs
        rfl
    | update policy => exact modifySandbox_request (fun _ _ => updateConfig_request) h
    | _ => exact ⟨s', h, rfl⟩
  · exact deleteSandbox_request h

/-- A resolved policy is the message of its source. -/
theorem resolvedIn_proto {k : Cluster} {spec : OpenShellSandboxSpec} {resolved : ResolvedPolicy}
    (h : resolvedIn X k ns spec = .ok resolved) :
    resolvedProto X resolved.spec = .ok resolved.proto := by
  unfold resolvedIn at h
  cases hs : sourceIn k ns spec with
  | error err => simp [hs, bind, Except.bind] at h
  | ok source =>
      cases hp : resolvedProto X source with
      | error err => simp [hs, hp, bind, Except.bind] at h
      | ok proto =>
          simp only [hs, hp, bind, Except.bind, pure, Except.pure, Except.ok.injEq] at h
          rw [← h, hp]

end requests

end SandboxController
end OpenShell
