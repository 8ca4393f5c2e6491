import OpenShellOperator.Sandbox.Spec

/-! # No spurious teardown

A history of one sandbox resource is a session: reconciles (`apply` on the resource as the
cluster has it) one after the other, each stopped anywhere and with calls that may fail, and
edits by users in between.

`no_spurious_teardown`: while the immutable material never changes, no reconcile deletes the
sandbox, whatever happens to the policy, the providers and the calls. -/

namespace OpenShell
open Wire Effects

namespace SandboxController

/-! ### A steady material -/

section steady
variable (X : Externals) (key : Key) (m : Json)

/-- Whenever the policy of the spec resolves, the immutable material is `m`. -/
def Steady (spec : OpenShellSandboxSpec) (w : World) : Prop :=
  ∀ resolved, resolvedIn X w.cluster key.scope spec = .ok resolved →
    immutableMaterial spec resolved.spec = m

/-- Nothing but reconciles records a hash. -/
def Unrecorded (w w' : World) : Prop :=
  recorded key w' = none ∨ recorded key w' = recorded key w

/-- Anything may happen while a reconcile runs, as long as no hash is recorded and the
material stays the same whenever the policy resolves. -/
def steadily (spec : OpenShellSandboxSpec) : Rely World where
  rel w w' := Unrecorded key w w' ∧ (Steady X key m spec w → Steady X key m spec w')
  refl w := ⟨.inr rfl, id⟩
  trans h h' := by
    refine ⟨?_, h'.2 ∘ h.2⟩
    rcases h'.1 with h₁ | h₁
    · exact .inl h₁
    · rcases h.1 with h₂ | h₂
      · exact .inl (h₁.trans h₂)
      · exact .inr (h₁.trans h₂)

/-- A reconcile of the resource as the cluster has it, not being deleted, with a steady
material. -/
def SteadyReconcile (w : World) (p : Op Action) (R : Rely World) : Prop :=
  ∃ sandbox now, w.cluster.sandboxes[key]? = some sandbox ∧
    sandbox.metadata.namespace_ = some key.scope ∧ sandbox.metadata.name = key.name ∧
    sandbox.metadata.deletionTimestamp = none ∧ Steady X key m sandbox.spec w ∧
    p = apply X now sandbox ∧ R = steadily X key m sandbox.spec

/-- The recorded hash, if any, is the one of `m`. -/
def HashOf (hash : Option String) : Prop := hash = none ∨ hash = some (X.digest m)

/-- The calls that neither delete the sandbox nor record another hash. -/
def Gentle (ns : String) (sandbox : OpenShellSandbox) (c : Call) : Prop :=
  Upkeep ns sandbox c ∨ (∃ policy, c = createCall sandbox policy) ∨
    ∃ status, c = .kube (.patchSandboxStatus ns sandbox.metadata.name status) ∧
      HashOf X m status.appliedSpecHash

variable {X key m} {sandbox : OpenShellSandbox} {w : World}

/-- What holds throughout a steady reconcile. -/
def SteadyState (X : Externals) (key : Key) (m : Json) (spec : OpenShellSandboxSpec) (w : World) :
    Prop :=
  HashOf X m (recorded key w) ∧ Steady X key m spec w

theorem SteadyState.move {spec : OpenShellSandboxSpec} {w w' : World}
    (h : SteadyState X key m spec w) (hw : steadily X key m spec w w') :
    SteadyState X key m spec w' := by
  refine ⟨?_, hw.2 h.2⟩
  rcases hw.1 with h' | h'
  · exact .inl h'
  · rw [h']
    exact h.1

theorem SteadyState.call {c : Call} (hname : sandbox.metadata.name = key.name)
    (h : SteadyState X key m sandbox.spec w) (hc : Gentle X m key.scope sandbox c)
    (f : Fate Outage) : SteadyState X key m sandbox.spec (World.react X w c f).1 := by
  have hstay : ∀ w', w'.cluster.sandboxes = w.cluster.sandboxes →
      w'.cluster.policies = w.cluster.policies → SteadyState X key m sandbox.spec w' := by
    intro w' hs hp
    refine ⟨?_, ?_⟩
    · rw [recorded, hs]
      exact h.1
    · intro resolved hr
      rw [resolvedIn_congr hp] at hr
      exact h.2 resolved hr
  rcases respond_world Outage.error (World.serve X) w c f with hw | hw
  · rw [World.react, hw]
    exact h
  · rw [World.react, hw]
    rcases hc with hup | ⟨policy, rfl⟩ | ⟨status, rfl, hst⟩
    · exact hstay _ (upkeep_frame hup).1 (upkeep_frame hup).2
    · exact hstay _ rfl rfl
    · rw [hname]
      refine ⟨?_, fun resolved hr => ?_⟩
      · rw [recorded_patch]
        split_ifs
        · rcases hst with hst | hst
          · rw [hst]
            exact h.1
          · rw [hst]
            exact .inr rfl
        · exact .inl rfl
      · have hp := patchSandboxStatus_policies w.cluster key status
        exact h.2 resolved ((resolvedIn_congr hp _ _).symm.trans hr)

/-! ### No spurious teardown -/

/-- Programs that only do upkeep keep a steady state. -/
theorem upkeep_safe {α : Type} (hname : sandbox.metadata.name = key.name) {p : Op α}
    (hp : p.Calls (Upkeep key.scope sandbox)) (hw : SteadyState X key m sandbox.spec w) :
    p.Safe (World.react X) (steadily X key m sandbox.spec)
      (fun _ => Gentle X m key.scope sandbox)
      (fun _ w' => SteadyState X key m sandbox.spec w') w :=
  Prog.Calls.safe_inv (fun _ _ h hR => h.move hR)
    (fun _ _ h hc => ⟨.inl hc, fun f => h.call hname (.inl hc) f⟩) hp hw

theorem hashDrifted_steady {hash : Option String} (h : HashOf X m hash) :
    hashDrifted hash (X.digest m) = false := by
  rcases h with rfl | rfl
  · rfl
  · simp [hashDrifted]

/-- What a converge ends with: the hash of the steady material, if it succeeds. -/
def SteadyOutcome (X : Externals) (key : Key) (m : Json) (spec : OpenShellSandboxSpec)
    (r : Except Error Converged) (w : World) : Prop :=
  SteadyState X key m spec w ∧ ∀ converged, r = .ok converged →
    converged.appliedSpecHash = X.digest m

theorem SteadyState.failed {spec : OpenShellSandboxSpec} (err : Error) (w w' : World)
    (h : SteadyState X key m spec w) (hR : steadily X key m spec w w') :
    SteadyOutcome X key m spec (.error err) w' := ⟨h.move hR, nofun⟩

theorem SteadyState.converged {spec : OpenShellSandboxSpec} (state : SandboxState)
    (policyHash : String) (w w' : World) (h : SteadyState X key m spec w)
    (hR : steadily X key m spec w w') :
    SteadyOutcome X key m spec (.ok ⟨state, X.digest m, policyHash⟩) w' := by
  refine ⟨h.move hR, fun converged hc => ?_⟩
  rw [← Except.ok.inj hc]

theorem convergeWith_steady (hname : sandbox.metadata.name = key.name)
    (hprior : HashOf X m (sandbox.status.bind (·.appliedSpecHash)))
    (existing : Option SandboxState) (resolved : Except Error ResolvedPolicy)
    (hres : ∀ r, resolved = .ok r → immutableMaterial sandbox.spec r.spec = m)
    (hw : SteadyState X key m sandbox.spec w) :
    (convergeWith X sandbox.metadata.name sandbox existing resolved).Safe (World.react X)
      (steadily X key m sandbox.spec) (fun _ => Gentle X m key.scope sandbox)
      (SteadyOutcome X key m sandbox.spec) w := by
  have hhash : ∀ r, resolved = .ok r →
      immutableFingerprint X sandbox.spec r.spec = X.digest m := by
    intro r hr
    rw [← hres r hr]
    rfl
  cases existing with
  | none =>
      cases resolved with
      | error err => exact fun w' hR => hw.failed err w w' hR
      | ok resolved =>
          show Prog.Safe _ _ _ _ (createConverged X _ sandbox resolved) w
          unfold createConverged
          rw [hhash resolved rfl]
          refine Prog.Safe.bind_inv (Prog.Calls.safe_inv (fun _ _ h hR => h.move hR)
            (fun _ _ h hc => ⟨hc, fun f => h.call hname hc f⟩)
            (create_calls (.inr (.inl ⟨resolved.proto, rfl⟩))) hw) ?_ SteadyState.failed
          exact fun state w₁ hw₁ w₂ hR => hw₁.converged state _ w₁ w₂ hR
  | some existing =>
      cases resolved with
      | error err =>
          exact Prog.Safe.bind_inv (upkeep_safe hname (convergeProviders_calls _ existing) hw)
            (fun _ w₁ hw₁ w₂ hR => hw₁.failed err w₁ w₂ hR) SteadyState.failed
      | ok resolved =>
          show Prog.Safe _ _ _ _ (convergeExisting X _ sandbox existing resolved) w
          unfold convergeExisting
          simp only [hhash resolved rfl, hashDrifted_steady hprior, Bool.false_eq_true, if_false]
          refine Prog.Safe.bind_inv (upkeep_safe hname (convergeProviders_calls _ existing) hw)
            (fun _ w₁ hw₁ => ?_) SteadyState.failed
          exact Prog.Safe.bind_inv (upkeep_safe hname (updatePolicyIfDrifted_calls _ _ _) hw₁)
            (fun _ w₂ hw₂ w₃ hR => hw₂.converged existing _ w₂ w₃ hR) SteadyState.failed

theorem converge_steady (hname : sandbox.metadata.name = key.name)
    (hprior : HashOf X m (sandbox.status.bind (·.appliedSpecHash)))
    (hw : SteadyState X key m sandbox.spec w) :
    (converge X key.scope sandbox.metadata.name sandbox).Safe (World.react X)
      (steadily X key m sandbox.spec) (fun _ => Gentle X m key.scope sandbox)
      (SteadyOutcome X key m sandbox.spec) w := by
  refine Prog.Safe.bind_inv (I := SteadyState X key m sandbox.spec) (fun _ hR => hw.move hR)
    (fun _ w₁ hw₁ => ?_) SteadyState.failed
  refine Prog.Safe.bind_inv (upkeep_safe hname ensurePvcs_calls hw₁)
    (fun _ w₂ hw₂ => ?_) SteadyState.failed
  refine Prog.Safe.bind_inv (upkeep_safe hname (getSandbox_calls .getSandbox) hw₂)
    (fun existing w₃ hw₃ => ?_) SteadyState.failed
  refine Prog.Safe.bind (Prog.Safe.attempt (resolve_safe (Over.refl _)
    (fun _ name _ => .inl (.getPolicy name)) ?_))
  intro w₄ w₅ hR hread r hr
  have hw₄ := hw₃.move hR
  refine convergeWith_steady hname hprior existing r (fun r' hr' => hw₄.2 r' (hr r' hr')) ?_
  rcases hread with hR' | ⟨name, f, hR'⟩
  · exact hw₄.move hR'
  · exact (hw₄.call hname (.inl (.getPolicy name)) f).move hR'

/-- A reconcile with a steady material makes gentle calls only. -/
theorem apply_steady (hns : sandbox.metadata.namespace_ = some key.scope)
    (hname : sandbox.metadata.name = key.name) (now : Time)
    (hprior : HashOf X m (sandbox.status.bind (·.appliedSpecHash)))
    (hw : SteadyState X key m sandbox.spec w) :
    (apply X now sandbox).Safe (World.react X) (steadily X key m sandbox.spec)
      (fun _ => Gentle X m key.scope sandbox)
      (fun _ w' => SteadyState X key m sandbox.spec w') w := by
  have hpatch : ∀ {status : OpenShellSandboxStatus} {w₁ : World},
      HashOf X m status.appliedSpecHash → SteadyState X key m sandbox.spec w₁ →
      (patchStatus key.scope sandbox.metadata.name status).Safe (World.react X)
        (steadily X key m sandbox.spec) (fun _ => Gentle X m key.scope sandbox)
        (fun _ w' => SteadyState X key m sandbox.spec w') w₁ := by
    intro status w₁ hst hw₁
    exact Prog.Calls.safe_inv (fun _ _ h hR => h.move hR)
      (fun _ _ h hc => ⟨hc, fun f => h.call hname hc f⟩)
      (Prog.calls_perform (.inr (.inr ⟨status, rfl, hst⟩))) hw₁
  unfold apply
  rw [hns]
  refine Prog.Safe.bind (Prog.Safe.attempt (Prog.Safe.mono (fun _ _ h => h) ?_
    (converge_steady hname hprior hw)))
  intro r w₁ hr
  cases r with
  | ok converged =>
      refine Prog.Safe.bind_inv (hpatch (.inr ?_) hr.1) (fun _ w₂ hw₂ w₃ hR => hw₂.move hR)
        (fun _ _ _ h hR => h.move hR)
      exact congrArg some (hr.2 converged rfl)
  | error err =>
      refine Prog.Safe.bind_inv (upkeep_safe hname (recordEvent_calls _) hr.1)
        (fun _ w₂ hw₂ => ?_) (fun _ _ _ h hR => h.move hR)
      refine Prog.Safe.bind_inv (Prog.Safe.attempt (hpatch ?_ hw₂))
        (fun _ w₃ hw₃ w₄ hR => hw₃.move hR) (fun _ _ _ h hR => h.move hR)
      show HashOf X m (sandbox.status.getD {}).appliedSpecHash
      cases hs : sandbox.status with
      | none => exact .inl rfl
      | some status =>
          rw [hs] at hprior
          exact hprior

/-- **No spurious teardown.**  In every history of a sandbox resource that is not being
deleted, in which the immutable material is `m` whenever the policy resolves while anything
else may change and any call may fail, and which starts with no recorded hash or with the
hash of `m`, the sandbox is never deleted. -/
theorem no_spurious_teardown (X : Externals) (key : Key) (m : Json) {w w' : World}
    {tr : List (Call × Fate Outage)}
    (h : Session (World.react X) (SteadyReconcile X key m) (Unrecorded key) (fun _ => True)
      w tr w') (hw : HashOf X m (recorded key w)) :
    ∀ cf ∈ tr, ∀ name scope, cf.1 ≠ .rpc (.deleteSandbox name scope) := by
  refine (Session.inv (I := fun w => HashOf X m (recorded key w))
    (A := fun c => ∀ name scope, c ≠ .rpc (.deleteSandbox name scope)) ?_ ?_ h hw).2
  · intro w w' hI hm
    rcases hm with hm | hm
    · exact .inl hm
    · rw [hm]
      exact hI
  · rintro w p R tr p' w' hI ⟨sandbox, now, hs, hns, hname, -, hsteady, rfl, rfl⟩ hsteps -
    have hprior : HashOf X m (sandbox.status.bind (·.appliedSpecHash)) := by
      rw [recorded, hs] at hI
      exact hI
    have hcall : ∀ w c f, SteadyState X key m sandbox.spec w → Gentle X m key.scope sandbox c →
        SteadyState X key m sandbox.spec (World.react X w c f).1 :=
      fun _ _ f h hc => h.call hname hc f
    obtain ⟨hw', htr⟩ := Prog.Safe.steps_inv (fun _ _ h hR => h.move hR) hcall hsteps
      (apply_steady hns hname now hprior ⟨hI, hsteady⟩) ⟨hI, hsteady⟩
    refine ⟨hw'.1, fun cf hcf name scope hdel => ?_⟩
    obtain ⟨w₁, -, hc⟩ := htr cf hcf
    rw [hdel] at hc
    rcases hc with hup | ⟨policy, hc⟩ | ⟨status, hc, -⟩
    · cases hup
    · cases hc
    · cases hc

end steady

namespace Sample

def key : Key := ⟨"team", "dev"⟩

/-- A resource that refers to a policy. -/
def policyResource : OpenShellSandbox where
  metadata := { name := "dev", namespace_ := some "team", finalizers := [finalizerName] }
  spec := { image := some "a", policyRef := some "base" }

/-- The policy is there, or is missing. -/
def withPolicy (policy : Option OpenShellPolicySpec) (w : World) : World :=
  { w with cluster := { w.cluster with
      policies := match policy with
        | some policy => (∅ : KeyMap OpenShellPolicySpec).insert ⟨"team", "base"⟩ policy
        | none => ∅ } }

/-- The resource as the cluster has it. -/
def resourceIn (w : World) : OpenShellSandbox := w.cluster.sandboxes[key]?.getD policyResource

/-- A reconcile of the resource, its calls served. -/
def reconciled (w : World) : World :=
  (Prog.exec (World.react versionExternals) (List.replicate 4 .served)
    (apply versionExternals 0 (resourceIn w)) w).2

/-- The calls of this reconcile. -/
def reconcileCalls (w : World) : List (Call × Fate Outage) :=
  Prog.trace (World.react versionExternals) (List.replicate 4 .served)
    (apply versionExternals 0 (resourceIn w)) w

def unapplied : World :=
  withPolicy (some {})
    { cluster := { sandboxes := (∅ : KeyMap OpenShellSandbox).insert key policyResource } }

/-- The policy is deleted after the first reconcile. -/
def policyLost : World := withPolicy none (reconciled unapplied)

/-- It is created again after the second one. -/
def policyBack : World := withPolicy (some {}) (reconciled policyLost)

/-- The material of the resource, while the policy is there. -/
def policyMaterial : Json := immutableMaterial policyResource.spec (some {})

theorem steady_withPolicy {policy : Option OpenShellPolicySpec}
    (h : policy = none ∨ policy = some {}) (w : World) :
    Steady versionExternals key policyMaterial policyResource.spec (withPolicy policy w) := by
  intro resolved hr
  rcases h with rfl | rfl
  · cases hr
  · rw [← Except.ok.inj hr]
    rfl

/-- The histories in which the material stays the same. -/
abbrev SteadySession : World → List (Call × Fate Outage) → World → Prop :=
  Session (World.react versionExternals) (SteadyReconcile versionExternals key policyMaterial)
    (Unrecorded key) (fun _ => True)

/-- The session goes on with a reconcile. -/
theorem session_reconciled {w w' : World} {tr : List (Call × Fate Outage)}
    (h : SteadySession w tr w') (hthere : w'.cluster.sandboxes[key]?.isSome)
    (hmeta : (resourceIn w').metadata = policyResource.metadata)
    (hspec : (resourceIn w').spec = policyResource.spec)
    (hsteady : Steady versionExternals key policyMaterial policyResource.spec w') :
    SteadySession w (tr ++ reconcileCalls w') (reconciled w') := by
  obtain ⟨sandbox, hsandbox⟩ := Option.isSome_iff_exists.mp hthere
  have hresource : w'.cluster.sandboxes[key]? = some (resourceIn w') := by
    rw [resourceIn, hsandbox]
    rfl
  refine Session.run h ⟨resourceIn w', 0, hresource, ?_, ?_, ?_, hspec ▸ hsteady, rfl, rfl⟩
    (Prog.steps_exec (World.react versionExternals) _ (List.replicate 4 .served) _ _) trivial
  all_goals
    rw [hmeta]
    rfl

/-- A sandbox is created, its policy goes missing and comes back, and it is reconciled under each:
its hash stays recorded, and it is never deleted. -/
theorem policy_lost_and_back : ∃ tr,
    tr = reconcileCalls unapplied ++ reconcileCalls policyLost ++ reconcileCalls policyBack ∧
    SteadySession unapplied tr (reconciled policyBack) ∧
    resolvedIn versionExternals policyLost.cluster key.scope policyResource.spec =
      .error (.policyNotFound "team" "base") ∧
    (recorded key (reconciled unapplied)).isSome ∧
    recorded key (reconciled policyLost) = recorded key (reconciled unapplied) ∧
    recorded key (reconciled policyBack) = recorded key (reconciled unapplied) ∧
    ∀ cf ∈ tr, ∀ name scope, cf.1 ≠ .rpc (.deleteSandbox name scope) := by
  have h₁ := session_reconciled (.nil unapplied) (by decide +kernel) rfl rfl
    (steady_withPolicy (.inr rfl) _)
  have hlost : SteadySession unapplied (reconcileCalls unapplied) policyLost := h₁.move (.inr rfl)
  have h₂ := session_reconciled hlost (by decide +kernel) rfl rfl (steady_withPolicy (.inl rfl) _)
  have hback : SteadySession unapplied _ policyBack := h₂.move (.inr rfl)
  have h₃ := session_reconciled hback (by decide +kernel) rfl rfl (steady_withPolicy (.inr rfl) _)
  refine ⟨_, rfl, h₃, rfl, by decide +kernel, by decide +kernel, by decide +kernel, ?_⟩
  exact no_spurious_teardown versionExternals key policyMaterial h₃ (.inl (by decide +kernel))

end Sample
end SandboxController
end OpenShell
