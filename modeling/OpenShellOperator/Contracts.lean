import OpenShellOperator.Effects.Contract
import OpenShellOperator.Provider.Reconcile
import OpenShellOperator.Sandbox.Reconcile
import OpenShellOperator.Volumes.Mounts
import OpenShellOperator.Workspace.Reconcile
import OpenShellOperator.World

/-! # What a reconcile does in every world

The contracts of the sandbox, provider and workspace reconciles: the Kubernetes calls each of them
makes, that none of them looks at how the publication of an event fared, and which errors it ends
with, as long as the errors of calls are those of the gateway and of Kubernetes.

Two consequences hold of every run, with failing calls and any interference.  How events fare
changes nothing but themselves (`events_change_nothing`).  A sandbox that is put on the slow
cadence after a failure will fail until its spec is edited, or the gateway has rejected its
policy (`slow_retry_needs_edit`). -/

namespace OpenShell
open Wire Effects

/-! ### Contracts -/

/-- The call publishes an event. -/
def Call.isEvent : Call → Bool
  | .kube (.publish _ _ _) => true
  | _ => false

/-- The reconcile of a kind of resource makes this Kubernetes call. -/
def KubeCall.usedBy : KubeCall → Kind → Bool
  | .getPvc _ _, kind | .createPvc _ _, kind | .patchPvcLabels _ _ _, kind | .deletePvcs _ _, kind
  | .getPolicy _ _, kind | .patchSandboxStatus _ _ _, kind => kind == .sandbox
  | .getSecret _ _, kind | .patchProviderStatus _ _ _, kind => kind == .provider
  | .listSandboxes, kind | .listProviders, kind | .patchWorkspaceStatus _ _, kind =>
      kind == .workspace
  | .addFinalizer owner _ _, kind | .removeFinalizer owner _ _, kind | .publish owner _ _, kind =>
      owner == kind

/-- The contract of the reconcile of a kind of resource. -/
def contract (kind : Kind) : Contract Call Error where
  calls
    | .rpc _ => True
    | .kube k => k.usedBy kind = true
  ignored c := c.isEvent = true
  errors err := err.isTerminal = false

/-- The outcome is no terminal error. -/
def Mild {α : Type} (r : Except Error α) : Prop := ∀ err, r = .error err → err.isTerminal = false

theorem mild_ok {α : Type} (a : α) : Mild (.ok a) := nofun

theorem mild_error {α : Type} {err : Error} (h : err.isTerminal = false) :
    Mild (.error err : Except Error α) := by
  rintro _ ⟨rfl⟩
  exact h

section rules
variable {kind : Kind} {α β : Type}

/-- A program without terminal errors, and what follows it. -/
theorem Mild.bind {p : Op α} {f : α → Op β} {Q : Except Error β → Prop}
    (hp : p.Conforms (contract kind) Mild) (hf : ∀ a, (f a).Conforms (contract kind) Q)
    (hQ : ∀ err, err.isTerminal = false → Q (.error err)) :
    (p >>= f).Conforms (contract kind) Q := by
  refine Prog.Conforms.bind (Prog.Conforms.mono ?_ hp)
  intro r hr
  cases r with
  | ok a => exact hf a
  | error err => exact hQ err (hr err rfl)

/-- A sequence of programs without terminal errors. -/
theorem Mild.seq {p : Op α} {f : α → Op β} (hp : p.Conforms (contract kind) Mild)
    (hf : ∀ a, (f a).Conforms (contract kind) Mild) : (p >>= f).Conforms (contract kind) Mild :=
  Mild.bind hp hf (fun _ => mild_error)

/-- An attempt of a program without terminal errors, and what follows it. -/
theorem Mild.attempt {p : Op α} {f : Except Error α → Op β} {Q : Except Error β → Prop}
    (hp : p.Conforms (contract kind) Mild)
    (hf : ∀ r, Mild r → (f r).Conforms (contract kind) Q) :
    (p.attempt >>= f).Conforms (contract kind) Q :=
  Prog.Conforms.bind (Prog.Conforms.attempt (Prog.Conforms.mono hf hp))

theorem Mild.forM {γ : Type} {f : γ → Op PUnit} (xs : List γ)
    (h : ∀ x ∈ xs, (f x).Conforms (contract kind) Mild) :
    (xs.forM f).Conforms (contract kind) Mild := by
  refine Prog.Conforms.forM (mild_ok _) xs (fun x hx => Prog.Conforms.mono ?_ (h x hx))
  intro r hr err herr
  exact mild_error (hr err herr)

theorem rpc_mild (r : Rpc) : (rpc r).Conforms (contract kind) Mild :=
  Prog.conforms_perform trivial (by simp [contract, Call.isEvent]) mild_ok (fun _ => mild_error)

theorem kube_mild {k : KubeCall} (hk : k.usedBy kind = true) (hevent : (Call.kube k).isEvent = false) :
    (kube k).Conforms (contract kind) Mild :=
  Prog.conforms_perform hk (by simp [contract, hevent]) mild_ok (fun _ => mild_error)

theorem recordEvent_ok (key : Key) (event : Event) :
    (recordEvent kind key event).Conforms (contract kind) (fun r => r = .ok ()) := by
  refine Prog.conforms_ignored ?_ rfl
  show (kind == kind) = true
  simp

theorem recordEvent_conforms (key : Key) (event : Event) :
    (recordEvent kind key event).Conforms (contract kind) Mild := by
  refine Prog.Conforms.mono ?_ (recordEvent_ok key event)
  rintro _ rfl
  exact mild_ok _

end rules

/-! ### The gateway client -/

namespace SdkGateway
variable {kind : Kind}

theorem notFoundIsNone_mild {α : Type} {p : Op (Option α)} (hp : p.Conforms (contract kind) Mild) :
    (notFoundIsNone p).Conforms (contract kind) Mild := by
  refine Mild.attempt hp (fun r hr => ?_)
  cases r with
  | ok found => exact mild_ok _
  | error err =>
      show Prog.Conforms _ _ (ite _ _ _)
      split_ifs
      · exact mild_ok _
      · exact mild_error (hr err rfl)

theorem createSandbox_mild (create : SandboxCreate) :
    (createSandbox create).Conforms (contract kind) Mild := by
  refine Mild.seq (rpc_mild _) (fun found => ?_)
  cases found with
  | none => exact mild_error rfl
  | some sandbox => exact mild_ok _

theorem getSandbox_mild (name workspace : String) :
    (getSandbox name workspace).Conforms (contract kind) Mild :=
  Mild.seq (notFoundIsNone_mild (rpc_mild _)) (fun _ => mild_ok _)

theorem deleteSandbox_mild (name workspace : String) :
    (deleteSandbox name workspace).Conforms (contract kind) Mild :=
  Mild.seq (rpc_mild _) (fun _ => mild_ok _)

/-- An update of a policy ends with a terminal error only if the gateway has rejected it. -/
theorem updatePolicy_conforms (sandbox : String) (policy : SandboxPolicy) (workspace : String) :
    (updatePolicy sandbox policy workspace).Conforms (contract kind)
      (fun r => ∀ err, r = .error err → err.isTerminal = true →
        ∃ message, err = .policyUpdateRejected message) := by
  refine Mild.attempt (rpc_mild _) (fun r hr => ?_)
  cases r with
  | ok u => exact nofun
  | error err =>
      rintro _ ⟨rfl⟩ hterminal
      have hmild := hr err rfl
      unfold updateError at hterminal ⊢
      split at hterminal
      · split_ifs at hterminal ⊢ with hcode
        · exact ⟨_, rfl⟩
        · cases hterminal
      · rw [hmild] at hterminal
        cases hterminal

theorem upsertProvider_mild (input : ProviderInput) :
    (upsertProvider input).Conforms (contract kind) Mild := by
  refine Mild.seq (notFoundIsNone_mild (rpc_mild _)) (fun existing => ?_)
  cases existing with
  | none => exact rpc_mild _
  | some provider => exact rpc_mild _

theorem workspaceState_mild (workspace : Option Workspace) : Mild (workspaceState workspace) := by
  cases workspace with
  | none => exact mild_error rfl
  | some workspace => exact mild_ok _

theorem getWorkspace_mild (name : String) : (getWorkspace name).Conforms (contract kind) Mild := by
  refine Mild.seq (notFoundIsNone_mild (rpc_mild _)) (fun found => ?_)
  cases found with
  | none => exact mild_ok _
  | some workspace => exact mild_ok _

theorem createWorkspace_mild (create : WorkspaceCreate) :
    (createWorkspace create).Conforms (contract kind) Mild := by
  refine Mild.attempt (rpc_mild _) (fun r hr => ?_)
  cases r with
  | ok workspace => exact workspaceState_mild workspace
  | error err =>
      show Prog.Conforms _ _ (ite _ _ _)
      split_ifs
      · refine Mild.seq (getWorkspace_mild _) (fun found => ?_)
        cases found with
        | none => exact mild_error rfl
        | some state => exact mild_ok _
      · exact mild_error (hr err rfl)

end SdkGateway

/-! ### Finalizers -/

section finalizers
variable {kind : Kind} {name : String} {m : ObjectMeta} {apply cleanup : Op Action}

theorem Op.mapErr_conforms {α : Type} {p : Op α} {g : Error → Error} {Q : Except Error α → Prop}
    (hp : p.Conforms (contract kind) (fun r => match r with
      | .ok a => Q (.ok a)
      | .error err => Q (.error (g err)))) : (p.mapErr g).Conforms (contract kind) Q := by
  refine Prog.Conforms.bind (Prog.Conforms.attempt (Prog.Conforms.mono ?_ hp))
  intro r hr
  cases r with
  | ok a => exact hr
  | error err => exact hr

/-- Behind the finalizer only an apply fails with a terminal error. -/
theorem finalizer_conforms {A : Error → Prop}
    (happly : apply.Conforms (contract kind)
      (fun r => ∀ err, r = .error err → err.isTerminal = true → A err))
    (hcleanup : cleanup.Conforms (contract kind) Mild) :
    (finalizer kind name m apply cleanup).Conforms (contract kind)
      (fun r => ∀ err, r = .error err → err.isTerminal = true →
        ∃ inner, err = .finalizer (.applyFailed inner) ∧ inner.isTerminal = true ∧ A inner) := by
  have howner : (kind == kind) = true := by simp
  unfold finalizer
  split
  · refine Op.mapErr_conforms (Prog.Conforms.mono ?_ happly)
    intro r hr
    cases r with
    | ok action => exact nofun
    | error err =>
        rintro _ ⟨rfl⟩ hterminal
        rw [(Error.isTerminal_finalizer err).1] at hterminal
        exact ⟨err, rfl, hterminal, hr err rfl hterminal⟩
  · refine Prog.Conforms.bind (Op.mapErr_conforms (Prog.Conforms.mono ?_ hcleanup))
    intro r hr
    cases r with
    | error err =>
        rintro _ ⟨rfl⟩ hterminal
        rw [(Error.isTerminal_finalizer err).2, hr err rfl] at hterminal
        cases hterminal
    | ok action =>
        refine Prog.Conforms.bind (Op.mapErr_conforms (Prog.Conforms.mono ?_
          (kube_mild howner rfl)))
        intro r _
        cases r with
        | ok u => exact nofun
        | error err =>
            rintro _ ⟨rfl⟩ hterminal
            cases hterminal
  · refine Prog.Conforms.bind (Op.mapErr_conforms (Prog.Conforms.mono ?_ (kube_mild howner rfl)))
    intro r _
    cases r with
    | ok u => exact nofun
    | error err =>
        rintro _ ⟨rfl⟩ hterminal
        cases hterminal
  · exact nofun

/-- Behind the finalizer programs without terminal errors have none. -/
theorem finalizer_mild (happly : apply.Conforms (contract kind) Mild)
    (hcleanup : cleanup.Conforms (contract kind) Mild) :
    (finalizer kind name m apply cleanup).Conforms (contract kind) Mild := by
  have hnone : apply.Conforms (contract kind)
      (fun r => ∀ err, r = .error err → err.isTerminal = true → False) := by
    refine Prog.Conforms.mono ?_ happly
    intro r hr err herr hterminal
    rw [hr err herr] at hterminal
    cases hterminal
  refine Prog.Conforms.mono ?_ (finalizer_conforms hnone hcleanup)
  intro r hr err herr
  by_contra hterminal
  obtain ⟨-, -, -, hfalse⟩ := hr err herr (by simpa using hterminal)
  exact hfalse

end finalizers

/-! ### Sandboxes -/

namespace SandboxController
variable {X : Externals} {ns : String} {sandbox : OpenShellSandbox}

/-- A spec that an apply can succeed with: its volumes are well-formed, and it has at most one
source of a policy. -/
structure Workable (spec : OpenShellSandboxSpec) : Prop where
  volumes : Volumes.Valid spec.volumes
  source : ∃ source, selectPolicySource spec = .ok source

/-- How an apply may end: well only for a workable spec, and with a terminal error only for one
that is not, or when the gateway has rejected the policy. -/
def Judges {α : Type} (spec : OpenShellSandboxSpec) : Except Error α → Prop
  | .ok _ => Workable spec
  | .error err => err.isTerminal = true →
      ¬ Workable spec ∨ ∃ message, err = .policyUpdateRejected message

theorem Judges.of_mild {α : Type} {spec : OpenShellSandboxSpec} {err : Error}
    (h : err.isTerminal = false) : Judges spec (.error err : Except Error α) := by
  intro hterminal
  rw [h] at hterminal
  cases hterminal

theorem ensurePvcs_mild (name : String) (spec : OpenShellSandboxSpec) :
    (ensurePvcs ns name spec).Conforms (contract .sandbox) Mild := by
  refine Mild.forM _ (fun volume _ => ?_)
  refine Mild.seq (kube_mild rfl rfl) (fun found => ?_)
  cases found with
  | none => exact kube_mild rfl rfl
  | some existing =>
      show Prog.Conforms _ _ (ite _ _ _)
      split_ifs
      · exact kube_mild rfl rfl
      · exact mild_ok _

theorem toProto_mild (spec : OpenShellPolicySpec) : Mild (toProto X spec) := by
  unfold toProto
  split
  · exact mild_error rfl
  · split
    · exact mild_error rfl
    · exact mild_ok _

theorem resolvedProto_mild (policy : Option OpenShellPolicySpec) : Mild (resolvedProto X policy) := by
  cases policy with
  | none => exact mild_ok _
  | some spec =>
      intro err herr
      rw [resolvedProto] at herr
      cases hproto : toProto X spec with
      | ok proto =>
          rw [hproto] at herr
          cases herr
      | error err' =>
          rw [hproto] at herr
          cases herr
          exact toProto_mild spec err hproto

/-- A policy resolves only if its source is unambiguous, and only an ambiguous one is a terminal
error. -/
theorem resolve_conforms (spec : OpenShellSandboxSpec) :
    (resolve X ns spec).Conforms (contract .sandbox) (fun r => match r with
      | .ok _ => ∃ source, selectPolicySource spec = .ok source
      | .error err => err.isTerminal = true → ¬ ∃ source, selectPolicySource spec = .ok source) := by
  have hmild : ∀ {err : Error} {P : Prop}, err.isTerminal = false → err.isTerminal = true → P := by
    intro err P h h'
    rw [h] at h'
    cases h'
  refine Prog.Conforms.bind (Prog.Conforms.bind ?_)
  show Prog.Conforms _ _ (Prog.done (selectPolicySource spec))
  cases hsource : selectPolicySource spec with
  | error err => exact fun _ => nofun
  | ok source =>
      have hproto : ∀ policy, (Op.lift (resolvedProto X policy) >>= fun proto =>
          (pure ⟨policy, proto⟩ : Op ResolvedPolicy)).Conforms (contract .sandbox) (fun r => match r with
            | .ok _ => ∃ found, Except.ok source = (.ok found : Except Error PolicySource)
            | .error err => err.isTerminal = true →
                ¬ ∃ found, Except.ok source = (.ok found : Except Error PolicySource)) := by
        intro policy
        refine Mild.bind (resolvedProto_mild policy) (fun proto => ⟨source, rfl⟩) (fun err h => hmild h)
      cases source with
      | none => exact hproto none
      | inline policy => exact hproto (some policy)
      | ref policyRef =>
          refine Mild.bind (kube_mild rfl rfl) (fun found => ?_) (fun err h => hmild h)
          cases found with
          | none => exact hmild rfl
          | some policy => exact hproto (some policy)

theorem convergeProviders_mild (name : String) (desired : List String) (existing : SandboxState)
    (workspace : String) :
    (convergeProviders name desired existing workspace).Conforms (contract .sandbox) Mild :=
  Mild.seq (Mild.forM _ (fun _ _ => rpc_mild _)) (fun _ => Mild.forM _ (fun _ _ => rpc_mild _))

theorem awaitGone_mild (name : String) (policy : Option SandboxPolicy) : ∀ attempts,
    (awaitGone name sandbox policy attempts).Conforms (contract .sandbox) Mild
  | 0 => mild_error rfl
  | attempts + 1 => by
      refine Mild.seq (SdkGateway.getSandbox_mild _ _) (fun found => ?_)
      cases found with
      | none => exact SdkGateway.createSandbox_mild _
      | some state => exact awaitGone_mild name policy attempts

theorem recreate_mild (name : String) (policy : Option SandboxPolicy) :
    (recreate name sandbox policy).Conforms (contract .sandbox) Mild :=
  Mild.seq (SdkGateway.deleteSandbox_mild _ _) (fun _ => awaitGone_mild name policy _)

theorem updatePolicyIfDrifted_conforms (name : String) (policy : Option SandboxPolicy)
    (prior : Option String) (desired : String) :
    (updatePolicyIfDrifted name sandbox policy prior desired).Conforms (contract .sandbox)
      (fun r => ∀ err, r = .error err → err.isTerminal = true →
        ∃ message, err = .policyUpdateRejected message) := by
  cases policy with
  | none => exact nofun
  | some policy =>
      show Prog.Conforms _ _ (ite _ _ _)
      split_ifs
      · refine Mild.bind (recordEvent_conforms _ _)
          (fun _ => SdkGateway.updatePolicy_conforms _ _ _) ?_
        rintro err hmild _ ⟨rfl⟩ hterminal
        rw [hmild] at hterminal
        cases hterminal
      · exact nofun

/-- Converging a sandbox of a workable spec. -/
theorem convergeExisting_conforms (hspec : Workable sandbox.spec) (name : String)
    (existing : SandboxState) (resolved : ResolvedPolicy) :
    (convergeExisting X name sandbox existing resolved).Conforms (contract .sandbox)
      (Judges sandbox.spec) := by
  show Prog.Conforms _ _ (ite _ _ _)
  split_ifs
  · refine Mild.bind (recordEvent_conforms _ _) (fun _ => ?_) (fun _ => Judges.of_mild)
    exact Mild.bind (recreate_mild _ _) (fun _ => hspec) (fun _ => Judges.of_mild)
  · refine Mild.bind (convergeProviders_mild _ _ _ _) (fun _ => ?_) (fun _ => Judges.of_mild)
    refine Prog.Conforms.bind (Prog.Conforms.mono ?_ (updatePolicyIfDrifted_conforms _ _ _ _))
    intro r hr
    cases r with
    | ok u => exact hspec
    | error err => exact fun hterminal => .inr (hr err rfl hterminal)

theorem converge_conforms (name : String) :
    (converge X ns name sandbox).Conforms (contract .sandbox) (Judges sandbox.spec) := by
  refine Prog.Conforms.bind ?_
  show Prog.Conforms _ _ (Prog.done (Volumes.validate X.printable sandbox.spec.volumes))
  cases hvolumes : Volumes.validate X.printable sandbox.spec.volumes with
  | error err =>
      intro _
      left
      intro hspec
      rw [(Volumes.validate_ok_iff X.printable sandbox.spec.volumes).mpr hspec.volumes] at hvolumes
      cases hvolumes
  | ok u =>
      refine Mild.bind (ensurePvcs_mild _ _) (fun _ => ?_) (fun _ => Judges.of_mild)
      refine Mild.bind (SdkGateway.getSandbox_mild _ _) (fun existing => ?_) (fun _ => Judges.of_mild)
      refine Prog.Conforms.bind (Prog.Conforms.attempt
        (Prog.Conforms.mono ?_ (resolve_conforms sandbox.spec)))
      intro resolved hresolved
      cases resolved with
      | ok resolved =>
          have hspec : Workable sandbox.spec :=
            ⟨(Volumes.validate_ok_iff X.printable sandbox.spec.volumes).mp hvolumes, hresolved⟩
          cases existing with
          | none =>
              exact Mild.bind (SdkGateway.createSandbox_mild _) (fun _ => hspec)
                (fun _ => Judges.of_mild)
          | some existing => exact convergeExisting_conforms hspec name existing resolved
      | error err =>
          have hjudges : Judges sandbox.spec (.error err : Except Error Converged) :=
            fun hterminal => .inl (fun hspec => hresolved hterminal hspec.source)
          cases existing with
          | none => exact hjudges
          | some existing =>
              exact Mild.bind (convergeProviders_mild _ _ _ _) (fun _ => hjudges)
                (fun _ => Judges.of_mild)

theorem apply_conforms (now : Time) :
    (apply X now sandbox).Conforms (contract .sandbox) (Judges sandbox.spec) := by
  unfold apply
  split
  · exact fun h => by cases h
  · refine Prog.Conforms.bind (Prog.Conforms.attempt
      (Prog.Conforms.mono ?_ (converge_conforms sandbox.metadata.name)))
    intro outcome houtcome
    cases outcome with
    | ok converged =>
        exact Mild.bind (kube_mild rfl rfl) (fun _ => houtcome) (fun _ => Judges.of_mild)
    | error err =>
        refine Mild.bind (recordEvent_conforms _ _) (fun _ => ?_) (fun _ => Judges.of_mild)
        exact Mild.attempt (kube_mild rfl rfl) (fun _ _ => houtcome)

theorem cleanup_mild : (cleanup sandbox).Conforms (contract .sandbox) Mild := by
  refine Mild.seq (SdkGateway.deleteSandbox_mild _ _) (fun _ => ?_)
  split_ifs
  · refine Mild.seq ?_ (fun _ => mild_ok _)
    unfold deleteProvisionedVolumes
    split
    · exact mild_error rfl
    · exact kube_mild rfl rfl
  · exact mild_ok _

theorem reconcile_conforms (now : Time) :
    (reconcile X now sandbox).Conforms (contract .sandbox)
      (fun r => ∀ err, r = .error err → err.isTerminal = true →
        ∃ inner, err = .finalizer (.applyFailed inner) ∧ inner.isTerminal = true ∧
          (¬ Workable sandbox.spec ∨ ∃ message, inner = .policyUpdateRejected message)) := by
  unfold reconcile
  split
  · rintro _ ⟨rfl⟩ hterminal
    cases hterminal
  · refine finalizer_conforms (Prog.Conforms.mono ?_ (apply_conforms now)) cleanup_mild
    intro r hr err herr
    rw [herr] at hr
    exact hr

end SandboxController

/-! ### Providers -/

namespace ProviderController
variable {X : Externals} {provider : OpenShellProvider}

theorem extractKey_mild (ns name : String) (data : StrMap (List UInt8)) (key : String) :
    Mild (SecretData.extractKey ns name data key) := by
  unfold SecretData.extractKey
  split
  · exact mild_error rfl
  · split
    · exact mild_error rfl
    · exact mild_ok _

theorem extractCredentials_mild (ns name : String) (data : StrMap (List UInt8))
    (keys : List String) : Mild (SecretData.extractCredentials ns name data keys) := by
  unfold SecretData.extractCredentials
  -- The fold fails with the error of one of its keys.
  have hfold : ∀ (selected : List String) (credentials : StrMap String),
      Mild (selected.foldlM (fun credentials key =>
        (SecretData.extractKey ns name data key).map (credentials.insert key ·)) credentials) := by
    intro selected
    induction selected with
    | nil => exact fun _ => mild_ok _
    | cons key selected ih =>
        intro credentials err herr
        rw [List.foldlM_cons] at herr
        cases hkey : SecretData.extractKey ns name data key with
        | error err' =>
            rw [hkey] at herr
            cases herr
            exact extractKey_mild ns name data key err hkey
        | ok value =>
            rw [hkey] at herr
            exact ih _ err herr
  exact hfold _ _

theorem syncProvider_mild (ns name : String) :
    (syncProvider X provider ns name).Conforms (contract .provider) Mild := by
  refine Mild.seq (Mild.seq (kube_mild rfl rfl) (fun found => ?_)) (fun credentials => ?_)
  · cases found with
    | none => exact mild_error rfl
    | some secret =>
        show Prog.Conforms _ _ (ite _ _ _)
        split_ifs
        · exact mild_error rfl
        · exact extractCredentials_mild _ _ _ _
  · refine Mild.seq (Mild.seq (Mild.seq (rpc_mild _) (fun _ => mild_ok _)) (fun _ => mild_ok _))
      (fun profile => ?_)
    refine Mild.seq (SdkGateway.upsertProvider_mild _) (fun _ => ?_)
    exact Mild.seq (Mild.forM _ (fun _ _ => rpc_mild _)) (fun _ => mild_ok _)

theorem apply_mild (now : Time) : (apply X now provider).Conforms (contract .provider) Mild := by
  unfold apply
  split
  · exact mild_error rfl
  · refine Mild.attempt (syncProvider_mild _ _) (fun r hr => ?_)
    cases r with
    | ok outcome => exact Mild.seq (kube_mild rfl rfl) (fun _ => mild_ok _)
    | error err =>
        refine Mild.seq (recordEvent_conforms _ _) (fun _ => ?_)
        exact Mild.attempt (kube_mild rfl rfl) (fun _ _ => mild_error (hr err rfl))

theorem reconcile_conforms (now : Time) :
    (reconcile X now provider).Conforms (contract .provider) Mild := by
  unfold reconcile
  split
  · exact mild_error rfl
  · refine finalizer_mild (apply_mild now) ?_
    exact Mild.seq (Mild.seq (rpc_mild _) (fun _ => mild_ok _)) (fun _ => mild_ok _)

end ProviderController

/-! ### Workspaces -/

namespace WorkspaceController
variable {workspace : OpenShellWorkspace}

theorem converge_mild (name : String) :
    (converge workspace name).Conforms (contract .workspace) Mild := by
  refine Mild.seq (Mild.seq (SdkGateway.getWorkspace_mild _) (fun found => ?_)) (fun state => ?_)
  · cases found with
    | some state => exact mild_ok _
    | none => exact SdkGateway.createWorkspace_mild _
  · cases workspace.spec.members with
    | none => exact mild_ok _
    | some members =>
        refine Mild.seq (Mild.seq (rpc_mild _) (fun current => ?_)) (fun _ => mild_ok _)
        exact Mild.seq (Mild.forM _ (fun _ _ => rpc_mild _))
          (fun _ => Mild.forM _ (fun _ _ => rpc_mild _))

theorem apply_mild (now : Time) : (apply now workspace).Conforms (contract .workspace) Mild := by
  refine Mild.attempt (converge_mild _) (fun r hr => ?_)
  cases r with
  | ok phase => exact Mild.seq (kube_mild rfl rfl) (fun _ => mild_ok _)
  | error err =>
      refine Mild.seq (recordEvent_conforms _ _) (fun _ => ?_)
      exact Mild.attempt (kube_mild rfl rfl) (fun _ _ => mild_error (hr err rfl))

/-- A refusal ends with the error that says so. -/
theorem refuseNonEmpty_conforms (now : Time) (name : String) (count : ℕ) :
    (refuseNonEmpty now workspace name count).Conforms (contract .workspace)
      (fun r => r = .ok (.workspaceNotEmpty name count)) := by
  refine Prog.Conforms.bind (Prog.Conforms.mono ?_ (recordEvent_ok _ _))
  rintro _ rfl
  exact Mild.attempt (kube_mild rfl rfl) (fun _ _ => rfl)

theorem cleanup_mild (now : Time) : (cleanup now workspace).Conforms (contract .workspace) Mild := by
  show Prog.Conforms _ _ (ite _ _ _)
  split_ifs
  · exact mild_ok _
  · refine Mild.seq (Mild.seq (kube_mild rfl rfl) (fun _ =>
      Mild.seq (kube_mild rfl rfl) (fun _ => mild_ok _))) (fun count => ?_)
    show Prog.Conforms _ _ (ite _ _ _)
    split_ifs
    · refine Prog.Conforms.bind (Prog.Conforms.mono ?_ (refuseNonEmpty_conforms now _ count))
      rintro _ rfl
      exact mild_error rfl
    · exact Mild.seq (Mild.seq (Mild.seq (rpc_mild _) (fun _ => mild_ok _)) (fun _ => mild_ok _))
        (fun _ => mild_ok _)

theorem reconcile_conforms (now : Time) :
    (reconcile now workspace).Conforms (contract .workspace) Mild :=
  finalizer_mild (apply_mild now) (cleanup_mild now)

end WorkspaceController

/-! ### Errors of calls -/

namespace Gateway
variable {g : Gateway}

theorem modifySandbox_mild {key : Key} {f : GatewaySandbox → Except Error GatewaySandbox}
    (hf : ∀ sandbox, Mild (f sandbox)) : Mild (g.modifySandbox key f).2 := by
  unfold modifySandbox
  split
  · exact mild_error rfl
  · rename_i sandbox _
    cases hresult : f sandbox with
    | ok sandbox' => exact mild_ok _
    | error err => exact mild_error (hf sandbox err hresult)

theorem modifyMembers_mild {name : String}
    {f : StrMap WorkspaceRole → Except Error (StrMap WorkspaceRole)}
    (hf : ∀ members, Mild (f members)) : Mild (g.modifyMembers name f).2 := by
  unfold modifyMembers
  split
  · exact mild_error rfl
  · rename_i workspace _
    cases hresult : f workspace.members with
    | ok members => exact mild_ok _
    | error err => exact mild_error (hf workspace.members err hresult)

/-- The gateway answers no terminal error. -/
theorem serve_mild (accepts : Option SandboxPolicy → SandboxPolicy → Bool) (g : Gateway) (r : Rpc) :
    Mild (g.serve accepts r).2 := by
  cases r with
  | createSandbox request =>
      show Mild (g.createSandbox request).2
      unfold createSandbox
      split
      · exact mild_error rfl
      · exact mild_ok _
  | getSandbox name scope =>
      show Mild (g.getSandbox _)
      unfold getSandbox
      split
      · exact mild_ok _
      · exact mild_error rfl
  | deleteSandbox name scope =>
      show Mild (g.deleteSandbox _).2
      unfold deleteSandbox
      split <;> exact mild_ok _
  | attachSandboxProvider sandbox provider scope =>
      refine modifySandbox_mild (fun s => ?_)
      unfold attach
      split
      · exact mild_error rfl
      · exact mild_ok _
  | detachSandboxProvider sandbox provider scope => exact modifySandbox_mild (fun s => mild_ok _)
  | updateConfig request =>
      refine modifySandbox_mild (fun s => ?_)
      unfold Gateway.updateConfig
      split
      · exact mild_ok _
      · split_ifs
        · exact mild_ok _
        · exact mild_error rfl
  | getProvider name scope =>
      show Mild (g.getProvider _)
      unfold getProvider
      split
      · exact mild_ok _
      · exact mild_error rfl
  | createProvider provider scope =>
      show Mild (g.createProvider provider scope).2
      unfold createProvider
      dsimp only
      split
      · exact mild_error rfl
      · exact mild_ok _
  | updateProvider provider scope =>
      show Mild (g.updateProvider provider scope).2
      unfold updateProvider
      dsimp only
      split
      · exact mild_error rfl
      · exact mild_ok _
  | deleteProvider name scope =>
      show Mild (g.deleteProvider _).2
      unfold deleteProvider
      split <;> exact mild_ok _
  | listProviderProfiles => exact mild_ok _
  | configureProviderRefresh request =>
      show Mild (g.configureProviderRefresh request).2
      unfold configureProviderRefresh
      dsimp only
      split
      · exact mild_error rfl
      · exact mild_ok _
  | createWorkspace name labels =>
      show Mild (g.createWorkspace name labels).2
      unfold createWorkspace
      split
      · exact mild_error rfl
      · exact mild_ok _
  | getWorkspace name =>
      show Mild (g.getWorkspace name)
      unfold getWorkspace
      split
      · exact mild_ok _
      · exact mild_error rfl
  | deleteWorkspace name =>
      show Mild (g.deleteWorkspace name).2
      unfold deleteWorkspace
      split
      · exact mild_ok _
      · split_ifs
        · exact mild_error rfl
        · exact mild_ok _
  | listWorkspaceMembers scope =>
      show Mild (g.listWorkspaceMembers scope.workspace)
      unfold listWorkspaceMembers
      split
      · exact mild_error rfl
      · exact mild_ok _
  | addWorkspaceMember scope subject role =>
      refine modifyMembers_mild (fun members => ?_)
      unfold addMember
      split_ifs
      · exact mild_error rfl
      · exact mild_ok _
  | removeWorkspaceMember scope subject =>
      refine modifyMembers_mild (fun members => ?_)
      unfold removeMember
      split_ifs
      · exact mild_ok _
      · exact mild_error rfl

end Gateway

namespace Cluster

theorem modifyMeta_mild (k : Cluster) (kind : Kind) (key : Key)
    (f : ObjectMeta → Option ObjectMeta) : Mild (k.modifyMeta kind key f).2 := by
  have hmodify : ∀ {β : Type} (m : KeyMap β) (g : β → Option β), Mild (modifyAt m key g) := by
    intro β m g
    unfold modifyAt
    split
    · exact mild_error rfl
    · split <;> exact mild_ok _
  unfold modifyMeta
  cases kind with
  | sandbox =>
      dsimp only
      split
      · exact mild_ok _
      · rename_i err herr
        exact mild_error (hmodify _ _ err herr)
  | provider =>
      dsimp only
      split
      · exact mild_ok _
      · rename_i err herr
        exact mild_error (hmodify _ _ err herr)
  | workspace =>
      dsimp only
      split
      · exact mild_ok _
      · rename_i err herr
        exact mild_error (hmodify _ _ err herr)

/-- Kubernetes answers no terminal error. -/
theorem serve_mild (k : Cluster) (c : KubeCall) : Mild (k.serve c).2 := by
  cases c with
  | createPvc ns pvc =>
      show Mild (k.createPvc ns pvc).2
      unfold createPvc
      split
      · exact mild_error rfl
      · exact mild_ok _
  | patchPvcLabels ns name labels =>
      show Mild (k.patchPvcLabels ns name labels).2
      unfold patchPvcLabels
      split
      · exact mild_error rfl
      · exact mild_ok _
  | patchSandboxStatus ns name status =>
      show Mild (k.patchSandboxStatus _ status).2
      unfold patchSandboxStatus
      split
      · exact mild_error rfl
      · exact mild_ok _
  | patchProviderStatus ns name status =>
      show Mild (k.patchProviderStatus _ status).2
      unfold patchProviderStatus
      split
      · exact mild_error rfl
      · exact mild_ok _
  | patchWorkspaceStatus name status =>
      show Mild (k.patchWorkspaceStatus _ status).2
      unfold patchWorkspaceStatus
      split
      · exact mild_error rfl
      · exact mild_ok _
  | addFinalizer kind key finalizer => exact k.modifyMeta_mild _ _ _
  | removeFinalizer kind key finalizer => exact k.modifyMeta_mild _ _ _
  | getPvc ns name => exact mild_ok _
  | deletePvcs ns selector => exact mild_ok _
  | getPolicy ns name => exact mild_ok _
  | getSecret ns name => exact mild_ok _
  | listSandboxes => exact mild_ok _
  | listProviders => exact mild_ok _
  | publish kind key event => exact mild_ok _

end Cluster

section world
variable {X : Externals}

theorem World.react_mild (X : Externals) (w : World) (c : Call) (f : Fate Outage) :
    Mild (World.react X w c f).2 := by
  have houtage : ∀ outage : Outage, outage.error.isTerminal = false := by
    intro outage
    cases outage <;> rfl
  cases f with
  | refused outage => exact mild_error (houtage outage)
  | unheard outage => exact mild_error (houtage outage)
  | served =>
      cases c with
      | rpc r => exact Gateway.serve_mild X.accepts w.gateway r
      | kube k => exact Cluster.serve_mild w.cluster k

/-- The publication of an event leaves the world alone, however it fares. -/
theorem World.react_event (X : Externals) (w : World) {c : Call} (f : Fate Outage)
    (h : c.isEvent = true) : (World.react X w c f).1 = w := by
  match c with
  | .rpc r => cases h
  | .kube (.publish kind key event) => exact respond_of_serve_eq rfl

/-! ### Events -/

/-- A reconcile of a sandbox, provider or workspace resource. -/
inductive Reconciles (X : Externals) : Kind → Op Action → Prop
  | sandbox (now : Time) (sandbox : OpenShellSandbox) :
      Reconciles X .sandbox (SandboxController.reconcile X now sandbox)
  | provider (now : Time) (provider : OpenShellProvider) :
      Reconciles X .provider (ProviderController.reconcile X now provider)
  | workspace (now : Time) (workspace : OpenShellWorkspace) :
      Reconciles X .workspace (WorkspaceController.reconcile now workspace)

theorem Reconciles.conforms {kind : Kind} {p : Op Action} (h : Reconciles X kind p) :
    p.Conforms (contract kind) (fun _ => True) := by
  cases h with
  | sandbox now sandbox =>
      exact Prog.Conforms.mono (fun _ _ => trivial) (SandboxController.reconcile_conforms now)
  | provider now provider =>
      exact Prog.Conforms.mono (fun _ _ => trivial) (ProviderController.reconcile_conforms now)
  | workspace now workspace =>
      exact Prog.Conforms.mono (fun _ _ => trivial) (WorkspaceController.reconcile_conforms now)

/-- **Events change nothing.**  Take any run of a reconcile, with failing calls, any interference
and stopped anywhere, and let the publications of its events fare in any other way: that is a run
too, with the same calls, the same world and the same rest of the program to go, or outcome. -/
theorem events_change_nothing {kind : Kind} {p p' : Op Action} (hp : Reconciles X kind p)
    {R : Rely World} {w w' : World} {tr : List (Call × Fate Outage)}
    (hs : Prog.Steps (World.react X) R p w tr p' w') (choose : Call → Fate Outage → Fate Outage) :
    Prog.Steps (World.react X) R p w (Prog.rechoose (·.isEvent = true) choose tr) p' w' := by
  refine Prog.Conforms.rechoose (K := contract kind) (P := fun c : Call => c.isEvent = true)
    (fun _ h => h) ?_ ?_ choose hs hp.conforms
  · exact fun w c f err h => World.react_mild X w c f err h
  · intro w c f f' hc
    rw [World.react_event X w f hc, World.react_event X w f' hc]

/-! ### Retries -/

namespace SandboxController

/-- When to retry after a failure: a terminal error is left to the drift cadence. -/
def errorPolicy (err : Error) : Action :=
  .requeue (if err.isTerminal then requeueInterval else errorRequeueInterval)

/-- **A slow retry needs an edit.**  If a reconcile fails and is not retried on the error cadence,
then either the gateway has rejected the policy of the live sandbox, or no apply of a resource with
this spec succeeds, whatever its status, the gateway and the cluster are. -/
theorem slow_retry_needs_edit {R : Rely World} {w w' : World} {tr : List (Call × Fate Outage)}
    {now : Time} {sandbox : OpenShellSandbox} {err : Error}
    (hs : Prog.Steps (World.react X) R (reconcile X now sandbox) w tr (.done (.error err)) w')
    (hslow : errorPolicy err ≠ .requeue errorRequeueInterval) :
    (∃ message, err = .finalizer (.applyFailed (.policyUpdateRejected message))) ∨
    ∀ sandbox' : OpenShellSandbox, sandbox'.spec = sandbox.spec →
      ∀ (X' : Externals) (R' : Rely World) (now' : Time) (w₁ w₂ : World)
        (tr' : List (Call × Fate Outage)) (action : Action),
        ¬ Prog.Steps (World.react X') R' (apply X' now' sandbox') w₁ tr' (.done (.ok action)) w₂ := by
  have hterminal : err.isTerminal = true := by
    by_contra h
    rw [errorPolicy, if_neg h] at hslow
    exact hslow rfl
  have hmild : ∀ (X : Externals) w c f e, (World.react X w c f).2 = .error e →
      e.isTerminal = false := fun X w c f e h => World.react_mild X w c f e h
  have hend := (Prog.Conforms.steps (hmild X) hs (reconcile_conforms now)).1
  obtain ⟨inner, rfl, -, hspec | ⟨message, rfl⟩⟩ := hend err rfl hterminal
  · right
    intro sandbox' hsame X' R' now' w₁ w₂ tr' action hs'
    have hworks := (Prog.Conforms.steps (hmild X') hs' (apply_conforms now')).1
    rw [← hsame] at hspec
    exact hspec hworks
  · exact .inl ⟨message, rfl⟩

end SandboxController

end world

namespace Sample

/-- A sandbox with two sources of a policy. -/
def conflicted : OpenShellSandbox where
  metadata := { name := "box", namespace_ := some "team",
                finalizers := [SandboxController.finalizerName] }
  spec := { policy := some {}, policyRef := some "base" }

theorem conflicted_fails : (SandboxController.reconcile versionExternals 0 conflicted).outcome
    (World.serve versionExternals) {} = ({}, .error (.finalizer (.applyFailed .policySourceConflict))) := rfl

/-- The failure is the same when its event cannot be published. -/
theorem conflicted_unpublished : ∃ tr w', Prog.Steps (World.react versionExternals) Rely.none
    (SandboxController.reconcile versionExternals 0 conflicted) {}
    (Prog.rechoose (·.isEvent = true) (fun _ _ => .refused (.kube "no events today")) tr)
    (.done (.error (.finalizer (.applyFailed .policySourceConflict)))) w' := by
  obtain ⟨tr, hs⟩ := Prog.steps_outcome Outage.error (World.serve versionExternals) Rely.none
    (SandboxController.reconcile versionExternals 0 conflicted) {}
  rw [conflicted_fails] at hs
  exact ⟨tr, _, events_change_nothing (.sandbox 0 conflicted) hs _⟩

/-- A sandbox with two sources of a policy is not retried soon, and waits for an edit. -/
theorem conflicted_waits :
    SandboxController.errorPolicy (.finalizer (.applyFailed .policySourceConflict)) =
      .requeue requeueInterval ∧
    ∀ sandbox' : OpenShellSandbox, sandbox'.spec = conflicted.spec →
      ∀ (X' : Externals) (R' : Rely World) (now' : Time) (w₁ w₂ : World)
        (tr' : List (Call × Fate Outage)) (action : Action),
        ¬ Prog.Steps (World.react X') R' (SandboxController.apply X' now' sandbox') w₁ tr'
          (.done (.ok action)) w₂ := by
  obtain ⟨tr, hs⟩ := Prog.steps_outcome Outage.error (World.serve versionExternals) Rely.none
    (SandboxController.reconcile versionExternals 0 conflicted) {}
  rw [conflicted_fails] at hs
  refine ⟨rfl, ?_⟩
  rcases SandboxController.slow_retry_needs_edit hs (by decide) with ⟨message, hmessage⟩ | hwaits
  · cases hmessage
  · exact hwaits

end Sample

end OpenShell
