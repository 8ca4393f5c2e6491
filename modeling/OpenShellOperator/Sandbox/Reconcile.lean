import OpenShellOperator.Calls
import OpenShellOperator.Sandbox.Fingerprint

/-! # Sandbox reconcile

Converging the gateway sandbox of a resource to its spec and resolved policy: create it when
absent, recreate it when an immutable field drifted from the recorded hash, else attach and
detach providers and update the policy in place; recording the outcome on the resource; and
deleting the sandbox, with its volume claims when the spec says so. -/

namespace OpenShell
open Wire Effects

namespace SandboxController

def finalizerName : String := "openshell.lenshq.io/sandbox-cleanup"

def recreatePollAttempts : ℕ := 30

/-! ### Policy -/

inductive PolicySource where
  | none
  | inline (policy : OpenShellPolicySpec)
  | ref (name : String)

/-- Where the policy comes from; setting both sources is an error. -/
def selectPolicySource (spec : OpenShellSandboxSpec) : Except Error PolicySource :=
  match spec.policy, spec.policyRef with
  | some _, some _ => .error .policySourceConflict
  | some inline, none => .ok (.inline inline)
  | none, some policyRef => .ok (.ref policyRef)
  | none, none => .ok .none

/-- A resolved policy: its source for hashing, and the gateway's message of it. -/
structure ResolvedPolicy where
  spec : Option OpenShellPolicySpec
  proto : Option SandboxPolicy

/-- The source of the policy, fetched if it is a reference. -/
def fetchSource (ns : String) (spec : OpenShellSandboxSpec) : Op (Option OpenShellPolicySpec) := do
  match ← Op.lift (selectPolicySource spec) with
  | .none => pure none
  | .inline inline => pure (some inline)
  | .ref policyRef =>
      match ← kube (.getPolicy ns policyRef) with
      | some policy => pure (some policy)
      | none => Prog.fail (.policyNotFound ns policyRef)

def resolve (X : Externals) (ns : String) (spec : OpenShellSandboxSpec) : Op ResolvedPolicy := do
  let source ← fetchSource ns spec
  let proto ← Op.lift (resolvedProto X source)
  pure ⟨source, proto⟩

/-! ### Volumes -/

def hasLabels (pvc : PersistentVolumeClaim) (wanted : StrMap String) : Bool :=
  wanted.toList.all (fun kv => pvc.labels.any (fun labels => labels[kv.1]? == some kv.2))

/-- Create the claim of one volume, or label an existing one for admission. -/
def ensurePvc (ns name workspace : String) (volume : SandboxVolume) : Op PUnit := do
  let pvcName := Volumes.pvcName name volume
  match ← kube (.getPvc ns pvcName) with
  | none => kube (.createPvc ns (Volumes.buildPvc name workspace volume))
  | some existing =>
      if !hasLabels existing (Volumes.admissionLabels workspace) then
        kube (.patchPvcLabels ns pvcName (Volumes.admissionLabels workspace))
      else pure ⟨⟩

def ensurePvcs (ns name : String) (spec : OpenShellSandboxSpec) : Op PUnit :=
  spec.volumes.forM (ensurePvc ns name spec.workspaceOf)

/-! ### Converging -/

/-- The live state after a successful converge and the hashes to record. -/
structure Converged where
  state : SandboxState
  appliedSpecHash : String
  appliedPolicyHash : String
deriving DecidableEq, Repr

/-- A recorded hash that differs from the desired one. -/
def hashDrifted (applied : Option String) (desired : String) : Bool :=
  match applied with
  | some hash => hash != desired
  | none => false

/-- The providers to attach and those to detach. -/
def providerDelta (desired current : List String) : List String × List String :=
  (desired.filter (fun provider => !current.contains provider),
    current.filter (fun provider => !desired.contains provider))

def convergeProviders (name : String) (desired : List String) (existing : SandboxState)
    (workspace : String) : Op PUnit := do
  let delta := providerDelta desired existing.providers
  delta.1.forM (fun provider => SdkGateway.attachProvider name provider workspace)
  delta.2.forM (fun provider => SdkGateway.detachProvider name provider workspace)

def create (name : String) (sandbox : OpenShellSandbox) (policy : Option SandboxPolicy) :
    Op SandboxState :=
  SdkGateway.createSandbox (buildSandboxCreate name sandbox.spec policy)

/-- Wait for the old sandbox to disappear, then create it afresh. -/
def awaitGone (name : String) (sandbox : OpenShellSandbox) (policy : Option SandboxPolicy) :
    ℕ → Op SandboxState
  | 0 => Prog.fail (.recreateTimeout name)
  | attempts + 1 => do
      match ← SdkGateway.getSandbox name sandbox.spec.workspaceOf with
      | none => create name sandbox policy
      | some _ => awaitGone name sandbox policy attempts

def recreate (name : String) (sandbox : OpenShellSandbox) (policy : Option SandboxPolicy) :
    Op SandboxState := do
  let _ ← SdkGateway.deleteSandbox name sandbox.spec.workspaceOf
  awaitGone name sandbox policy recreatePollAttempts

section converge
variable (X : Externals)

def createConverged (name : String) (sandbox : OpenShellSandbox) (resolved : ResolvedPolicy) :
    Op Converged := do
  let state ← create name sandbox resolved.proto
  pure ⟨state, immutableFingerprint X sandbox.spec resolved.spec,
    mutablePolicyFingerprint X resolved.spec⟩

def recreateConverged (name : String) (sandbox : OpenShellSandbox) (resolved : ResolvedPolicy)
    (desiredSpecHash : String) : Op Converged := do
  recordEvent .sandbox sandbox.metadata.key ⟨.normal, "Recreating", "Recreate",
    "immutable field changed; deleting and recreating the gateway sandbox " ++
      "(operator-owned volumes are preserved)"⟩
  let state ← recreate name sandbox resolved.proto
  pure ⟨state, desiredSpecHash, mutablePolicyFingerprint X resolved.spec⟩

def updatePolicyIfDrifted (name : String) (sandbox : OpenShellSandbox)
    (policy : Option SandboxPolicy) (priorPolicyHash : Option String)
    (desiredPolicyHash : String) : Op Unit :=
  match policy with
  | none => pure ()
  | some policy =>
      if hashDrifted priorPolicyHash desiredPolicyHash then do
        recordEvent .sandbox sandbox.metadata.key ⟨.normal, "PolicyUpdated", "UpdatePolicy",
          "applying policy mutable fields (networkPolicies, additive filesystem) in place"⟩
        SdkGateway.updatePolicy name policy sandbox.spec.workspaceOf
      else pure ()

/-- Converge a sandbox that is there and whose policy resolved. -/
def convergeExisting (name : String) (sandbox : OpenShellSandbox) (existing : SandboxState)
    (resolved : ResolvedPolicy) : Op Converged :=
  let desiredSpecHash := immutableFingerprint X sandbox.spec resolved.spec
  if hashDrifted (sandbox.status.bind (·.appliedSpecHash)) desiredSpecHash then
    recreateConverged X name sandbox resolved desiredSpecHash
  else do
    convergeProviders name sandbox.spec.providers existing sandbox.spec.workspaceOf
    let desiredPolicyHash := mutablePolicyFingerprint X resolved.spec
    updatePolicyIfDrifted name sandbox resolved.proto
      (sandbox.status.bind (·.appliedPolicyHash)) desiredPolicyHash
    pure ⟨existing, desiredSpecHash, desiredPolicyHash⟩

/-- What follows once the sandbox has been looked up and its policy resolved: a policy that
does not resolve is fatal for a create, and leaves a running sandbox with its last policy. -/
def convergeWith (name : String) (sandbox : OpenShellSandbox) (existing : Option SandboxState)
    (resolved : Except Error ResolvedPolicy) : Op Converged :=
  match existing, resolved with
  | none, .ok resolved => createConverged X name sandbox resolved
  | none, .error err => Prog.fail err
  | some existing, .ok resolved => convergeExisting X name sandbox existing resolved
  | some existing, .error err => do
      convergeProviders name sandbox.spec.providers existing sandbox.spec.workspaceOf
      Prog.fail err

def converge (ns name : String) (sandbox : OpenShellSandbox) : Op Converged := do
  Op.lift (Volumes.validate X.printable sandbox.spec.volumes)
  ensurePvcs ns name sandbox.spec
  let existing ← SdkGateway.getSandbox name sandbox.spec.workspaceOf
  let resolved ← (resolve X ns sandbox.spec).attempt
  convergeWith X name sandbox existing resolved

end converge

/-! ### Apply and cleanup -/

/-- The gateway's phase as the coarse phase of the resource. -/
def mapPhase : SandboxPhase → Phase
  | .ready => .ready
  | .error => .error
  | .deleting => .deleting
  | .stopped => .stopped
  | _ => .provisioning

def successRequeue (phase : Phase) : ℕ :=
  match phase with
  | .ready | .stopped => requeueInterval
  | _ => transitionalRequeueInterval

/-- The status after a successful converge. -/
def successStatus (now : Time) (sandbox : OpenShellSandbox) (converged : Converged) :
    OpenShellSandboxStatus where
  conditions := Conditions.set (sandbox.status.getD {}).conditions
    (Conditions.condition Conditions.ready true "Reconciled"
      "sandbox reconciled with the gateway" sandbox.metadata.generation now)
  phase := some (mapPhase converged.state.phase)
  sandboxId := some converged.state.id
  appliedSpecHash := some converged.appliedSpecHash
  appliedPolicyHash := some converged.appliedPolicyHash
  observedGeneration := sandbox.metadata.generation

/-- The status after a failed converge; the prior phase, id and hashes stay. -/
def failureStatus (now : Time) (sandbox : OpenShellSandbox) (err : Error) :
    OpenShellSandboxStatus where
  conditions := Conditions.set (sandbox.status.getD {}).conditions
    (Conditions.condition Conditions.ready false err.reason err.toString
      sandbox.metadata.generation now)
  phase := (sandbox.status.getD {}).phase
  sandboxId := (sandbox.status.getD {}).sandboxId
  appliedSpecHash := (sandbox.status.getD {}).appliedSpecHash
  appliedPolicyHash := (sandbox.status.getD {}).appliedPolicyHash
  observedGeneration := sandbox.metadata.generation

def patchStatus (ns name : String) (status : OpenShellSandboxStatus) : Op Unit :=
  kube (.patchSandboxStatus ns name status)

/-- Record the outcome of a converge on the resource. -/
def record (now : Time) (sandbox : OpenShellSandbox) (ns name : String) :
    Except Error Converged → Op Action
  | .ok converged => do
      patchStatus ns name (successStatus now sandbox converged)
      pure (.requeue (successRequeue (mapPhase converged.state.phase)))
  | .error err => do
      recordFailure .sandbox sandbox.metadata.key "Reconcile" err
      let _ ← (patchStatus ns name (failureStatus now sandbox err)).attempt
      Prog.fail err

def apply (X : Externals) (now : Time) (sandbox : OpenShellSandbox) : Op Action := do
  let name := sandbox.metadata.name
  match sandbox.metadata.namespace_ with
  | none => Prog.fail .missingNamespace
  | some ns => do
      let outcome ← (converge X ns name sandbox).attempt
      record now sandbox ns name outcome

def deleteProvisionedVolumes (sandbox : OpenShellSandbox) (name : String) : Op Unit :=
  match sandbox.metadata.namespace_ with
  | none => Prog.fail .missingNamespace
  | some ns => kube (.deletePvcs ns (Volumes.selector name))

/-- Delete the sandbox on the gateway, and its volume claims when they are not retained. -/
def cleanup (sandbox : OpenShellSandbox) : Op Action := do
  let name := sandbox.metadata.name
  let _ ← SdkGateway.deleteSandbox name sandbox.spec.workspaceOf
  if sandbox.spec.volumeRetention = .delete then deleteProvisionedVolumes sandbox name
  pure .awaitChange

def reconcile (X : Externals) (now : Time) (sandbox : OpenShellSandbox) : Op Action :=
  match sandbox.metadata.namespace_ with
  | none => Prog.fail .missingNamespace
  | some _ =>
      finalizer .sandbox finalizerName sandbox.metadata (apply X now sandbox) (cleanup sandbox)

end SandboxController
end OpenShell
