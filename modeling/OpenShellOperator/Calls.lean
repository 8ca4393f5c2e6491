import OpenShellOperator.Effects.Prog
import OpenShellOperator.Gateway

/-! # The operator's calls

`Call` is one call of the operator to the gateway or to the Kubernetes API, `Op` a program
over these calls that may fail with an operator error.  The methods of the gateway client
(`SdkGateway`), the finalizer wrapper and the event recorder are such programs. -/

namespace OpenShell
open Wire Effects

/-! ### Calls -/

/-- The operator's own resources that own gateway state. -/
inductive Kind where
  | sandbox
  | provider
  | workspace
deriving DecidableEq, Repr

inductive EventType where
  | normal
  | warning
deriving DecidableEq, Repr

structure Event where
  type_ : EventType
  reason : String
  action : String
  note : String
deriving DecidableEq, Repr

inductive KubeCall where
  | getPvc (ns name : String)
  | createPvc (ns : String) (pvc : PersistentVolumeClaim)
  | patchPvcLabels (ns name : String) (labels : StrMap String)
  | deletePvcs (ns selector : String)
  | getPolicy (ns name : String)
  | getSecret (ns name : String)
  | listSandboxes
  | listProviders
  | patchSandboxStatus (ns name : String) (status : OpenShellSandboxStatus)
  | patchProviderStatus (ns name : String) (status : OpenShellProviderStatus)
  | patchWorkspaceStatus (name : String) (status : OpenShellWorkspaceStatus)
  | addFinalizer (kind : Kind) (key : Key) (finalizer : String)
  | removeFinalizer (kind : Kind) (key : Key) (finalizer : String)
  | publish (kind : Kind) (key : Key) (event : Event)
deriving Repr

abbrev KubeCall.Answer : KubeCall → Type
  | getPvc _ _ => Option PersistentVolumeClaim
  | getPolicy _ _ => Option OpenShellPolicySpec
  | getSecret _ _ => Option Secret
  | listSandboxes => List OpenShellSandbox
  | listProviders => List OpenShellProvider
  | _ => Unit

inductive Call where
  | rpc (r : Rpc)
  | kube (k : KubeCall)
deriving Repr

abbrev Call.Answer : Call → Type
  | rpc r => r.Answer
  | kube k => k.Answer

/-- A program of the operator. -/
abbrev Op (α : Type) := Prog Call.Answer Error α

def rpc (r : Rpc) : Op r.Answer := Prog.perform (ε := Error) (Call.rpc r)

def kube (k : KubeCall) : Op k.Answer := Prog.perform (ε := Error) (Call.kube k)

/-- A pure computation that may fail. -/
def Op.lift {α : Type} (r : Except Error α) : Op α := Prog.done r

/-! ### The gateway client -/

namespace SdkGateway

/-- Run a read; an object the gateway does not have is no error. -/
def notFoundIsNone {α : Type} (p : Op (Option α)) : Op (Option α) := do
  match ← p.attempt with
  | .ok found => pure found
  | .error err => if err.hasCode .notFound then pure none else Prog.fail err

def createSandbox (create : SandboxCreate) : Op SandboxState := do
  match ← rpc (.createSandbox (createSandboxRequest create)) with
  | some sandbox => pure (sandboxState sandbox)
  | none => Prog.fail (.gateway "sandbox missing from gateway response")

/-- Fetch a sandbox, or none if the gateway has no such sandbox. -/
def getSandbox (name workspace : String) : Op (Option SandboxState) := do
  let sandbox ← notFoundIsNone (rpc (.getSandbox name (workspaceScope workspace)))
  pure (sandbox.map sandboxState)

/-- Delete a sandbox; `false` if it was already absent. -/
def deleteSandbox (name workspace : String) : Op Bool := do
  let outcome ← rpc (.deleteSandbox name (workspaceScope workspace))
  pure (removed outcome)

def attachProvider (sandbox provider workspace : String) : Op Unit :=
  rpc (.attachSandboxProvider sandbox provider (workspaceScope workspace))

def detachProvider (sandbox provider workspace : String) : Op Unit :=
  rpc (.detachSandboxProvider sandbox provider (workspaceScope workspace))

/-- A change the gateway forbids is a terminal error. -/
def updateError : Error → Error
  | .gatewayRpc status =>
      if status.code = .invalidArgument then .policyUpdateRejected status.message
      else .gatewayRpc status
  | err => err

/-- Apply a policy to a live sandbox in place. -/
def updatePolicy (sandbox : String) (policy : SandboxPolicy) (workspace : String) : Op Unit := do
  match ← (rpc (.updateConfig ⟨sandbox, some policy, some (workspaceScope workspace)⟩)).attempt with
  | .ok _ => pure ()
  | .error err => Prog.fail (updateError err)

/-- The provider the gateway has, if any. -/
def existingProvider (name workspace : String) : Op (Option Provider) :=
  notFoundIsNone (rpc (.getProvider name (workspaceScope workspace)))

/-- Create or update a provider; an update carries the metadata of the existing one. -/
def upsertProvider (input : ProviderInput) : Op Unit := do
  let existing ← existingProvider input.name input.workspace
  let meta_ := (existing.bind (·.metadata)).getD { name := input.name }
  let provider : Provider := ⟨some meta_, input.providerType, input.credentials, input.config⟩
  match existing with
  | some _ => rpc (.updateProvider provider (workspaceScope input.workspace))
  | none => rpc (.createProvider provider (workspaceScope input.workspace))

/-- Delete a provider; `false` if it was already absent. -/
def deleteProvider (name workspace : String) : Op Bool := do
  let outcome ← rpc (.deleteProvider name (workspaceScope workspace))
  pure (removed outcome)

def listProviderProfiles : Op (List ProviderProfileView) := do
  let profiles ← rpc .listProviderProfiles
  pure (List.map providerProfileView profiles)

def configureProviderRefresh (input : ConfigureRefreshInput) : Op Unit :=
  rpc (.configureProviderRefresh
    ⟨input.provider, input.credentialKey, refreshStrategyToProto input.plan.strategy,
      input.plan.material, input.plan.secretMaterialKeys, some (workspaceScope input.workspace)⟩)

/-- Fetch a workspace, or none if the gateway has no such workspace. -/
def getWorkspace (name : String) : Op (Option WorkspaceState) := do
  match ← notFoundIsNone (rpc (.getWorkspace name)) with
  | none => pure none
  | some workspace => some <$> Op.lift (workspaceState (some workspace))

/-- Create a workspace, adopting one that already exists. -/
def createWorkspace (create : WorkspaceCreate) : Op WorkspaceState := do
  match ← (rpc (.createWorkspace create.name create.labels)).attempt with
  | .ok workspace => Op.lift (workspaceState workspace)
  | .error err =>
      if err.hasCode .alreadyExists then do
        match ← getWorkspace create.name with
        | some state => pure state
        | none => Prog.fail (missingWorkspace create.name)
      else Prog.fail err

/-- Delete a workspace; `false` if it was already absent. -/
def deleteWorkspace (name : String) : Op Bool := do
  let outcome ← rpc (.deleteWorkspace name)
  pure (removed outcome)

def listWorkspaceMembers (workspace : String) : Op (List WorkspaceMemberView) :=
  rpc (.listWorkspaceMembers (workspaceScope workspace))

def addWorkspaceMember (workspace subject : String) (role : WorkspaceRole) : Op Unit :=
  rpc (.addWorkspaceMember (workspaceScope workspace) subject role)

def removeWorkspaceMember (workspace subject : String) : Op Unit :=
  rpc (.removeWorkspaceMember (workspaceScope workspace) subject)

end SdkGateway

/-! ### Events and finalizers -/

/-- What a reconcile asks the controller to do next. -/
inductive Action where
  | requeue (seconds : ℕ)
  | awaitChange
deriving DecidableEq, Repr

def requeueInterval : ℕ := 300
def transitionalRequeueInterval : ℕ := 10
def errorRequeueInterval : ℕ := 15

/-- Publish an event; a failure to publish is never propagated. -/
def recordEvent (kind : Kind) (key : Key) (event : Event) : Op Unit := do
  let _ ← (kube (.publish kind key event)).attempt
  pure ()

def recordFailure (kind : Kind) (key : Key) (action : String) (err : Error) : Op Unit :=
  recordEvent kind key ⟨.warning, err.reason, action, err.toString⟩

/-- Run a program and wrap its error. -/
def Op.mapErr {α : Type} (f : Error → Error) (p : Op α) : Op α := do
  match ← p.attempt with
  | .ok a => pure a
  | .error err => Prog.fail (f err)

/-- The finalizer machinery: the finalizer is added before the first apply, and removed once
a cleanup has succeeded. -/
def finalizer (kind : Kind) (name : String) (m : ObjectMeta) (apply cleanup : Op Action) :
    Op Action :=
  match m.finalizers.contains name, m.deletionTimestamp.isSome with
  | true, false => apply.mapErr (fun err => .finalizer (.applyFailed err))
  | true, true => do
      let action ← cleanup.mapErr (fun err => .finalizer (.cleanupFailed err))
      Op.mapErr (fun err => .finalizer (.removeFinalizer err.kubeText))
        (kube (.removeFinalizer kind m.key name))
      pure action
  | false, false => do
      Op.mapErr (fun err => .finalizer (.addFinalizer err.kubeText))
        (kube (.addFinalizer kind m.key name))
      pure .awaitChange
  | false, true => pure .awaitChange

end OpenShell
