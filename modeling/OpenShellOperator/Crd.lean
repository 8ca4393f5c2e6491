import OpenShellOperator.Credentials
import OpenShellOperator.Kube

/-! # Custom resources

The operator's custom resources: their specs, their statuses, and the JSON form of the spec
parts that are rendered into fingerprints and requests. -/

namespace OpenShell
open Wire

/-- A string field that is left out when empty. -/
def nonEmpty (s : String) : Option Json := if s = "" then none else some (.str s)

/-- A list field that is left out when empty. -/
def nonEmptyList (l : List String) : Option Json := if l = [] then none else some (.ofStrings l)

/-! ### Policies -/

@[ext] structure FilesystemPolicy where
  includeWorkdir : Bool := false
  readOnly : List String := []
  readWrite : List String := []
deriving DecidableEq, Repr

@[ext] structure LandlockPolicy where
  compatibility : String := ""
deriving DecidableEq, Repr

@[ext] structure ProcessPolicy where
  runAsUser : String := ""
  runAsGroup : String := ""
deriving DecidableEq, Repr

/-- A policy document; the network rules are passed through as they are. -/
structure OpenShellPolicySpec where
  version : UInt32 := 1
  filesystem : Option FilesystemPolicy := none
  landlock : Option LandlockPolicy := none
  process : Option ProcessPolicy := none
  networkPolicies : StrMap Json := ∅
deriving Repr

def FilesystemPolicy.toJson (p : FilesystemPolicy) : Json :=
  .obj (Json.insertSome "readWrite" (nonEmptyList p.readWrite)
    (Json.insertSome "readOnly" (nonEmptyList p.readOnly)
      (Json.insert "includeWorkdir" (.bool p.includeWorkdir) [])))

def LandlockPolicy.toJson (p : LandlockPolicy) : Json :=
  .obj (Json.insertSome "compatibility" (nonEmpty p.compatibility) [])

def ProcessPolicy.toJson (p : ProcessPolicy) : Json :=
  .obj (Json.insertSome "runAsGroup" (nonEmpty p.runAsGroup)
    (Json.insertSome "runAsUser" (nonEmpty p.runAsUser) []))

/-! ### Sandboxes -/

/-- A volume that is provisioned for a sandbox and mounted into it. -/
structure SandboxVolume where
  name : String
  mountPath : String
  subPath : Option String := none
  readOnly : Bool := false
  claim : PersistentVolumeClaimSpec := {}
deriving Repr

/-- What happens to a sandbox's volumes when its resource is deleted. -/
inductive VolumeRetention where
  | retain
  | delete
deriving DecidableEq, Repr

structure ResourceQuantities where
  cpu : Option String := none
  memory : Option String := none
deriving DecidableEq, Repr

structure SandboxResources where
  requests : Option ResourceQuantities := none
  limits : Option ResourceQuantities := none
deriving DecidableEq, Repr

def ResourceQuantities.toJson (q : ResourceQuantities) : Json :=
  .obj (Json.insertSome "memory" (q.memory.map .str) (Json.insertSome "cpu" (q.cpu.map .str) []))

def SandboxResources.toJson (r : SandboxResources) : Json :=
  .obj (Json.insertSome "limits" (r.limits.map (·.toJson))
    (Json.insertSome "requests" (r.requests.map (·.toJson)) []))

structure OpenShellSandboxSpec where
  image : Option String := none
  environment : StrMap String := ∅
  providers : List String := []
  gpu : Bool := false
  gpuCount : Option UInt32 := none
  policy : Option OpenShellPolicySpec := none
  policyRef : Option String := none
  volumes : List SandboxVolume := []
  volumeRetention : VolumeRetention := .retain
  logLevel : Option String := none
  resources : Option SandboxResources := none
  runtimeClassName : Option String := none
  labels : StrMap String := ∅
  annotations : StrMap String := ∅
  workspace : Option String := none
deriving Repr

inductive Phase where
  | provisioning
  | ready
  | error
  | deleting
  | stopped
deriving DecidableEq, Repr

structure OpenShellSandboxStatus where
  conditions : List Condition := []
  phase : Option Phase := none
  sandboxId : Option String := none
  appliedSpecHash : Option String := none
  appliedPolicyHash : Option String := none
  observedGeneration : Option Int64 := none
deriving DecidableEq, Repr

structure OpenShellSandbox where
  metadata : ObjectMeta
  spec : OpenShellSandboxSpec
  status : Option OpenShellSandboxStatus := none
deriving Repr

/-! ### Providers -/

/-- A Secret of the resource's own namespace; no keys stands for all of them. -/
structure SecretRef where
  name : String
  keys : List String := []
deriving DecidableEq, Repr

structure OpenShellProviderSpec where
  providerType : String
  credentialsSecretRef : SecretRef
  config : StrMap String := ∅
  workspace : Option String := none
deriving DecidableEq, Repr

structure OpenShellProviderStatus where
  conditions : List Condition := []
  observedGeneration : Option Int64 := none
  syncedHash : Option String := none
  credentialMode : Option CredentialMode := none
deriving DecidableEq, Repr

structure OpenShellProvider where
  metadata : ObjectMeta
  spec : OpenShellProviderSpec
  status : Option OpenShellProviderStatus := none
deriving DecidableEq, Repr

/-! ### Workspaces -/

/-- The role of a workspace member. -/
inductive WorkspaceRole where
  | user
  | admin
deriving DecidableEq, Repr

structure WorkspaceMember where
  subject : String
  role : WorkspaceRole
deriving DecidableEq, Repr

structure OpenShellWorkspaceSpec where
  labels : StrMap String := ∅
  members : Option (List WorkspaceMember) := none
deriving DecidableEq, Repr

inductive WorkspacePhase where
  | active
  | terminating
deriving DecidableEq, Repr

structure OpenShellWorkspaceStatus where
  conditions : List Condition := []
  phase : Option WorkspacePhase := none
  observedGeneration : Option Int64 := none
deriving DecidableEq, Repr

/-- A workspace resource; it is cluster-scoped, and its name is the gateway workspace's. -/
structure OpenShellWorkspace where
  metadata : ObjectMeta
  spec : OpenShellWorkspaceSpec
  status : Option OpenShellWorkspaceStatus := none
deriving DecidableEq, Repr

/-! ### Reusable documents -/

structure OpenShellPolicyStatus where
  conditions : List Condition := []
  observedGeneration : Option Int64 := none
deriving DecidableEq, Repr

/-- A policy resource; it holds no gateway state. -/
structure OpenShellPolicy where
  metadata : ObjectMeta
  spec : OpenShellPolicySpec
  status : Option OpenShellPolicyStatus := none
deriving Repr

/-- A provider type; the arrays are passed through as they are. -/
structure OpenShellProviderProfileSpec where
  displayName : String
  description : Option String := none
  category : Option String := none
  inferenceCapable : Bool := false
  credentials : List Json := []
  endpoints : List Json := []
  binaries : List Json := []
  discovery : Option Json := none
  annotations : StrMap String := ∅
deriving Repr

/-- The resource version is a 64-bit counter, taken not to wrap. -/
structure OpenShellProviderProfileStatus where
  conditions : List Condition := []
  observedGeneration : Option Int64 := none
  resourceVersion : Option ℕ := none
deriving DecidableEq, Repr

/-- A provider-profile resource; it is cluster-scoped, and its name is the profile's id. -/
structure OpenShellProviderProfile where
  metadata : ObjectMeta
  spec : OpenShellProviderProfileSpec
  status : Option OpenShellProviderProfileStatus := none
deriving Repr

end OpenShell
