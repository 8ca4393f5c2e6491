import OpenShellOperator.Crd
import OpenShellOperator.Error

/-! # The gateway's wire types

The requests the operator sends to the gateway, what it reads back, and the conversions
between them and the reconcilers' own types.  The messages carry the fields that the operator
sets or reads; maps that travel unordered are maps here as well.

`Rpc` lists the gateway calls the operator makes and `Rpc.Answer` what each of them answers. -/

namespace OpenShell
open Wire

/-! ### Workspaces -/

/-- The gateway's built-in workspace. -/
def defaultWorkspace : String := "default"

/-- The concrete workspace a `spec.workspace` value targets. -/
def workspaceName (workspace : String) : String :=
  if workspace = "" then defaultWorkspace else workspace

structure WorkspaceSelector where
  workspace : String
deriving DecidableEq, Repr

def workspaceScope (workspace : String) : WorkspaceSelector := ⟨workspaceName workspace⟩

/-! ### Values -/

/-- A `google.protobuf.Value`; a number is given by the bits of its double. -/
inductive ProtoValue where
  | nullValue
  | boolValue (flag : Bool)
  | numberValue (bits : UInt64)
  | stringValue (text : String)
  | listValue (values : List ProtoValue)
  | structValue (fields : List (String × ProtoValue))
deriving Repr

/-- A `google.protobuf.Struct`. -/
abbrev ProtoStruct := List (String × ProtoValue)

/-- The double nearest to a JSON number. -/
def asF64 : Number → Float
  | .posInt n => n.toFloat
  | .negInt n => n.toFloat
  | .float bits => Float.ofBits bits

mutual
def jsonValueToProst : Json → ProtoValue
  | .null => .nullValue
  | .bool flag => .boolValue flag
  | .num n => .numberValue (asF64 n).toBits
  | .str text => .stringValue text
  | .arr items => .listValue (jsonItemsToProst items)
  | .obj fields => .structValue (jsonFieldsToProst fields)
def jsonItemsToProst : List Json → List ProtoValue
  | [] => []
  | v :: vs => jsonValueToProst v :: jsonItemsToProst vs
def jsonFieldsToProst : List (String × Json) → ProtoStruct
  | [] => []
  | (k, v) :: fs => (k, jsonValueToProst v) :: jsonFieldsToProst fs
end

/-- A value that is not an object collapses to the empty struct. -/
def jsonValueToStruct : Json → ProtoStruct
  | .obj fields => jsonFieldsToProst fields
  | _ => []

/-! ### Sandboxes -/

/-- The gateway's policy message. -/
structure SandboxPolicy where
  version : UInt32
  filesystem : Option FilesystemPolicy
  landlock : Option LandlockPolicy
  process : Option ProcessPolicy
  networkPolicies : StrMap Json
deriving Repr

structure SandboxTemplate where
  image : String
  runtimeClassName : String
  labels : StrMap String
  annotations : StrMap String
  resources : Option ProtoStruct
  driverConfig : Option ProtoStruct
deriving Repr

structure GpuResourceRequirements where
  count : Option UInt32
deriving DecidableEq, Repr

structure ResourceRequirements where
  gpu : Option GpuResourceRequirements
deriving DecidableEq, Repr

structure SandboxSpec where
  logLevel : String
  environment : StrMap String
  template : Option SandboxTemplate
  policy : Option SandboxPolicy
  providers : List String
  resourceRequirements : Option ResourceRequirements
  command : List String
  tty : Bool
  providerAttachmentEpoch : String
deriving Repr

structure CreateSandboxRequest where
  spec : Option SandboxSpec
  name : String
  labels : StrMap String
  annotations : StrMap String
  workspaceScope : Option WorkspaceSelector
  awaitMainProcessAttachment : Bool
  workloadTemplate : String
  requestId : String
  serviceExposures : List Json
deriving Repr

/-- The reconciler's resolved desired state of a sandbox. -/
structure SandboxCreate where
  name : String
  image : Option String
  environment : StrMap String
  providers : List String
  gpu : Bool
  gpuCount : Option UInt32
  policy : Option SandboxPolicy
  driverConfig : Option Json
  logLevel : Option String
  resources : Option Json
  runtimeClassName : Option String
  labels : StrMap String
  annotations : StrMap String
  workspace : String
deriving Repr

/-- Whether any template-level field is set. -/
def SandboxCreate.needsTemplate (c : SandboxCreate) : Bool :=
  c.image.isSome || c.driverConfig.isSome || c.resources.isSome || c.runtimeClassName.isSome ||
    !c.labels.isEmpty || !c.annotations.isEmpty

/-- The raw create request: the image goes into the template, a GPU into the resource
requirements. -/
def createSandboxRequest (c : SandboxCreate) : CreateSandboxRequest where
  spec := some
    { logLevel := c.logLevel.getD ""
      environment := c.environment
      template :=
        if c.needsTemplate then
          some
            { image := c.image.getD ""
              runtimeClassName := c.runtimeClassName.getD ""
              labels := c.labels
              annotations := c.annotations
              resources := c.resources.map jsonValueToStruct
              driverConfig := c.driverConfig.map jsonValueToStruct }
        else none
      policy := c.policy
      providers := c.providers
      resourceRequirements := if c.gpu then some ⟨some ⟨c.gpuCount⟩⟩ else none
      command := []
      tty := false
      providerAttachmentEpoch := "" }
  name := c.name
  labels := ∅
  annotations := ∅
  workspaceScope := some (workspaceScope c.workspace)
  awaitMainProcessAttachment := false
  workloadTemplate := ""
  requestId := ""
  serviceExposures := []

inductive SandboxPhase where
  | unspecified
  | provisioning
  | ready
  | error
  | deleting
  | stopping
  | stopped
  | starting
  | unknown
deriving DecidableEq, Repr

/-- The metadata of a gateway object. -/
structure ProtoMeta where
  id : String := ""
  name : String := ""
  resourceVersion : UInt64 := 0
deriving DecidableEq, Repr

/-- A sandbox as the gateway reports it. -/
structure Sandbox where
  metadata : Option ProtoMeta
  spec : Option SandboxSpec
  phase : SandboxPhase
deriving Repr

/-- What the reconciler reads of a gateway sandbox. -/
structure SandboxState where
  id : String
  phase : SandboxPhase
  providers : List String
deriving DecidableEq, Repr

def sandboxState (sandbox : Sandbox) : SandboxState where
  id := (sandbox.metadata.map (·.id)).getD ""
  phase := sandbox.phase
  providers := (sandbox.spec.map (·.providers)).getD []

structure UpdateConfigRequest where
  sandbox : String
  policy : Option SandboxPolicy
  workspaceScope : Option WorkspaceSelector
deriving Repr

/-! ### Deletions -/

/-- How the gateway reports a delete. -/
inductive DeletionOutcome where
  | alreadyAbsent
  | other (value : Int32)
deriving DecidableEq, Repr

/-- Whether a delete removed its target. -/
def removed (outcome : DeletionOutcome) : Bool := outcome != .alreadyAbsent

/-! ### Providers -/

/-- A provider message.  The operator never sends expiry times, a profile workspace or
credential handles. -/
structure Provider where
  metadata : Option ProtoMeta
  type_ : String
  credentials : StrMap String
  config : StrMap String
deriving DecidableEq, Repr

/-- The reconciler's resolved desired state of a provider. -/
structure ProviderInput where
  name : String
  providerType : String
  credentials : StrMap String
  config : StrMap String
  workspace : String
deriving DecidableEq, Repr

inductive ProtoRefreshStrategy where
  | unspecified
  | static_
  | external_
  | oauth2RefreshToken
  | oauth2ClientCredentials
  | googleServiceAccountJwt
  | awsStsAssumeRole
  | unrecognized (value : Int32)
deriving DecidableEq, Repr

structure ProviderCredentialRefresh where
  strategy : ProtoRefreshStrategy
  material : List MaterialSpec
deriving DecidableEq, Repr

structure ProtoProfileCredential where
  name : String
  refresh : Option ProviderCredentialRefresh
deriving DecidableEq, Repr

/-- A provider-type profile as the gateway reports it. -/
structure ProtoProfile where
  id : String
  credentials : List ProtoProfileCredential
deriving DecidableEq, Repr

structure ProviderProfileCredential where
  name : String
  refresh : Option RefreshSpec
deriving DecidableEq, Repr

/-- What the reconciler reads of a profile. -/
structure ProviderProfileView where
  id : String
  credentials : List ProviderProfileCredential
deriving DecidableEq, Repr

/-- The strategies the gateway mints itself. -/
def refreshStrategyFromProto : ProtoRefreshStrategy → Option RefreshStrategy
  | .oauth2RefreshToken => some .oauth2RefreshToken
  | .oauth2ClientCredentials => some .oauth2ClientCredentials
  | .googleServiceAccountJwt => some .googleServiceAccountJwt
  | .awsStsAssumeRole => some .awsStsAssumeRole
  | .unspecified | .static_ | .external_ | .unrecognized _ => none

def refreshStrategyToProto : RefreshStrategy → ProtoRefreshStrategy
  | .oauth2RefreshToken => .oauth2RefreshToken
  | .oauth2ClientCredentials => .oauth2ClientCredentials
  | .googleServiceAccountJwt => .googleServiceAccountJwt
  | .awsStsAssumeRole => .awsStsAssumeRole

def refreshSpec (refresh : ProviderCredentialRefresh) : Option RefreshSpec :=
  (refreshStrategyFromProto refresh.strategy).map (fun strategy => ⟨strategy, refresh.material⟩)

def profileCredential (credential : ProtoProfileCredential) : ProviderProfileCredential :=
  ⟨credential.name, credential.refresh.bind refreshSpec⟩

def providerProfileView (profile : ProtoProfile) : ProviderProfileView :=
  ⟨profile.id, profile.credentials.map profileCredential⟩

structure ConfigureProviderRefreshRequest where
  provider : String
  credentialKey : String
  strategy : ProtoRefreshStrategy
  material : StrMap String
  secretMaterialKeys : List String
  workspaceScope : Option WorkspaceSelector
deriving DecidableEq, Repr

/-- A refresh configuration for one credential of a provider. -/
structure ConfigureRefreshInput where
  provider : String
  credentialKey : String
  plan : RefreshPlan
  workspace : String
deriving DecidableEq, Repr

/-! ### Workspaces and their members -/

inductive GatewayWorkspacePhase where
  | active
  | terminating
  | unknown
deriving DecidableEq, Repr

/-- A workspace as the gateway reports it; the phase is absent without a status. -/
structure Workspace where
  phase : Option GatewayWorkspacePhase
deriving DecidableEq, Repr

structure WorkspaceState where
  phase : GatewayWorkspacePhase
deriving DecidableEq, Repr

structure WorkspaceCreate where
  name : String
  labels : StrMap String
deriving DecidableEq, Repr

structure WorkspaceMemberView where
  subject : String
  role : WorkspaceRole
deriving DecidableEq, Repr

/-- Project a gateway workspace, with an error when the response carried none. -/
def workspaceState : Option Workspace → Except Error WorkspaceState
  | none => .error (.gateway "workspace missing from gateway response")
  | some workspace => .ok ⟨workspace.phase.getD .unknown⟩

def missingWorkspace (name : String) : Error :=
  .gateway ("workspace " ++ name ++ " missing from gateway response")

/-! ### Calls -/

/-- The gateway RPCs the reconcilers make.  A paged listing is one call. -/
inductive Rpc where
  | createSandbox (request : CreateSandboxRequest)
  | getSandbox (name : String) (scope : WorkspaceSelector)
  | deleteSandbox (name : String) (scope : WorkspaceSelector)
  | attachSandboxProvider (sandbox provider : String) (scope : WorkspaceSelector)
  | detachSandboxProvider (sandbox provider : String) (scope : WorkspaceSelector)
  | updateConfig (request : UpdateConfigRequest)
  | getProvider (name : String) (scope : WorkspaceSelector)
  | createProvider (provider : Provider) (scope : WorkspaceSelector)
  | updateProvider (provider : Provider) (scope : WorkspaceSelector)
  | deleteProvider (name : String) (scope : WorkspaceSelector)
  | listProviderProfiles
  | configureProviderRefresh (request : ConfigureProviderRefreshRequest)
  | createWorkspace (name : String) (labels : StrMap String)
  | getWorkspace (name : String)
  | deleteWorkspace (name : String)
  | listWorkspaceMembers (scope : WorkspaceSelector)
  | addWorkspaceMember (scope : WorkspaceSelector) (subject : String) (role : WorkspaceRole)
  | removeWorkspaceMember (scope : WorkspaceSelector) (subject : String)
deriving Repr

/-- What each RPC answers. -/
abbrev Rpc.Answer : Rpc → Type
  | createSandbox _ | getSandbox _ _ => Option Sandbox
  | deleteSandbox _ _ | deleteProvider _ _ | deleteWorkspace _ => DeletionOutcome
  | getProvider _ _ => Option Provider
  | listProviderProfiles => List ProtoProfile
  | createWorkspace _ _ | getWorkspace _ => Option Workspace
  | listWorkspaceMembers _ => List WorkspaceMemberView
  | _ => Unit

end OpenShell
