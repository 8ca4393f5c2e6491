import OpenShellOperator.Calls
import OpenShellOperator.Policy

/-! # The gateway and the cluster

What the calls of the operator do.  The gateway keeps sandboxes and providers by workspace
and name, and workspaces by name; the cluster keeps Kubernetes objects by namespace and name.

The gateway is an external service, and this is what the operator relies on: a create fails
on an existing key and stores what it is given; a sandbox delete is accepted at once, and the
sandbox stays until a later step of the gateway removes it; attach and detach act on a set;
an update replaces the mutable policy sections or is refused without effect; an upsert of a
provider leaves its refresh configurations; a workspace is marked terminating before the
check for what is left in it. -/

namespace OpenShell
open Wire

/-! ### Gateway state -/

/-- A sandbox on the gateway: the request it was created from, what has changed since, and
whether its deletion has been accepted. -/
structure GatewaySandbox where
  id : String
  request : CreateSandboxRequest
  providers : List String
  policy : Option SandboxPolicy
  phase : SandboxPhase
  deleting : Bool := false
deriving Repr

structure RefreshConfig where
  strategy : ProtoRefreshStrategy
  material : StrMap String
  secretMaterialKeys : List String
deriving DecidableEq, Repr

structure GatewayProvider where
  id : String
  resourceVersion : UInt64
  type_ : String
  credentials : StrMap String
  config : StrMap String
  refreshes : StrMap RefreshConfig := ∅
deriving DecidableEq, Repr

structure GatewayWorkspace where
  labels : StrMap String
  phase : GatewayWorkspacePhase
  members : StrMap WorkspaceRole := ∅
deriving DecidableEq, Repr

structure Gateway where
  sandboxes : KeyMap GatewaySandbox := ∅
  providers : KeyMap GatewayProvider := ∅
  workspaces : StrMap GatewayWorkspace := ∅
  profiles : List ProtoProfile := []
  nextId : ℕ := 0

/-- The gateway's store key. -/
def WorkspaceSelector.key (scope : WorkspaceSelector) (name : String) : Key :=
  ⟨scope.workspace, name⟩

def rpcError (code : Code) (message : String) : Error := .gatewayRpc ⟨code, message, message⟩

namespace Gateway

/-! ### Sandbox calls -/

/-- A sandbox as the gateway reports it. -/
def report (sandbox : GatewaySandbox) : Sandbox where
  metadata := some { id := sandbox.id, name := sandbox.request.name }
  spec := sandbox.request.spec.map (fun spec =>
    { spec with providers := sandbox.providers, policy := sandbox.policy })
  phase := if sandbox.deleting then .deleting else sandbox.phase

/-- The sandbox a request creates. -/
def newSandbox (id : String) (request : CreateSandboxRequest) : GatewaySandbox where
  id := id
  request := request
  providers := (request.spec.map (·.providers)).getD []
  policy := request.spec.bind (·.policy)
  phase := .provisioning

/-- The key a create request names. -/
def requestKey (request : CreateSandboxRequest) : Key :=
  ⟨(request.workspaceScope.map (·.workspace)).getD "", request.name⟩

def createSandbox (g : Gateway) (request : CreateSandboxRequest) :
    Gateway × Except Error (Option Sandbox) :=
  match g.sandboxes[requestKey request]? with
  | some _ => (g, .error (rpcError .alreadyExists "sandbox already exists"))
  | none =>
      let sandbox := newSandbox ("sb-" ++ Nat.repr g.nextId) request
      ({ g with
          sandboxes := g.sandboxes.insert (requestKey request) sandbox
          nextId := g.nextId + 1 }, .ok (some (report sandbox)))

def getSandbox (g : Gateway) (key : Key) : Except Error (Option Sandbox) :=
  match g.sandboxes[key]? with
  | some sandbox => .ok (some (report sandbox))
  | none => .error (rpcError .notFound "sandbox not found")

/-- Accept a deletion; the sandbox stays for now. -/
def deleteSandbox (g : Gateway) (key : Key) : Gateway × Except Error DeletionOutcome :=
  match g.sandboxes[key]? with
  | some sandbox =>
      ({ g with sandboxes := g.sandboxes.insert key { sandbox with deleting := true } },
        .ok (.other 1))
  | none => (g, .ok .alreadyAbsent)

/-- Change a sandbox that is there. -/
def modifySandbox (g : Gateway) (key : Key) (f : GatewaySandbox → Except Error GatewaySandbox) :
    Gateway × Except Error Unit :=
  match g.sandboxes[key]? with
  | none => (g, .error (rpcError .notFound "sandbox not found"))
  | some sandbox =>
      match f sandbox with
      | .ok sandbox' => ({ g with sandboxes := g.sandboxes.insert key sandbox' }, .ok ())
      | .error err => (g, .error err)

/-- Attach a provider the gateway knows. -/
def attach (g : Gateway) (scope : WorkspaceSelector) (provider : String)
    (sandbox : GatewaySandbox) : Except Error GatewaySandbox :=
  match g.providers[scope.key provider]? with
  | none => .error (rpcError .failedPrecondition "provider not found")
  | some _ =>
      .ok { sandbox with
        providers := if sandbox.providers.contains provider then sandbox.providers
          else sandbox.providers ++ [provider] }

def detach (provider : String) (sandbox : GatewaySandbox) : Except Error GatewaySandbox :=
  .ok { sandbox with providers := sandbox.providers.filter (· != provider) }

/-- A live policy with its mutable sections replaced. -/
def withMutable (old : Option SandboxPolicy) (new : SandboxPolicy) : SandboxPolicy :=
  match old with
  | some old =>
      { old with filesystem := new.filesystem, networkPolicies := new.networkPolicies }
  | none => new

/-- Replace the mutable policy sections, unless the gateway forbids it. -/
def updateConfig (accepts : Option SandboxPolicy → SandboxPolicy → Bool)
    (policy : Option SandboxPolicy) (sandbox : GatewaySandbox) : Except Error GatewaySandbox :=
  match policy with
  | none => .ok sandbox
  | some new =>
      if accepts sandbox.policy new then
        .ok { sandbox with policy := some (withMutable sandbox.policy new) }
      else .error (rpcError .invalidArgument "policy change not allowed on a live sandbox")

/-! ### Provider calls -/

/-- A provider as the gateway reports it, with the name it is stored under. -/
def providerMessage (name : String) (provider : GatewayProvider) : Provider :=
  ⟨some ⟨provider.id, name, provider.resourceVersion⟩, provider.type_, provider.credentials,
    provider.config⟩

def getProvider (g : Gateway) (key : Key) : Except Error (Option Provider) :=
  match g.providers[key]? with
  | some provider => .ok (some (providerMessage key.name provider))
  | none => .error (rpcError .notFound "provider not found")

/-- The key a provider message names. -/
def providerKey (provider : Provider) (scope : WorkspaceSelector) : Key :=
  scope.key ((provider.metadata.map (·.name)).getD "")

def createProvider (g : Gateway) (provider : Provider) (scope : WorkspaceSelector) :
    Gateway × Except Error Unit :=
  let key := providerKey provider scope
  match g.providers[key]? with
  | some _ => (g, .error (rpcError .alreadyExists "provider already exists"))
  | none =>
      let stored : GatewayProvider :=
        { id := "pr-" ++ Nat.repr g.nextId
          resourceVersion := 1
          type_ := provider.type_
          credentials := provider.credentials
          config := provider.config }
      ({ g with providers := g.providers.insert key stored, nextId := g.nextId + 1 }, .ok ())

/-- Replace type, credentials and config; the refresh configurations stay. -/
def updateProvider (g : Gateway) (provider : Provider) (scope : WorkspaceSelector) :
    Gateway × Except Error Unit :=
  let key := providerKey provider scope
  match g.providers[key]? with
  | none => (g, .error (rpcError .notFound "provider not found"))
  | some stored =>
      ({ g with
          providers := g.providers.insert key
            { stored with
              resourceVersion := stored.resourceVersion + 1
              type_ := provider.type_
              credentials := provider.credentials
              config := provider.config } }, .ok ())

def deleteProvider (g : Gateway) (key : Key) : Gateway × Except Error DeletionOutcome :=
  match g.providers[key]? with
  | some _ => ({ g with providers := g.providers.erase key }, .ok (.other 1))
  | none => (g, .ok .alreadyAbsent)

/-- Set the refresh configuration of one credential. -/
def configureProviderRefresh (g : Gateway) (request : ConfigureProviderRefreshRequest) :
    Gateway × Except Error Unit :=
  let key : Key := ⟨(request.workspaceScope.map (·.workspace)).getD "", request.provider⟩
  match g.providers[key]? with
  | none => (g, .error (rpcError .notFound "provider not found"))
  | some stored =>
      ({ g with
          providers := g.providers.insert key
            { stored with
              refreshes := stored.refreshes.insert request.credentialKey
                ⟨request.strategy, request.material, request.secretMaterialKeys⟩ } }, .ok ())

/-! ### Workspace calls -/

def createWorkspace (g : Gateway) (name : String) (labels : StrMap String) :
    Gateway × Except Error (Option Workspace) :=
  match g.workspaces[name]? with
  | some _ => (g, .error (rpcError .alreadyExists "workspace already exists"))
  | none =>
      ({ g with workspaces := g.workspaces.insert name ⟨labels, .active, ∅⟩ },
        .ok (some ⟨some .active⟩))

def getWorkspace (g : Gateway) (name : String) : Except Error (Option Workspace) :=
  match g.workspaces[name]? with
  | some workspace => .ok (some ⟨some workspace.phase⟩)
  | none => .error (rpcError .notFound "workspace not found")

/-- Whether a workspace still holds a sandbox or a provider. -/
def occupied (g : Gateway) (name : String) : Bool :=
  g.sandboxes.any (fun key _ => key.scope == name) ||
    g.providers.any (fun key _ => key.scope == name)

/-- Mark the workspace terminating, then remove it if nothing is left in it. -/
def deleteWorkspace (g : Gateway) (name : String) : Gateway × Except Error DeletionOutcome :=
  match g.workspaces[name]? with
  | none => (g, .ok .alreadyAbsent)
  | some workspace =>
      if g.occupied name then
        ({ g with workspaces := g.workspaces.insert name { workspace with phase := .terminating } },
          .error (rpcError .failedPrecondition "workspace is not empty"))
      else ({ g with workspaces := g.workspaces.erase name }, .ok (.other 1))

/-- Change the members of a workspace that is there. -/
def modifyMembers (g : Gateway) (name : String)
    (f : StrMap WorkspaceRole → Except Error (StrMap WorkspaceRole)) : Gateway × Except Error Unit :=
  match g.workspaces[name]? with
  | none => (g, .error (rpcError .notFound "workspace not found"))
  | some workspace =>
      match f workspace.members with
      | .error err => (g, .error err)
      | .ok members =>
          ({ g with workspaces := g.workspaces.insert name { workspace with members := members } },
            .ok ())

def listWorkspaceMembers (g : Gateway) (name : String) :
    Except Error (List WorkspaceMemberView) :=
  match g.workspaces[name]? with
  | none => .error (rpcError .notFound "workspace not found")
  | some workspace => .ok (workspace.members.toList.map (fun m => ⟨m.1, m.2⟩))

def addMember (subject : String) (role : WorkspaceRole) (members : StrMap WorkspaceRole) :
    Except Error (StrMap WorkspaceRole) :=
  if members.contains subject then .error (rpcError .alreadyExists "member already exists")
  else .ok (members.insert subject role)

def removeMember (subject : String) (members : StrMap WorkspaceRole) :
    Except Error (StrMap WorkspaceRole) :=
  if members.contains subject then .ok (members.erase subject)
  else .error (rpcError .notFound "member not found")

section results
variable {g : Gateway} {provider : Provider} {scope : WorkspaceSelector}

theorem createSandbox_of_none {request : CreateSandboxRequest}
    (h : g.sandboxes[requestKey request]? = none) :
    g.createSandbox request =
      ({ g with
          sandboxes := g.sandboxes.insert (requestKey request)
            (newSandbox ("sb-" ++ Nat.repr g.nextId) request)
          nextId := g.nextId + 1 },
        .ok (some (report (newSandbox ("sb-" ++ Nat.repr g.nextId) request)))) := by
  simp only [createSandbox, h]

theorem createProvider_of_none (h : g.providers[providerKey provider scope]? = none) :
    g.createProvider provider scope =
      ({ g with
          providers := g.providers.insert (providerKey provider scope)
            ⟨"pr-" ++ Nat.repr g.nextId, 1, provider.type_, provider.credentials, provider.config, ∅⟩
          nextId := g.nextId + 1 }, .ok ()) := by
  simp only [createProvider, h]

theorem updateProvider_of_some {stored : GatewayProvider}
    (h : g.providers[providerKey provider scope]? = some stored) :
    g.updateProvider provider scope =
      ({ g with
          providers := g.providers.insert (providerKey provider scope)
            ⟨stored.id, stored.resourceVersion + 1, provider.type_, provider.credentials,
              provider.config, stored.refreshes⟩ }, .ok ()) := by
  simp only [updateProvider, h]

theorem configureProviderRefresh_of_some {request : ConfigureProviderRefreshRequest}
    {stored : GatewayProvider} {key : Key}
    (hk : key = ⟨(request.workspaceScope.map (·.workspace)).getD "", request.provider⟩)
    (h : g.providers[key]? = some stored) :
    g.configureProviderRefresh request =
      ({ g with
          providers := g.providers.insert key
            { stored with
              refreshes := stored.refreshes.insert request.credentialKey
                ⟨request.strategy, request.material, request.secretMaterialKeys⟩ } }, .ok ()) := by
  subst hk
  simp only [configureProviderRefresh, h]

end results

/-- What each RPC does; `accepts` is the gateway's own check of live policy changes. -/
def serve (accepts : Option SandboxPolicy → SandboxPolicy → Bool) (g : Gateway) :
    (r : Rpc) → Gateway × Except Error r.Answer
  | .createSandbox request => g.createSandbox request
  | .getSandbox name scope => (g, g.getSandbox (scope.key name))
  | .deleteSandbox name scope => g.deleteSandbox (scope.key name)
  | .attachSandboxProvider sandbox provider scope =>
      g.modifySandbox (scope.key sandbox) (g.attach scope provider)
  | .detachSandboxProvider sandbox provider scope =>
      g.modifySandbox (scope.key sandbox) (detach provider)
  | .updateConfig request =>
      g.modifySandbox ⟨(request.workspaceScope.map (·.workspace)).getD "", request.sandbox⟩
        (Gateway.updateConfig accepts request.policy)
  | .getProvider name scope => (g, g.getProvider (scope.key name))
  | .createProvider provider scope => g.createProvider provider scope
  | .updateProvider provider scope => g.updateProvider provider scope
  | .deleteProvider name scope => g.deleteProvider (scope.key name)
  | .listProviderProfiles => (g, .ok g.profiles)
  | .configureProviderRefresh request => g.configureProviderRefresh request
  | .createWorkspace name labels => g.createWorkspace name labels
  | .getWorkspace name => (g, g.getWorkspace name)
  | .deleteWorkspace name => g.deleteWorkspace name
  | .listWorkspaceMembers scope => (g, g.listWorkspaceMembers scope.workspace)
  | .addWorkspaceMember scope subject role =>
      g.modifyMembers scope.workspace (addMember subject role)
  | .removeWorkspaceMember scope subject =>
      g.modifyMembers scope.workspace (removeMember subject)

end Gateway

/-! ### The cluster -/

structure Cluster where
  pvcs : KeyMap PersistentVolumeClaim := ∅
  policies : KeyMap OpenShellPolicySpec := ∅
  secrets : KeyMap Secret := ∅
  sandboxes : KeyMap OpenShellSandbox := ∅
  providers : KeyMap OpenShellProvider := ∅
  workspaces : KeyMap OpenShellWorkspace := ∅

namespace Cluster

/-- An equality label selector `key=value`. -/
def selectorParts (selector : String) : String × String :=
  let parts := selector.toList.span (· != '=')
  (String.ofList parts.1, String.ofList (parts.2.drop 1))

def selected (selector : String) (pvc : PersistentVolumeClaim) : Bool :=
  let parts := selectorParts selector
  pvc.labels.any (fun labels => labels[parts.1]? == some parts.2)

/-- A merge patch of a label map: the given labels are set, the others stay. -/
def mergeLabels (labels : Option (StrMap String)) (patch : StrMap String) : StrMap String :=
  (labels.getD ∅).insertMany patch.toList

theorem get?_mergeLabels (labels : Option (StrMap String)) (patch : StrMap String) (k : String) :
    (mergeLabels labels patch)[k]? = patch[k]?.or (labels.getD ∅)[k]? := by
  unfold mergeLabels
  cases hk : patch[k]? with
  | some v =>
      exact Std.ExtTreeMap.getElem?_insertMany_list_of_mem Std.ReflCmp.compare_self
        Std.ExtTreeMap.distinct_keys_toList
        (Std.ExtTreeMap.mem_toList_iff_getElem?_eq_some.mpr hk)
  | none =>
      refine Std.ExtTreeMap.getElem?_insertMany_list_of_contains_eq_false ?_
      rw [Std.ExtTreeMap.map_fst_toList_eq_keys, Bool.eq_false_iff]
      intro hc
      have hmem := Std.ExtTreeMap.mem_keys.mp (List.contains_iff_mem.mp hc)
      rw [Std.ExtTreeMap.mem_iff_isSome_getElem?, hk] at hmem
      cases hmem

/-- A field of a status patch: an absent one leaves what is stored. -/
def mergeField {α : Type} (stored new : Option α) : Option α := new.or stored

def mergeList {α : Type} (stored new : List α) : List α := if new.isEmpty then stored else new

def mergeSandboxStatus (stored : Option OpenShellSandboxStatus) (new : OpenShellSandboxStatus) :
    OpenShellSandboxStatus :=
  let old := stored.getD {}
  { conditions := mergeList old.conditions new.conditions
    phase := mergeField old.phase new.phase
    sandboxId := mergeField old.sandboxId new.sandboxId
    appliedSpecHash := mergeField old.appliedSpecHash new.appliedSpecHash
    appliedPolicyHash := mergeField old.appliedPolicyHash new.appliedPolicyHash
    observedGeneration := mergeField old.observedGeneration new.observedGeneration }

def mergeProviderStatus (stored : Option OpenShellProviderStatus)
    (new : OpenShellProviderStatus) : OpenShellProviderStatus :=
  let old := stored.getD {}
  { conditions := mergeList old.conditions new.conditions
    observedGeneration := mergeField old.observedGeneration new.observedGeneration
    syncedHash := mergeField old.syncedHash new.syncedHash
    credentialMode := mergeField old.credentialMode new.credentialMode }

def mergeWorkspaceStatus (stored : Option OpenShellWorkspaceStatus)
    (new : OpenShellWorkspaceStatus) : OpenShellWorkspaceStatus :=
  let old := stored.getD {}
  { conditions := mergeList old.conditions new.conditions
    phase := mergeField old.phase new.phase
    observedGeneration := mergeField old.observedGeneration new.observedGeneration }

def notFound (name : String) : Error := .kube (name ++ " not found")

/-- Change the object under a key, or remove it; it has to be there. -/
def modifyAt {β : Type} (m : KeyMap β) (key : Key) (f : β → Option β) :
    Except Error (KeyMap β) :=
  match m[key]? with
  | none => .error (notFound key.name)
  | some v =>
      match f v with
      | some v' => .ok (m.insert key v')
      | none => .ok (m.erase key)

def addFinalizerTo (finalizer : String) (m : ObjectMeta) : ObjectMeta :=
  { m with finalizers := m.finalizers ++ [finalizer] }

/-- Without its last finalizer an object that is being deleted goes. -/
def removeFinalizerFrom (finalizer : String) (m : ObjectMeta) : Option ObjectMeta :=
  let rest := m.finalizers.erase finalizer
  if rest.isEmpty && m.deletionTimestamp.isSome then none else some { m with finalizers := rest }

/-- Change the metadata of an object. -/
def modifyMeta (k : Cluster) (kind : Kind) (key : Key) (f : ObjectMeta → Option ObjectMeta) :
    Cluster × Except Error Unit :=
  match kind with
  | .sandbox =>
      match modifyAt k.sandboxes key (fun o => (f o.metadata).map ({ o with metadata := · })) with
      | .ok m => ({ k with sandboxes := m }, .ok ())
      | .error err => (k, .error err)
  | .provider =>
      match modifyAt k.providers key (fun o => (f o.metadata).map ({ o with metadata := · })) with
      | .ok m => ({ k with providers := m }, .ok ())
      | .error err => (k, .error err)
  | .workspace =>
      match modifyAt k.workspaces key (fun o => (f o.metadata).map ({ o with metadata := · })) with
      | .ok m => ({ k with workspaces := m }, .ok ())
      | .error err => (k, .error err)

def createPvc (k : Cluster) (ns : String) (pvc : PersistentVolumeClaim) :
    Cluster × Except Error Unit :=
  match k.pvcs[(⟨ns, pvc.name⟩ : Key)]? with
  | some _ => (k, .error (.kube (pvc.name ++ " already exists")))
  | none => ({ k with pvcs := k.pvcs.insert ⟨ns, pvc.name⟩ pvc }, .ok ())

def patchPvcLabels (k : Cluster) (ns name : String) (labels : StrMap String) :
    Cluster × Except Error Unit :=
  match k.pvcs[(⟨ns, name⟩ : Key)]? with
  | none => (k, .error (notFound name))
  | some pvc =>
      ({ k with
          pvcs := k.pvcs.insert ⟨ns, name⟩
            { pvc with labels := some (mergeLabels pvc.labels labels) } }, .ok ())

/-- Delete the selected claims of a namespace. -/
def deletePvcs (k : Cluster) (ns selector : String) : Cluster :=
  { k with pvcs := k.pvcs.filter (fun key pvc => !(key.scope == ns && selected selector pvc)) }

def patchSandboxStatus (k : Cluster) (key : Key) (status : OpenShellSandboxStatus) :
    Cluster × Except Error Unit :=
  match k.sandboxes[key]? with
  | none => (k, .error (notFound key.name))
  | some o =>
      ({ k with
          sandboxes := k.sandboxes.insert key
            { o with status := some (mergeSandboxStatus o.status status) } }, .ok ())

def patchProviderStatus (k : Cluster) (key : Key) (status : OpenShellProviderStatus) :
    Cluster × Except Error Unit :=
  match k.providers[key]? with
  | none => (k, .error (notFound key.name))
  | some o =>
      ({ k with
          providers := k.providers.insert key
            { o with status := some (mergeProviderStatus o.status status) } }, .ok ())

def patchWorkspaceStatus (k : Cluster) (key : Key) (status : OpenShellWorkspaceStatus) :
    Cluster × Except Error Unit :=
  match k.workspaces[key]? with
  | none => (k, .error (notFound key.name))
  | some o =>
      ({ k with
          workspaces := k.workspaces.insert key
            { o with status := some (mergeWorkspaceStatus o.status status) } }, .ok ())

def serve (k : Cluster) : (c : KubeCall) → Cluster × Except Error c.Answer
  | .getPvc ns name => (k, .ok (k.pvcs[(⟨ns, name⟩ : Key)]?))
  | .createPvc ns pvc => k.createPvc ns pvc
  | .patchPvcLabels ns name labels => k.patchPvcLabels ns name labels
  | .deletePvcs ns selector => (k.deletePvcs ns selector, .ok ())
  | .getPolicy ns name => (k, .ok (k.policies[(⟨ns, name⟩ : Key)]?))
  | .getSecret ns name => (k, .ok (k.secrets[(⟨ns, name⟩ : Key)]?))
  | .listSandboxes => (k, .ok k.sandboxes.values)
  | .listProviders => (k, .ok k.providers.values)
  | .patchSandboxStatus ns name status => k.patchSandboxStatus ⟨ns, name⟩ status
  | .patchProviderStatus ns name status => k.patchProviderStatus ⟨ns, name⟩ status
  | .patchWorkspaceStatus name status => k.patchWorkspaceStatus ⟨"", name⟩ status
  | .addFinalizer kind key finalizer => k.modifyMeta kind key (some ∘ addFinalizerTo finalizer)
  | .removeFinalizer kind key finalizer => k.modifyMeta kind key (removeFinalizerFrom finalizer)
  | .publish _ _ _ => (k, .ok ())

end Cluster

/-! ### The world of the operator -/

structure World where
  gateway : Gateway := {}
  cluster : Cluster := {}

namespace World

/-- What a served call does. -/
def serve (X : Externals) (w : World) : (c : Call) → World × Except Error c.Answer
  | .rpc r =>
      let out := w.gateway.serve X.accepts r
      ({ w with gateway := out.1 }, out.2)
  | .kube k =>
      let out := w.cluster.serve k
      ({ w with cluster := out.1 }, out.2)

/-- Calls may fail, with or without effect. -/
def react (X : Externals) : World → (c : Call) → Effects.Fate Outage → World × Except Error c.Answer :=
  Effects.respond Outage.error (serve X)

end World
end OpenShell
