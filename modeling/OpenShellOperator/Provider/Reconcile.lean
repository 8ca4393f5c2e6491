import OpenShellOperator.Calls
import OpenShellOperator.Policy

/-! # Provider reconcile

Resolving the credentials of a provider from its Secret, syncing them to the gateway, and
recording the outcome on the resource; and deleting the provider on the gateway. -/

namespace OpenShell
open Wire Effects

/-! ### Secrets -/

namespace SecretData

def entitlementAnnotation : String := "openshell.lenshq.io/allow-provider-ref"

/-- Whether a Secret opts in to being referenced as provider credentials. -/
def isEntitled (secret : Secret) : Bool :=
  secret.annotations.any (fun annotations => annotations[ entitlementAnnotation]? == some "true")

/-- The value of one key. -/
def extractKey (ns name : String) (data : StrMap (List UInt8)) (key : String) :
    Except Error String :=
  match data[key]? with
  | none => .error (.secretKeyMissing ns name key)
  | some value =>
      match String.fromUTF8? ⟨value.toArray⟩ with
      | none => .error (.secretValueNotUtf8 ns name key)
      | some text => .ok text

/-- The values of the requested keys, one after the other; no keys stands for all of them. -/
def extractCredentials (ns name : String) (data : StrMap (List UInt8)) (keys : List String) :
    Except Error (StrMap String) :=
  let selected := if keys.isEmpty then data.keys else keys
  selected.foldlM
    (fun credentials key => (extractKey ns name data key).map (credentials.insert key ·)) ∅

/-- Fetch and resolve the credential values of a Secret. -/
def resolveCredentials (ns : String) (secretRef : SecretRef) : Op (StrMap String) := do
  match ← kube (.getSecret ns secretRef.name) with
  | none => Prog.fail (.secretNotFound ns secretRef.name)
  | some secret =>
      if !isEntitled secret then
        Prog.fail (.secretNotEntitled ns secretRef.name entitlementAnnotation)
      else Op.lift (extractCredentials ns secretRef.name (secret.data.getD ∅) secretRef.keys)

end SecretData

/-! ### Sync -/

namespace ProviderController

def finalizerName : String := "openshell.lenshq.io/provider-cleanup"

def workspaceOf (provider : OpenShellProvider) : String := provider.spec.workspace.getD ""

/-- The bytes fed to the hasher for a string: its UTF-8 bytes and an end mark. -/
def hashStr (s : String) : List UInt8 := s.toUTF8.toList ++ [0xff]

/-- The bytes fed to the hasher: both maps in key order, with a separator between them. -/
def hashInput (credentials config : StrMap String) : List UInt8 :=
  credentials.toList.flatMap (fun kv => hashStr kv.1 ++ hashStr kv.2) ++ [0xff] ++
    config.toList.flatMap (fun kv => hashStr kv.1 ++ hashStr kv.2)

def hashMaterial (X : Externals) (credentials config : StrMap String) : String :=
  X.digestBytes (hashInput credentials config)

structure SyncOutcome where
  hash : String
  mode : CredentialMode
deriving DecidableEq, Repr

/-- The profile of a provider type, matched exactly. -/
def findProfile (providerType : String) : Op (Option ProviderProfileView) := do
  let profiles ← SdkGateway.listProviderProfiles
  pure (profiles.find? (fun profile => profile.id == providerType))

/-- The plan for a profile that may be missing. -/
def planFor (profile : Option ProviderProfileView) (credentials : StrMap String) :
    ProviderCredentialPlan :=
  planCredentials ((profile.map (·.credentials)).getD [] |>.map (fun c => (c.name, c.refresh)))
    credentials

/-- Upsert the provider with its static credentials, then configure its refreshes. -/
def syncToGateway (X : Externals) (name providerType : String) (credentials config : StrMap String)
    (workspace : String) : Op SyncOutcome := do
  let profile ← findProfile providerType
  let plan := planFor profile credentials
  SdkGateway.upsertProvider ⟨name, providerType, plan.staticCredentials, config, workspace⟩
  plan.refreshes.forM (fun refresh =>
    SdkGateway.configureProviderRefresh ⟨name, refresh.credentialKey, refresh.plan, workspace⟩)
  pure ⟨hashMaterial X credentials config, plan.mode⟩

def syncProvider (X : Externals) (provider : OpenShellProvider) (ns name : String) :
    Op SyncOutcome := do
  let credentials ← SecretData.resolveCredentials ns provider.spec.credentialsSecretRef
  syncToGateway X name provider.spec.providerType credentials provider.spec.config
    (workspaceOf provider)

/-! ### Apply and cleanup -/

def apply (X : Externals) (now : Time) (provider : OpenShellProvider) : Op Action := do
  let name := provider.metadata.name
  match provider.metadata.namespace_ with
  | none => Prog.fail .missingNamespace
  | some ns =>
      let generation := provider.metadata.generation
      let current := (provider.status.getD {}).conditions
      match ← (syncProvider X provider ns name).attempt with
      | .ok outcome =>
          kube (.patchProviderStatus ns name
            { conditions := Conditions.set current (Conditions.condition Conditions.ready true
                "Reconciled" "credentials synced to the gateway" generation now)
              observedGeneration := generation
              syncedHash := some outcome.hash
              credentialMode := some outcome.mode })
          pure (.requeue requeueInterval)
      | .error err =>
          recordFailure .provider provider.metadata.key "Sync" err
          let _ ← (kube (.patchProviderStatus ns name
            { conditions := Conditions.set current (Conditions.condition Conditions.ready false
                err.reason err.toString generation now)
              observedGeneration := generation
              syncedHash := provider.status.bind (·.syncedHash)
              credentialMode := provider.status.bind (·.credentialMode) })).attempt
          Prog.fail err

/-- Delete the provider on the gateway. -/
def cleanup (provider : OpenShellProvider) : Op Action := do
  let _ ← SdkGateway.deleteProvider provider.metadata.name (workspaceOf provider)
  pure .awaitChange

def reconcile (X : Externals) (now : Time) (provider : OpenShellProvider) : Op Action :=
  match provider.metadata.namespace_ with
  | none => Prog.fail .missingNamespace
  | some _ =>
      finalizer .provider finalizerName provider.metadata (apply X now provider) (cleanup provider)

end ProviderController
end OpenShell
