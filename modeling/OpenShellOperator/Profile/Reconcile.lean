import OpenShellOperator.Effects.Session
import OpenShellOperator.Calls

/-! # Provider-profile reconcile

A provider-profile resource is validated by the gateway's own parser, imported on the gateway
or updated there under the version the gateway has stored, and that version is mirrored into
`.status`; and the profile is deleted on the gateway once no provider selects it.

The parser and validator are code outside the operator and stand as a parameter
(`ProfileParser`). -/

namespace OpenShell
open Wire Effects

/-! ### Documents -/

structure ProfileDiagnostic where
  field : String
  message : String
deriving DecidableEq, Repr

/-- A profile message: its id, the stored version it carries, and, as one value, all its
other fields. -/
structure ProviderProfile where
  id : String
  resourceVersion : ℕ := 0
  body : Json
deriving Repr

/-- The gateway's own parser and validator of profile documents. -/
structure ProfileParser where
  Parsed : Type
  parseProfileJson : Json → Except String Parsed
  validateProfileSet : List (String × Parsed) → List ProfileDiagnostic
  toProto : Parsed → ProviderProfile

/-- The document in the parser's own spelling; optional parts only when set. -/
def profileDocument (name : String) (spec : OpenShellProviderProfileSpec) : Json :=
  .obj (Json.insertSome "annotations"
      (if spec.annotations.isEmpty then none else some (.ofMap .str spec.annotations))
    (Json.insertSome "discovery" spec.discovery
      (Json.insertSome "binaries" (if spec.binaries.isEmpty then none else some (.arr spec.binaries))
        (Json.insertSome "endpoints"
            (if spec.endpoints.isEmpty then none else some (.arr spec.endpoints))
          (Json.insertSome "credentials"
              (if spec.credentials.isEmpty then none else some (.arr spec.credentials))
            (Json.insert "inference_capable" (.bool spec.inferenceCapable)
              (Json.insertSome "category" (spec.category.map .str)
                (Json.insertSome "description" (spec.description.map .str)
                  (Json.insert "display_name" (.str spec.displayName)
                    (Json.insert "id" (.str name) []))))))))))

/-- Diagnostics as one message. -/
def joinDiagnostics (diagnostics : List ProfileDiagnostic) : String :=
  String.intercalate "; " (diagnostics.map (fun d => d.field ++ ": " ++ d.message))

/-- The profile message of a spec, validated by the gateway's parser. -/
def profileToProto (V : ProfileParser) (name : String) (spec : OpenShellProviderProfileSpec) :
    Except Error ProviderProfile :=
  match V.parseProfileJson (profileDocument name spec) with
  | .error err => .error (.profileInvalid err)
  | .ok profile =>
      let diagnostics := V.validateProfileSet [("", profile)]
      if diagnostics.isEmpty then .ok (V.toProto profile)
      else .error (.profileInvalid (joinDiagnostics diagnostics))

/-! ### Calls -/

structure UpdateProfileRequest where
  profile : ProviderProfile
  source : String
  expectedResourceVersion : ℕ
  id : String
deriving Repr

structure UpdateProfileResponse where
  updated : Bool
  profile : Option ProviderProfile
  diagnostics : List ProfileDiagnostic
deriving Repr

structure ImportProfileResponse where
  imported : Bool
  profiles : List ProviderProfile
  diagnostics : List ProfileDiagnostic
deriving Repr

/-- The calls of the provider-profile controller.  All profiles are platform-scoped. -/
inductive ProfileCall where
  | getProviderProfile (id : String)
  | updateProviderProfiles (request : UpdateProfileRequest)
  | importProviderProfiles (profile : ProviderProfile) (source : String)
  | deleteProviderProfile (id : String)
  | listProviders
  | patchStatus (name : String) (status : OpenShellProviderProfileStatus)
  | publish (name : String) (event : Event)
deriving Repr

abbrev ProfileCall.Answer : ProfileCall → Type
  | getProviderProfile _ => Option ProviderProfile
  | updateProviderProfiles _ => UpdateProfileResponse
  | importProviderProfiles _ _ => ImportProfileResponse
  | deleteProviderProfile _ => DeletionOutcome
  | listProviders => List OpenShellProvider
  | patchStatus _ _ | publish _ _ => Unit

abbrev ProfileOp (α : Type) := Prog ProfileCall.Answer Error α

namespace ProfileController

def send (c : ProfileCall) : ProfileOp c.Answer := Prog.perform (ε := Error) c

/-! ### Upsert -/

/-- The source label of import and update items. -/
def profileSource : String := "openshell-operator"

/-- The gateway's diagnostics as one message. -/
def renderDiagnostics (diagnostics : List ProfileDiagnostic) : String :=
  if diagnostics.isEmpty then "gateway rejected the profile without diagnostics"
  else joinDiagnostics diagnostics

/-- The version of a profile the operator manages already; a built-in one has version zero. -/
def existingVersion (id : String) : ProfileOp (Option ℕ) := do
  match ← (send (.getProviderProfile id)).attempt with
  | .ok found => pure ((found.map (·.resourceVersion)).filter (fun version => 0 < version))
  | .error err => if err.hasCode .notFound then pure none else Prog.fail err

/-- Update the profile under the version it has on the gateway. -/
def updateProfile (profile : ProviderProfile) (version : ℕ) : ProfileOp ℕ := do
  let response ← send (.updateProviderProfiles
    ⟨{ profile with resourceVersion := version }, profileSource, version, profile.id⟩)
  if response.updated then pure ((response.profile.map (·.resourceVersion)).getD version)
  else Prog.fail (.profileRejected (renderDiagnostics response.diagnostics))

/-- Import the profile; the response may hold other profiles too. -/
def importProfile (profile : ProviderProfile) : ProfileOp ℕ := do
  let response ← send (.importProviderProfiles profile profileSource)
  if response.imported then
    pure (((response.profiles.find? (fun imported => imported.id == profile.id)).map
      (·.resourceVersion)).getD 0)
  else Prog.fail (.profileRejected (renderDiagnostics response.diagnostics))

/-- Import or update a profile; the answer is the version the gateway has stored. -/
def upsertProviderProfile (profile : ProviderProfile) : ProfileOp ℕ := do
  match ← existingVersion profile.id with
  | some version => updateProfile profile version
  | none => importProfile profile

/-! ### Apply -/

def recordEvent (name : String) (event : Event) : ProfileOp Unit := do
  let _ ← (send (.publish name event)).attempt
  pure ()

/-- The status after a successful upsert. -/
def successStatus (now : Time) (profile : OpenShellProviderProfile) (version : ℕ) :
    OpenShellProviderProfileStatus where
  conditions := Conditions.set (profile.status.getD {}).conditions
    (Conditions.condition Conditions.ready true "Reconciled" "profile synced to the gateway"
      profile.metadata.generation now)
  observedGeneration := profile.metadata.generation
  resourceVersion := some version

/-- The status after a failure; the prior version stays. -/
def failureStatus (now : Time) (profile : OpenShellProviderProfile) (err : Error) :
    OpenShellProviderProfileStatus where
  conditions := Conditions.set (profile.status.getD {}).conditions
    (Conditions.condition Conditions.ready false err.reason err.toString
      profile.metadata.generation now)
  observedGeneration := profile.metadata.generation
  resourceVersion := (profile.status.getD {}).resourceVersion

/-- Convert the spec and bring it to the gateway. -/
def sync (V : ProfileParser) (profile : OpenShellProviderProfile) : ProfileOp ℕ :=
  match profileToProto V profile.metadata.name profile.spec with
  | .ok proto => upsertProviderProfile proto
  | .error err => Prog.fail err

/-- Record the outcome on the resource. -/
def record (now : Time) (profile : OpenShellProviderProfile) : Except Error ℕ → ProfileOp Action
  | .ok version => do
      send (.patchStatus profile.metadata.name (successStatus now profile version))
      pure (.requeue requeueInterval)
  | .error err => do
      recordEvent profile.metadata.name ⟨.warning, err.reason, "Import", err.toString⟩
      let _ ← (send (.patchStatus profile.metadata.name (failureStatus now profile err))).attempt
      Prog.fail err

def apply (V : ProfileParser) (now : Time) (profile : OpenShellProviderProfile) :
    ProfileOp Action := do
  let outcome ← (sync V profile).attempt
  record now profile outcome

/-! ### Cleanup -/

/-- The providers, cluster-wide, that select a profile type. -/
def countReferencing (id : String) : ProfileOp ℕ := do
  let providers ← send .listProviders
  pure (List.countP (fun provider => provider.spec.providerType == id) providers)

/-- Refuse a deletion, with an event and the `Ready` condition. -/
def refuseInUse (now : Time) (profile : OpenShellProviderProfile) (count : ℕ) :
    ProfileOp Error := do
  let name := profile.metadata.name
  let err := Error.profileInUse name count
  recordEvent name ⟨.warning, err.reason, "Delete", err.toString⟩
  let prior := profile.status.getD {}
  let _ ← (send (.patchStatus name
    { prior with
      conditions := Conditions.set prior.conditions (Conditions.condition Conditions.ready false
        err.reason err.toString profile.metadata.generation now) })).attempt
  pure err

/-- Delete the profile on the gateway once no provider selects it. -/
def cleanup (now : Time) (profile : OpenShellProviderProfile) : ProfileOp Action := do
  let referencing ← countReferencing profile.metadata.name
  if 0 < referencing then do
    let err ← refuseInUse now profile referencing
    Prog.fail err
  else do
    let _ ← send (.deleteProviderProfile profile.metadata.name)
    pure .awaitChange

end ProfileController
end OpenShell
