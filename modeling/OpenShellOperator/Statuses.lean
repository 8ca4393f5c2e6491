import OpenShellOperator.Wire.Merge
import OpenShellOperator.World
import OpenShellOperator.Policy.Reconcile
import OpenShellOperator.Profile.Rest
import OpenShellOperator.Provider.Reconcile
import OpenShellOperator.Sandbox.Reconcile
import OpenShellOperator.Workspace.Reconcile

/-! # What is patched and what is stored

Every controller writes its status as a merge patch of the object's `status`.  A status is
serialized with its unset fields left out, and a merge patch keeps the fields it does not
have, so that the stored status is the computed one exactly when no stored field is unset in
the computed status (`patchExact_iff`).

The merges of typed statuses that the cluster model uses are what the merge patch does to the
serialized ones (`mergePatch_sandboxStatus` and its siblings). -/

namespace OpenShell
open Wire

/-! ### Serialization -/

/-- An integer is rendered by its sign. -/
def jsonInt (n : Int64) : Json :=
  if 0 ≤ n then .num (.posInt n.toUInt64) else .num (.negInt n)

/-- A 64-bit counter. -/
def jsonCounter (n : ℕ) : Json := .num (.posInt (UInt64.ofNat n))

section serialization
variable (timeText : Time → String)

def Condition.toJson (c : Condition) : Json :=
  .obj (Json.insertSome "observedGeneration" (c.observedGeneration.map jsonInt)
    (Json.insert "type" (.str c.type_)
      (Json.insert "status" (.str c.status)
        (Json.insert "reason" (.str c.reason)
          (Json.insert "message" (.str c.message)
            (Json.insert "lastTransitionTime" (.str (timeText c.lastTransitionTime)) []))))))

/-- The conditions, left out when there are none. -/
def jsonConditions (conditions : List Condition) : Option Json :=
  if conditions.isEmpty then none else some (.arr (conditions.map (Condition.toJson timeText)))

def Phase.text : Phase → String
  | .provisioning => "Provisioning"
  | .ready => "Ready"
  | .error => "Error"
  | .deleting => "Deleting"
  | .stopped => "Stopped"

def WorkspacePhase.text : WorkspacePhase → String
  | .active => "Active"
  | .terminating => "Terminating"

def CredentialMode.text : CredentialMode → String
  | .copied => "Copied"
  | .refresh => "Refresh"
  | .mixed => "Mixed"

def OpenShellSandboxStatus.field (s : OpenShellSandboxStatus) : String → Option Json
  | "conditions" => jsonConditions timeText s.conditions
  | "phase" => s.phase.map (fun phase => .str phase.text)
  | "sandboxId" => s.sandboxId.map .str
  | "appliedSpecHash" => s.appliedSpecHash.map .str
  | "appliedPolicyHash" => s.appliedPolicyHash.map .str
  | "observedGeneration" => s.observedGeneration.map jsonInt
  | _ => none

def OpenShellProviderStatus.field (s : OpenShellProviderStatus) : String → Option Json
  | "conditions" => jsonConditions timeText s.conditions
  | "observedGeneration" => s.observedGeneration.map jsonInt
  | "syncedHash" => s.syncedHash.map .str
  | "credentialMode" => s.credentialMode.map (fun mode => .str mode.text)
  | _ => none

def OpenShellWorkspaceStatus.field (s : OpenShellWorkspaceStatus) : String → Option Json
  | "conditions" => jsonConditions timeText s.conditions
  | "phase" => s.phase.map (fun phase => .str phase.text)
  | "observedGeneration" => s.observedGeneration.map jsonInt
  | _ => none

def OpenShellPolicyStatus.field (s : OpenShellPolicyStatus) : String → Option Json
  | "conditions" => jsonConditions timeText s.conditions
  | "observedGeneration" => s.observedGeneration.map jsonInt
  | _ => none

def OpenShellProviderProfileStatus.field (s : OpenShellProviderProfileStatus) :
    String → Option Json
  | "conditions" => jsonConditions timeText s.conditions
  | "observedGeneration" => s.observedGeneration.map jsonInt
  | "resourceVersion" => s.resourceVersion.map jsonCounter
  | _ => none

def OpenShellSandboxStatus.toJson (s : OpenShellSandboxStatus) : Json :=
  .obj (Json.record ["conditions", "phase", "sandboxId", "appliedSpecHash", "appliedPolicyHash",
    "observedGeneration"] (s.field timeText))

def OpenShellProviderStatus.toJson (s : OpenShellProviderStatus) : Json :=
  .obj (Json.record ["conditions", "observedGeneration", "syncedHash", "credentialMode"]
    (s.field timeText))

def OpenShellWorkspaceStatus.toJson (s : OpenShellWorkspaceStatus) : Json :=
  .obj (Json.record ["conditions", "phase", "observedGeneration"] (s.field timeText))

def OpenShellPolicyStatus.toJson (s : OpenShellPolicyStatus) : Json :=
  .obj (Json.record ["conditions", "observedGeneration"] (s.field timeText))

def OpenShellProviderProfileStatus.toJson (s : OpenShellProviderProfileStatus) : Json :=
  .obj (Json.record ["conditions", "observedGeneration", "resourceVersion"] (s.field timeText))

end serialization

/-! ### The fields are replaced as a whole -/

section whole
variable {timeText : Time → String}

theorem jsonInt_whole (n : Int64) : (jsonInt n).whole = true := by
  unfold jsonInt
  split_ifs <;> rfl

theorem jsonConditions_whole {conditions : List Condition} {v : Json}
    (h : jsonConditions timeText conditions = some v) : v.whole = true := by
  unfold jsonConditions at h
  split_ifs at h
  obtain rfl := Option.some.inj h
  rfl

theorem map_whole {α : Type} {f : α → Json} (hf : ∀ a, (f a).whole = true) {o : Option α} {v : Json}
    (h : o.map f = some v) : v.whole = true := by
  obtain ⟨a, _, rfl⟩ := Option.map_eq_some_iff.mp h
  exact hf a

theorem OpenShellSandboxStatus.field_whole (s : OpenShellSandboxStatus) (k : String) (v : Json)
    (h : s.field timeText k = some v) : v.whole = true := by
  unfold field at h
  split at h
  · exact jsonConditions_whole h
  · exact map_whole (fun _ => rfl) h
  · exact map_whole (fun _ => rfl) h
  · exact map_whole (fun _ => rfl) h
  · exact map_whole (fun _ => rfl) h
  · exact map_whole jsonInt_whole h
  · cases h

theorem OpenShellProviderStatus.field_whole (s : OpenShellProviderStatus) (k : String) (v : Json)
    (h : s.field timeText k = some v) : v.whole = true := by
  unfold field at h
  split at h
  · exact jsonConditions_whole h
  · exact map_whole jsonInt_whole h
  · exact map_whole (fun _ => rfl) h
  · exact map_whole (fun _ => rfl) h
  · cases h

theorem OpenShellWorkspaceStatus.field_whole (s : OpenShellWorkspaceStatus) (k : String) (v : Json)
    (h : s.field timeText k = some v) : v.whole = true := by
  unfold field at h
  split at h
  · exact jsonConditions_whole h
  · exact map_whole (fun _ => rfl) h
  · exact map_whole jsonInt_whole h
  · cases h

theorem OpenShellPolicyStatus.field_whole (s : OpenShellPolicyStatus) (k : String) (v : Json)
    (h : s.field timeText k = some v) : v.whole = true := by
  unfold field at h
  split at h
  · exact jsonConditions_whole h
  · exact map_whole jsonInt_whole h
  · cases h

theorem OpenShellProviderProfileStatus.field_whole (s : OpenShellProviderProfileStatus)
    (k : String) (v : Json) (h : s.field timeText k = some v) : v.whole = true := by
  unfold field at h
  split at h
  · exact jsonConditions_whole h
  · exact map_whole jsonInt_whole h
  · exact map_whole (fun _ => rfl) h
  · cases h

end whole

/-! ### The typed merges -/

section typed
variable (timeText : Time → String)

theorem jsonConditions_mergeList (old new : List Condition) :
    jsonConditions timeText (Cluster.mergeList old new) =
      (jsonConditions timeText new).or (jsonConditions timeText old) := by
  unfold Cluster.mergeList jsonConditions
  cases hnew : new.isEmpty <;> simp [hnew]

theorem map_mergeField {α β : Type} (f : α → β) (old new : Option α) :
    (Cluster.mergeField old new).map f = (new.map f).or (old.map f) := by
  cases new <;> rfl

theorem mergePatch_sandboxStatus (old new : OpenShellSandboxStatus) :
    (old.toJson timeText).mergePatch (new.toJson timeText) =
      (Cluster.mergeSandboxStatus (some old) new).toJson timeText := by
  refine (Json.mergePatch_record new.field_whole).trans (congrArg Json.obj ?_)
  congr 1
  funext k
  unfold OpenShellSandboxStatus.field Cluster.mergeSandboxStatus
  split <;> simp only [jsonConditions_mergeList, map_mergeField, Option.getD_some, Option.or_none]

theorem mergePatch_providerStatus (old new : OpenShellProviderStatus) :
    (old.toJson timeText).mergePatch (new.toJson timeText) =
      (Cluster.mergeProviderStatus (some old) new).toJson timeText := by
  refine (Json.mergePatch_record new.field_whole).trans (congrArg Json.obj ?_)
  congr 1
  funext k
  unfold OpenShellProviderStatus.field Cluster.mergeProviderStatus
  split <;> simp only [jsonConditions_mergeList, map_mergeField, Option.getD_some, Option.or_none]

theorem mergePatch_workspaceStatus (old new : OpenShellWorkspaceStatus) :
    (old.toJson timeText).mergePatch (new.toJson timeText) =
      (Cluster.mergeWorkspaceStatus (some old) new).toJson timeText := by
  refine (Json.mergePatch_record new.field_whole).trans (congrArg Json.obj ?_)
  congr 1
  funext k
  unfold OpenShellWorkspaceStatus.field Cluster.mergeWorkspaceStatus
  split <;> simp only [jsonConditions_mergeList, map_mergeField, Option.getD_some, Option.or_none]

theorem mergePatch_profileStatus (old new : OpenShellProviderProfileStatus) :
    (old.toJson timeText).mergePatch (new.toJson timeText) =
      (ProfileWorld.mergeStatus (some old) new).toJson timeText := by
  refine (Json.mergePatch_record new.field_whole).trans (congrArg Json.obj ?_)
  congr 1
  funext k
  unfold OpenShellProviderProfileStatus.field ProfileWorld.mergeStatus
  split <;> simp only [jsonConditions_mergeList, map_mergeField, Option.getD_some, Option.or_none]

end typed

/-! ### Patches of an object's status -/

/-- The merge patch `{"status": computed}` of an object with the given stored status leaves it
with exactly the computed one. -/
def PatchExact (stored : Option Json) (computed : Json) : Prop :=
  ∀ object : Json, object.get? "status" = stored →
    (object.mergePatch (.obj [("status", computed)])).get? "status" = some computed

theorem get?_mergePatch_status (object : Json) (fields : List (String × Json)) :
    (object.mergePatch (.obj [("status", .obj fields)])).get? "status" =
      some (((object.get? "status").getD .null).mergePatch (.obj fields)) := by
  have hget : object.get? "status" = Json.find "status" object.fieldsOf := by
    cases object <;> rfl
  rw [hget, Json.mergePatch, Json.get?, Json.mergeFields, Json.mergeFields, Json.find_insert,
    if_pos rfl]
  exact Json.obj_ne_null fields

section exact
variable {α : Type} {keys : List String} {field : α → String → Option Json}

/-- **A status patch is exact** if and only if no stored field is left out of the computed
status. -/
theorem patchExact_iff (hwhole : ∀ (s : α) k v, field s k = some v → v.whole = true)
    (stored : Option α) (computed : α) :
    PatchExact (stored.map (fun s => .obj (Json.record keys (field s))))
        (.obj (Json.record keys (field computed))) ↔
      ∀ k ∈ keys, field computed k = none → stored.bind (field · k) = none := by
  constructor
  · intro h
    cases stored with
    | none => exact fun _ _ _ => rfl
    | some s =>
        have hexact := h (.obj [("status", .obj (Json.record keys (field s)))]) rfl
        rw [get?_mergePatch_status, Option.some.injEq] at hexact
        exact (Json.mergePatch_record_eq_iff (hwhole computed)).mp hexact
  · intro h object hobject
    rw [get?_mergePatch_status, hobject, Option.some.injEq]
    cases stored with
    | none => exact Json.mergePatch_null_record (hwhole computed)
    | some s => exact (Json.mergePatch_record_eq_iff (hwhole computed)).mpr h

end exact

/-! ### The statuses the controllers compute -/

/-- A condition that has been set is there. -/
@[simp] theorem jsonConditions_set_ne_none (timeText : Time → String) (conditions : List Condition)
    (new : Condition) : jsonConditions timeText (Conditions.set conditions new) ≠ none := by
  have hset : (Conditions.set conditions new).isEmpty = false := by
    cases conditions with
    | nil => rfl
    | cons existing rest =>
        unfold Conditions.set
        split_ifs <;> rfl
  simp [jsonConditions, hset]

namespace WorkspaceController

/-- The status after converging a workspace. -/
def outcomeStatus (now : Time) (workspace : OpenShellWorkspace) :
    Except Error GatewayWorkspacePhase → OpenShellWorkspaceStatus
  | .ok phase =>
      { conditions := Conditions.set (workspace.status.getD {}).conditions
          (Conditions.condition Conditions.ready true "Reconciled"
            "workspace reconciled with the gateway" workspace.metadata.generation now)
        phase := mapPhase phase
        observedGeneration := workspace.metadata.generation }
  | .error err =>
      { conditions := Conditions.set (workspace.status.getD {}).conditions
          (Conditions.condition Conditions.ready false err.reason err.toString
            workspace.metadata.generation now)
        phase := (workspace.status.getD {}).phase
        observedGeneration := workspace.metadata.generation }

/-- An apply writes the status of its outcome. -/
theorem apply_eq (now : Time) (workspace : OpenShellWorkspace) : apply now workspace = (do
    match ← (converge workspace workspace.metadata.name).attempt with
    | .ok phase =>
        patchStatus workspace.metadata.name (outcomeStatus now workspace (.ok phase))
        pure (.requeue (successRequeue phase))
    | .error err =>
        recordFailure .workspace workspace.metadata.key "Reconcile" err
        let _ ← (patchStatus workspace.metadata.name
          (outcomeStatus now workspace (.error err))).attempt
        Effects.Prog.fail err) := rfl

end WorkspaceController

namespace ProviderController

/-- The status after syncing a provider. -/
def outcomeStatus (now : Time) (provider : OpenShellProvider) :
    Except Error SyncOutcome → OpenShellProviderStatus
  | .ok outcome =>
      { conditions := Conditions.set (provider.status.getD {}).conditions
          (Conditions.condition Conditions.ready true "Reconciled"
            "credentials synced to the gateway" provider.metadata.generation now)
        observedGeneration := provider.metadata.generation
        syncedHash := some outcome.hash
        credentialMode := some outcome.mode }
  | .error err =>
      { conditions := Conditions.set (provider.status.getD {}).conditions
          (Conditions.condition Conditions.ready false err.reason err.toString
            provider.metadata.generation now)
        observedGeneration := provider.metadata.generation
        syncedHash := provider.status.bind (·.syncedHash)
        credentialMode := provider.status.bind (·.credentialMode) }

/-- An apply writes the status of its outcome. -/
theorem apply_eq (X : Externals) (now : Time) (provider : OpenShellProvider) (ns : String)
    (hns : provider.metadata.namespace_ = some ns) : apply X now provider = (do
    match ← (syncProvider X provider ns provider.metadata.name).attempt with
    | .ok outcome =>
        kube (.patchProviderStatus ns provider.metadata.name
          (outcomeStatus now provider (.ok outcome)))
        pure (.requeue requeueInterval)
    | .error err =>
        recordFailure .provider provider.metadata.key "Sync" err
        let _ ← (kube (.patchProviderStatus ns provider.metadata.name
          (outcomeStatus now provider (.error err)))).attempt
        Effects.Prog.fail err) := by
  unfold apply
  rw [hns]
  rfl

end ProviderController

namespace SandboxController

/-- The status after converging a sandbox. -/
def outcomeStatus (now : Time) (sandbox : OpenShellSandbox) :
    Except Error Converged → OpenShellSandboxStatus
  | .ok converged => successStatus now sandbox converged
  | .error err => failureStatus now sandbox err

end SandboxController

namespace ProfileController

/-- The status after syncing a profile. -/
def outcomeStatus (now : Time) (profile : OpenShellProviderProfile) :
    Except Error ℕ → OpenShellProviderProfileStatus
  | .ok version => successStatus now profile version
  | .error err => failureStatus now profile err

end ProfileController

/-! ### When the patch of each controller is exact -/

section controllers
variable (timeText : Time → String) (now : Time)

theorem workspace_patchExact_iff (workspace : OpenShellWorkspace)
    (outcome : Except Error GatewayWorkspacePhase) :
    PatchExact (workspace.status.map (·.toJson timeText))
        ((WorkspaceController.outcomeStatus now workspace outcome).toJson timeText) ↔
      (outcome = .ok .unknown → workspace.status.bind (·.phase) = none) ∧
      (workspace.metadata.generation = none →
        workspace.status.bind (·.observedGeneration) = none) := by
  refine (patchExact_iff (fun s => OpenShellWorkspaceStatus.field_whole s) workspace.status _).trans ?_
  cases hs : workspace.status with
  | none => simp
  | some s =>
      cases outcome with
      | ok phase =>
          cases phase <;> simp [OpenShellWorkspaceStatus.field, WorkspaceController.outcomeStatus,
            WorkspaceController.mapPhase]
      | error err => simp [OpenShellWorkspaceStatus.field, WorkspaceController.outcomeStatus, hs]

theorem sandbox_patchExact_iff (sandbox : OpenShellSandbox)
    (outcome : Except Error SandboxController.Converged) :
    PatchExact (sandbox.status.map (·.toJson timeText))
        ((SandboxController.outcomeStatus now sandbox outcome).toJson timeText) ↔
      (sandbox.metadata.generation = none →
        sandbox.status.bind (·.observedGeneration) = none) := by
  refine (patchExact_iff (fun s => OpenShellSandboxStatus.field_whole s) sandbox.status _).trans ?_
  cases hs : sandbox.status with
  | none => simp
  | some s =>
      cases outcome with
      | ok converged =>
          simp [OpenShellSandboxStatus.field, SandboxController.outcomeStatus,
            SandboxController.successStatus]
      | error err =>
          simp [OpenShellSandboxStatus.field, SandboxController.outcomeStatus,
            SandboxController.failureStatus, hs]

theorem provider_patchExact_iff (provider : OpenShellProvider)
    (outcome : Except Error ProviderController.SyncOutcome) :
    PatchExact (provider.status.map (·.toJson timeText))
        ((ProviderController.outcomeStatus now provider outcome).toJson timeText) ↔
      (provider.metadata.generation = none →
        provider.status.bind (·.observedGeneration) = none) := by
  refine (patchExact_iff (fun s => OpenShellProviderStatus.field_whole s) provider.status _).trans ?_
  cases hs : provider.status with
  | none => simp
  | some s =>
      cases outcome with
      | ok outcome => simp [OpenShellProviderStatus.field, ProviderController.outcomeStatus]
      | error err => simp [OpenShellProviderStatus.field, ProviderController.outcomeStatus, hs]

theorem policy_patchExact_iff (policy : OpenShellPolicy) (outcome : Except Error SandboxPolicy) :
    PatchExact (policy.status.map (·.toJson timeText))
        ((PolicyController.outcomeStatus now policy outcome).toJson timeText) ↔
      (policy.metadata.generation = none → policy.status.bind (·.observedGeneration) = none) := by
  refine (patchExact_iff (fun s => OpenShellPolicyStatus.field_whole s) policy.status _).trans ?_
  cases hs : policy.status with
  | none => simp
  | some s => simp [OpenShellPolicyStatus.field, PolicyController.outcomeStatus]

theorem profile_patchExact_iff (profile : OpenShellProviderProfile) (outcome : Except Error ℕ) :
    PatchExact (profile.status.map (·.toJson timeText))
        ((ProfileController.outcomeStatus now profile outcome).toJson timeText) ↔
      (profile.metadata.generation = none →
        profile.status.bind (·.observedGeneration) = none) := by
  refine (patchExact_iff (fun s => OpenShellProviderProfileStatus.field_whole s) profile.status
    _).trans ?_
  cases hs : profile.status with
  | none => simp
  | some s =>
      cases outcome with
      | ok version =>
          simp [OpenShellProviderProfileStatus.field, ProfileController.outcomeStatus,
            ProfileController.successStatus]
      | error err =>
          simp [OpenShellProviderProfileStatus.field, ProfileController.outcomeStatus,
            ProfileController.failureStatus, hs]

/-- **What is patched is what is stored**, for each of the five controllers and every outcome,
if and only if a resource without a generation has no observed one stored, and the gateway
does not report an unknown phase of a workspace that has a phase stored. -/
theorem status_patch_exact_iff :
    (∀ (workspace : OpenShellWorkspace) outcome,
      PatchExact (workspace.status.map (·.toJson timeText))
          ((WorkspaceController.outcomeStatus now workspace outcome).toJson timeText) ↔
        (outcome = .ok .unknown → workspace.status.bind (·.phase) = none) ∧
        (workspace.metadata.generation = none →
          workspace.status.bind (·.observedGeneration) = none)) ∧
    (∀ (sandbox : OpenShellSandbox) outcome,
      PatchExact (sandbox.status.map (·.toJson timeText))
          ((SandboxController.outcomeStatus now sandbox outcome).toJson timeText) ↔
        (sandbox.metadata.generation = none →
          sandbox.status.bind (·.observedGeneration) = none)) ∧
    (∀ (provider : OpenShellProvider) outcome,
      PatchExact (provider.status.map (·.toJson timeText))
          ((ProviderController.outcomeStatus now provider outcome).toJson timeText) ↔
        (provider.metadata.generation = none →
          provider.status.bind (·.observedGeneration) = none)) ∧
    (∀ (policy : OpenShellPolicy) outcome,
      PatchExact (policy.status.map (·.toJson timeText))
          ((PolicyController.outcomeStatus now policy outcome).toJson timeText) ↔
        (policy.metadata.generation = none →
          policy.status.bind (·.observedGeneration) = none)) ∧
    ∀ (profile : OpenShellProviderProfile) outcome,
      PatchExact (profile.status.map (·.toJson timeText))
          ((ProfileController.outcomeStatus now profile outcome).toJson timeText) ↔
        (profile.metadata.generation = none →
          profile.status.bind (·.observedGeneration) = none) :=
  ⟨workspace_patchExact_iff timeText now, sandbox_patchExact_iff timeText now,
    provider_patchExact_iff timeText now, policy_patchExact_iff timeText now,
    profile_patchExact_iff timeText now⟩

end controllers

namespace Sample

/-- A workspace last seen active. -/
def activeLab : OpenShellWorkspace where
  metadata := { name := "lab", generation := some 1 }
  spec := {}
  status := some { phase := some .active, observedGeneration := some 1 }

/-- The gateway reports a phase the operator does not know: the computed status has no phase,
and the stored one is still active. -/
theorem unknown_phase_stays_active :
    ¬ PatchExact (activeLab.status.map (·.toJson toString))
        ((WorkspaceController.outcomeStatus 0 activeLab (.ok .unknown)).toJson toString) ∧
      (WorkspaceController.outcomeStatus 0 activeLab (.ok .unknown)).phase = none ∧
      (Cluster.mergeWorkspaceStatus activeLab.status
        (WorkspaceController.outcomeStatus 0 activeLab (.ok .unknown))).phase = some .active := by
  refine ⟨?_, rfl, rfl⟩
  intro h
  have hphase := ((workspace_patchExact_iff toString 0 activeLab (.ok .unknown)).mp h).1 rfl
  cases hphase

end Sample
end OpenShell
