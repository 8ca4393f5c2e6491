import OpenShellOperator.Calls

/-! # Workspace reconcile

Creating the gateway workspace of a resource (adopting one that is there), converging its
members, and recording the outcome on the resource; and deleting the workspace, unless it is
the built-in one or a sandbox or provider resource still refers to it. -/

namespace OpenShell
open Wire Effects

namespace WorkspaceController

def finalizerName : String := "openshell.lenshq.io/workspace-cleanup"

/-! ### Members -/

/-- The members as a map from subjects; a later entry for a subject replaces an earlier one. -/
def roles (members : List (String × WorkspaceRole)) : StrMap WorkspaceRole :=
  members.foldl (fun m member => m.insert member.1 member.2) ∅

/-- The members of the first map that the second does not have with the same role. -/
def unmatched (members others : StrMap WorkspaceRole) : List (String × WorkspaceRole) :=
  members.toList.filter (fun member => others[member.1]? != some member.2)

/-- The subjects to remove and the members to add; a changed role is both. -/
def memberDelta (desired : List WorkspaceMember) (current : List WorkspaceMemberView) :
    List String × List (String × WorkspaceRole) :=
  let desired := roles (desired.map (fun member => (member.subject, member.role)))
  let current := roles (current.map (fun member => (member.subject, member.role)))
  ((unmatched current desired).map Prod.fst, unmatched desired current)

/-- Remove before adding: the gateway's add does not change a role. -/
def convergeMembers (workspace : String) (desired : List WorkspaceMember) : Op PUnit := do
  let current ← SdkGateway.listWorkspaceMembers workspace
  let delta := memberDelta desired current
  delta.1.forM (fun subject => SdkGateway.removeWorkspaceMember workspace subject)
  delta.2.forM (fun member => SdkGateway.addWorkspaceMember workspace member.1 member.2)

/-! ### Apply -/

/-- The gateway's phase as the coarse phase of the resource; an unknown one is left out. -/
def mapPhase : GatewayWorkspacePhase → Option WorkspacePhase
  | .active => some .active
  | .terminating => some .terminating
  | .unknown => none

def successRequeue (phase : GatewayWorkspacePhase) : ℕ :=
  if phase = .active then requeueInterval else transitionalRequeueInterval

/-- The workspace on the gateway, created if it is not there. -/
def ensureWorkspace (workspace : OpenShellWorkspace) (name : String) : Op WorkspaceState := do
  match ← SdkGateway.getWorkspace name with
  | some state => pure state
  | none => SdkGateway.createWorkspace ⟨name, workspace.spec.labels⟩

/-- Ensure the workspace exists, then converge its members when they are managed. -/
def converge (workspace : OpenShellWorkspace) (name : String) : Op GatewayWorkspacePhase := do
  let state ← ensureWorkspace workspace name
  match workspace.spec.members with
  | some members => do
      convergeMembers name members
      pure state.phase
  | none => pure state.phase

def patchStatus (name : String) (status : OpenShellWorkspaceStatus) : Op Unit :=
  kube (.patchWorkspaceStatus name status)

def apply (now : Time) (workspace : OpenShellWorkspace) : Op Action := do
  let name := workspace.metadata.name
  let generation := workspace.metadata.generation
  let prior := workspace.status.getD {}
  match ← (converge workspace name).attempt with
  | .ok phase =>
      patchStatus name
        { conditions := Conditions.set prior.conditions (Conditions.condition Conditions.ready true
            "Reconciled" "workspace reconciled with the gateway" generation now)
          phase := mapPhase phase
          observedGeneration := generation }
      pure (.requeue (successRequeue phase))
  | .error err =>
      recordFailure .workspace workspace.metadata.key "Reconcile" err
      let _ ← (patchStatus name
        { conditions := Conditions.set prior.conditions (Conditions.condition Conditions.ready false
            err.reason err.toString generation now)
          phase := prior.phase
          observedGeneration := generation }).attempt
      Prog.fail err

/-! ### Cleanup -/

/-- The concrete workspace a `spec.workspace` value targets. -/
def normalizeWorkspace (workspace : Option String) : String := workspaceName (workspace.getD "")

/-- The sandboxes of a listing that refer to a workspace. -/
def sandboxRefs (workspace : String) (sandboxes : List OpenShellSandbox) : ℕ :=
  sandboxes.countP (fun sandbox => normalizeWorkspace sandbox.spec.workspace == workspace)

/-- The providers of a listing that refer to a workspace. -/
def providerRefs (workspace : String) (providers : List OpenShellProvider) : ℕ :=
  providers.countP (fun provider => normalizeWorkspace provider.spec.workspace == workspace)

/-- The sandboxes and providers, cluster-wide, that refer to a workspace. -/
def countReferencing (workspace : String) : Op ℕ := do
  let sandboxes ← kube .listSandboxes
  let providers ← kube .listProviders
  pure (sandboxRefs workspace sandboxes + providerRefs workspace providers)

/-- Refuse a deletion, with an event and the `Ready` condition. -/
def refuseNonEmpty (now : Time) (workspace : OpenShellWorkspace) (name : String) (count : ℕ) :
    Op Error := do
  let err := Error.workspaceNotEmpty name count
  recordEvent .workspace workspace.metadata.key ⟨.warning, err.reason, "Delete", err.toString⟩
  let prior := workspace.status.getD {}
  let _ ← (patchStatus name
    { prior with
      conditions := Conditions.set prior.conditions (Conditions.condition Conditions.ready false
        err.reason err.toString workspace.metadata.generation now) }).attempt
  pure err

def deleteGatewayWorkspace (name : String) : Op Unit := do
  let _ ← SdkGateway.deleteWorkspace name
  pure ()

/-- Delete the workspace on the gateway once nothing refers to it; never the built-in one. -/
def cleanup (now : Time) (workspace : OpenShellWorkspace) : Op Action := do
  let name := workspace.metadata.name
  if name = defaultWorkspace then pure .awaitChange
  else do
    let referencing ← countReferencing name
    if 0 < referencing then do
      let err ← refuseNonEmpty now workspace name referencing
      Prog.fail err
    else do
      deleteGatewayWorkspace name
      pure .awaitChange

def reconcile (now : Time) (workspace : OpenShellWorkspace) : Op Action :=
  finalizer .workspace finalizerName workspace.metadata (apply now workspace) (cleanup now workspace)

end WorkspaceController
end OpenShell
