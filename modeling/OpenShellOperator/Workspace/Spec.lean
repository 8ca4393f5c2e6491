import OpenShellOperator.Workspace.Reconcile

/-! # What a workspace reconcile can do

`ApplyCall` are the calls of an apply: they are about the workspace of the resource, its members and
the status of the resource.  `CleanupCall` are those of a cleanup. -/

namespace OpenShell
open Wire Effects

namespace WorkspaceController

/-- The calls of an apply. -/
inductive ApplyCall (workspace : OpenShellWorkspace) : Call → Prop
  | getWorkspace : ApplyCall workspace (.rpc (.getWorkspace workspace.metadata.name))
  | create : ApplyCall workspace
      (.rpc (.createWorkspace workspace.metadata.name workspace.spec.labels))
  | list : ApplyCall workspace
      (.rpc (.listWorkspaceMembers (workspaceScope workspace.metadata.name)))
  | add (subject : String) (role : WorkspaceRole) : ApplyCall workspace
      (.rpc (.addWorkspaceMember (workspaceScope workspace.metadata.name) subject role))
  | remove (subject : String) : ApplyCall workspace
      (.rpc (.removeWorkspaceMember (workspaceScope workspace.metadata.name) subject))
  | status (status : OpenShellWorkspaceStatus) :
      ApplyCall workspace (.kube (.patchWorkspaceStatus workspace.metadata.name status))
  | publish (event : Event) :
      ApplyCall workspace (.kube (.publish .workspace workspace.metadata.key event))

/-- The calls of a cleanup. -/
inductive CleanupCall (workspace : OpenShellWorkspace) : Call → Prop
  | listSandboxes : CleanupCall workspace (.kube .listSandboxes)
  | listProviders : CleanupCall workspace (.kube .listProviders)
  | delete : CleanupCall workspace (.rpc (.deleteWorkspace workspace.metadata.name))
  | status (status : OpenShellWorkspaceStatus) :
      CleanupCall workspace (.kube (.patchWorkspaceStatus workspace.metadata.name status))
  | publish (event : Event) :
      CleanupCall workspace (.kube (.publish .workspace workspace.metadata.key event))

section footprints
variable {P : Call → Prop} {workspace : OpenShellWorkspace} {name : String}

theorem getWorkspace_calls (h : P (.rpc (.getWorkspace name))) :
    (SdkGateway.getWorkspace name).Calls P := by
  refine Prog.Calls.bind (Prog.Calls.bind (Prog.calls_perform h).attempt (fun r => ?_))
    (fun found => ?_)
  · cases r with
    | ok found => exact Prog.calls_pure _
    | error err =>
        show Prog.Calls _ (ite _ _ _)
        split_ifs
        · exact Prog.calls_pure _
        · exact Prog.calls_fail _
  · cases found with
    | none => exact Prog.calls_pure _
    | some workspace => exact Prog.Calls.bind (Prog.calls_done _) (fun _ => Prog.calls_pure _)

theorem createWorkspace_calls (create : WorkspaceCreate)
    (hcreate : P (.rpc (.createWorkspace create.name create.labels)))
    (hget : P (.rpc (.getWorkspace create.name))) : (SdkGateway.createWorkspace create).Calls P := by
  refine Prog.Calls.bind (Prog.calls_perform hcreate).attempt (fun r => ?_)
  cases r with
  | ok workspace => exact Prog.calls_done _
  | error err =>
      show Prog.Calls _ (ite _ _ _)
      split_ifs
      · refine Prog.Calls.bind (getWorkspace_calls hget) (fun found => ?_)
        cases found with
        | none => exact Prog.calls_fail _
        | some state => exact Prog.calls_pure _
      · exact Prog.calls_fail _

theorem convergeMembers_calls (desired : List WorkspaceMember) :
    (convergeMembers workspace.metadata.name desired).Calls (ApplyCall workspace) := by
  refine Prog.Calls.bind (Prog.calls_perform .list) (fun current => ?_)
  refine Prog.Calls.bind (Prog.Calls.forM _ (fun subject _ => ?_))
    (fun _ => Prog.Calls.forM _ (fun member _ => ?_))
  · exact Prog.calls_perform (.remove _)
  · exact Prog.calls_perform (.add _ _)

theorem converge_calls : (converge workspace workspace.metadata.name).Calls (ApplyCall workspace) := by
  refine Prog.Calls.bind (Prog.Calls.bind (getWorkspace_calls .getWorkspace) (fun found => ?_))
    (fun state => ?_)
  · cases found with
    | none => exact createWorkspace_calls _ .create .getWorkspace
    | some state => exact Prog.calls_pure _
  · cases workspace.spec.members with
    | none => exact Prog.calls_pure _
    | some members =>
        exact Prog.Calls.bind (convergeMembers_calls _) (fun _ => Prog.calls_pure _)

theorem recordEvent_calls {event : Event} (h : P (.kube (.publish .workspace workspace.metadata.key event))) :
    (recordEvent .workspace workspace.metadata.key event).Calls P :=
  Prog.Calls.bind (Prog.calls_perform h).attempt (fun _ => Prog.calls_pure _)

theorem apply_calls (now : Time) (workspace : OpenShellWorkspace) :
    (apply now workspace).Calls (ApplyCall workspace) := by
  refine Prog.Calls.bind converge_calls.attempt (fun outcome => ?_)
  cases outcome with
  | ok phase => exact Prog.Calls.bind (Prog.calls_perform (.status _)) (fun _ => Prog.calls_pure _)
  | error err =>
      refine Prog.Calls.bind (recordEvent_calls (.publish _)) (fun _ => ?_)
      exact Prog.Calls.bind (Prog.calls_perform (.status _)).attempt (fun _ => Prog.calls_fail _)

theorem refuseNonEmpty_calls (now : Time) (count : ℕ) :
    (refuseNonEmpty now workspace workspace.metadata.name count).Calls (CleanupCall workspace) :=
  Prog.Calls.bind (recordEvent_calls (.publish _))
    (fun _ => Prog.Calls.bind (Prog.calls_perform (.status _)).attempt (fun _ => Prog.calls_pure _))

theorem cleanup_calls (now : Time) (workspace : OpenShellWorkspace) :
    (cleanup now workspace).Calls (CleanupCall workspace) := by
  show Prog.Calls _ (ite _ _ _)
  split_ifs
  · exact Prog.calls_pure _
  · refine Prog.Calls.bind (Prog.Calls.bind (Prog.calls_perform .listSandboxes) (fun _ =>
      Prog.Calls.bind (Prog.calls_perform .listProviders) (fun _ => Prog.calls_pure _)))
      (fun referencing => ?_)
    show Prog.Calls _ (ite _ _ _)
    split_ifs
    · exact Prog.Calls.bind (refuseNonEmpty_calls now _) (fun _ => Prog.calls_fail _)
    · exact Prog.Calls.bind (Prog.Calls.bind (Prog.Calls.bind (Prog.calls_perform .delete)
        (fun _ => Prog.calls_pure _)) (fun _ => Prog.calls_pure _)) (fun _ => Prog.calls_pure _)

end footprints
end WorkspaceController
end OpenShell
