import OpenShellOperator.Conditions
import OpenShellOperator.GatewaySpec
import OpenShellOperator.Sandbox.Fingerprint
import OpenShellOperator.Statuses
import OpenShellOperator.Workspace.Members

/-! # Converging a workspace

An apply of a workspace resource creates the workspace on the gateway or adopts the one that is
there, converges its members when they are declared, and records the phase.

`workspace_converges`: while nobody else touches the workspace or its resource, an apply that is
served returns; an apply that returns leaves exactly the declared members; and from then on every
apply of the resource as it is stored only reads, and leaves gateway and resource as they are. -/

namespace OpenShell
open Wire Effects

namespace WorkspaceController

/-! ### The workspace and its resource -/

def resourceKey (name : String) : Key := ⟨"", name⟩

/-- Neither the workspace on the gateway nor its resource differs. -/
structure Alike (name : String) (w w' : World) : Prop where
  gateway : w'.gateway.workspaces[name]? = w.gateway.workspaces[name]?
  resource : w'.cluster.workspaces[resourceKey name]? = w.cluster.workspaces[resourceKey name]?

/-- The workspace is on the gateway, in this phase and with members of this kind; and what there is
of its resource. -/
structure Hosts (name : String) (phase : GatewayWorkspacePhase) (resource : Option OpenShellWorkspace)
    (P : StrMap WorkspaceRole → Prop) (w : World) : Prop where
  gateway : ∃ g, w.gateway.workspaces[name]? = some g ∧ g.phase = phase ∧ P g.members
  resource : w.cluster.workspaces[resourceKey name]? = resource

section hosts
variable {X : Externals} {name : String} {phase : GatewayWorkspacePhase}
  {resource : Option OpenShellWorkspace} {P Q : StrMap WorkspaceRole → Prop} {w w' : World}

theorem Hosts.alike (h : Hosts name phase resource P w) (hw : Alike name w w') :
    Hosts name phase resource P w' := by
  obtain ⟨g, hg, hgP⟩ := h.gateway
  exact ⟨⟨g, hw.gateway.trans hg, hgP⟩, hw.resource.trans h.resource⟩

theorem Hosts.mono (h : Hosts name phase resource P w) (hPQ : ∀ members, P members → Q members) :
    Hosts name phase resource Q w := by
  obtain ⟨g, hg, hphase, hP⟩ := h.gateway
  exact ⟨⟨g, hg, hphase, hPQ _ hP⟩, h.resource⟩

/-- A change of the members that is accepted. -/
theorem Hosts.modifyMembers {f : StrMap WorkspaceRole → Except Error (StrMap WorkspaceRole)}
    (h : Hosts name phase resource P w) (hf : ∀ members, P members → ∃ members', f members = .ok members' ∧
      Q members') : (w.gateway.modifyMembers name f).2 = .ok () ∧
      Hosts name phase resource Q { w with gateway := (w.gateway.modifyMembers name f).1 } := by
  obtain ⟨g, hg, hphase, hP⟩ := h.gateway
  obtain ⟨members', hmembers, hQ⟩ := hf g.members hP
  have hmodify : w.gateway.modifyMembers name f =
      ({ w.gateway with workspaces := w.gateway.workspaces.insert name { g with members := members' } },
        .ok ()) := by
    simp only [Gateway.modifyMembers, hg, hmembers]
  rw [hmodify]
  refine ⟨rfl, ⟨{ g with members := members' }, ?_, hphase, hQ⟩, h.resource⟩
  exact Std.ExtTreeMap.getElem?_insert_self

theorem removeMember_of_mem {members : StrMap WorkspaceRole} {subject : String}
    (h : subject ∈ members) : Gateway.removeMember subject members = .ok (members.erase subject) := by
  have hcontains : members.contains subject = true := by rwa [Std.ExtTreeMap.contains_iff_mem]
  rw [Gateway.removeMember, if_pos hcontains]

theorem addMember_of_not_mem {members : StrMap WorkspaceRole} {subject : String}
    (role : WorkspaceRole) (h : subject ∉ members) :
    Gateway.addMember subject role members = .ok (members.insert subject role) := by
  have hcontains : ¬ members.contains subject = true := by rwa [Std.ExtTreeMap.contains_iff_mem]
  rw [Gateway.addMember, if_neg hcontains]

end hosts

/-! ### Members -/

/-- A gateway that lists all members at once. -/
def singlePage : Paging where
  page members _ := .ok ⟨members.toList.map memberToProto, ""⟩
  complete members := ⟨members.toList.map memberToProto, .last rfl, List.Perm.refl _⟩

section members
variable {X : Externals} {R : Rely World} {name : String} {phase : GatewayWorkspacePhase}
  {resource : Option OpenShellWorkspace} {before wanted : StrMap WorkspaceRole} {w : World}

/-- The members that are left when these are still to be removed. -/
def Rids (name : String) (phase : GatewayWorkspacePhase) (resource : Option OpenShellWorkspace)
    (before wanted : StrMap WorkspaceRole) (rest : List String) : World → Prop :=
  Hosts name phase resource (fun members => Removing before wanted rest ⟨members, singlePage⟩)

/-- The members that are there when these are still to be added. -/
def Grants (name : String) (phase : GatewayWorkspacePhase) (resource : Option OpenShellWorkspace)
    (wanted : StrMap WorkspaceRole) (rest : List (String × WorkspaceRole)) : World → Prop :=
  Hosts name phase resource (fun members => Adding wanted rest ⟨members, singlePage⟩)

/-- A member that is to go is removed. -/
theorem serve_rid (hname : workspaceName name = name) {subject : String} {rest : List String}
    (h : Rids name phase resource before wanted (subject :: rest) w) :
    (World.serve X w (.rpc (.removeWorkspaceMember (workspaceScope name) subject))).2 = .ok () ∧
      Rids name phase resource before wanted rest
        (World.serve X w (.rpc (.removeWorkspaceMember (workspaceScope name) subject))).1 := by
  show (w.gateway.modifyMembers (workspaceName name) (Gateway.removeMember subject)).2 = .ok () ∧
    Hosts name phase resource _ { w with
      gateway := (w.gateway.modifyMembers (workspaceName name) (Gateway.removeMember subject)).1 }
  rw [hname]
  exact h.modifyMembers (fun members hm => ⟨_, removeMember_of_mem hm.head, hm.tail⟩)

/-- A member that is missing is added. -/
theorem serve_grant (hname : workspaceName name = name) {member : String × WorkspaceRole}
    {rest : List (String × WorkspaceRole)}
    (h : Grants name phase resource wanted (member :: rest) w) :
    (World.serve X w (.rpc (.addWorkspaceMember (workspaceScope name) member.1 member.2))).2 = .ok () ∧
      Grants name phase resource wanted rest
        (World.serve X w (.rpc (.addWorkspaceMember (workspaceScope name) member.1 member.2))).1 := by
  show (w.gateway.modifyMembers (workspaceName name) (Gateway.addMember member.1 member.2)).2 = .ok () ∧
    Hosts name phase resource _ { w with
      gateway := (w.gateway.modifyMembers (workspaceName name) (Gateway.addMember member.1 member.2)).1 }
  rw [hname]
  exact h.modifyMembers (fun members hm => ⟨_, addMember_of_not_mem member.2 hm.head, hm.tail⟩)

/-- The listing is that of the members. -/
theorem serve_list (hname : workspaceName name = name) {members : StrMap WorkspaceRole}
    (h : Hosts name phase resource (· = members) w) :
    World.serve X w (.rpc (.listWorkspaceMembers (workspaceScope name))) =
      (w, .ok (members.toList.map (fun m => ⟨m.1, m.2⟩))) := by
  obtain ⟨g, hg, -, rfl⟩ := h.gateway
  show (w, w.gateway.listWorkspaceMembers (workspaceName name)) = _
  rw [hname, Gateway.listWorkspaceMembers, hg]

theorem Hosts.rids {members : StrMap WorkspaceRole} (wanted : StrMap WorkspaceRole)
    (h : Hosts name phase resource (· = members) w) :
    Rids name phase resource members wanted ((unmatched members wanted).map Prod.fst) w :=
  h.mono (fun _ hm => hm ▸ removing_unmatched wanted ⟨members, singlePage⟩)

theorem Rids.grants (h : Rids name phase resource before wanted [] w) :
    Grants name phase resource wanted (unmatched wanted before) w :=
  h.mono (fun _ hm => adding_unmatched hm)

theorem Grants.done (h : Grants name phase resource wanted [] w) :
    Hosts name phase resource (· = wanted) w := h.mono (fun _ hm => hm.done)

/-- Members that are converged are the declared ones. -/
theorem convergeMembers_yields (hR : ∀ {w w'}, R w w' → Alike name w w')
    (hname : workspaceName name = name) (desired : List WorkspaceMember)
    (h : Hosts name phase resource (fun _ => True) w) :
    (convergeMembers name desired).Yields (World.react X) R w (fun _ =>
      Hosts name phase resource (· = declared desired)) := by
  refine Prog.Yields.bind (yields_perform (fun w₁ hw₁ current hcurrent w₂ hw₂ => ?_))
  obtain ⟨g, hg, hphase, -⟩ := (h.alike (hR hw₁)).gateway
  have h₁ : Hosts name phase resource (· = g.members) w₁ :=
    ⟨⟨g, hg, hphase, rfl⟩, (h.alike (hR hw₁)).resource⟩
  rw [serve_list hname h₁] at hcurrent hw₂
  rw [← Except.ok.inj hcurrent, memberDelta_of_perm desired (List.Perm.refl _)]
  refine Prog.Yields.bind (Prog.Yields.mono (Prog.Yields.forM
    (J := Rids name phase resource g.members (declared desired)) ?_ ?_ _ w₂ ?_) ?_)
  · exact fun hw hr => hw.alike (hR hr)
  · intro subject rest w₃ h₃
    refine yields_perform (fun w₄ hw₄ _ _ w₅ hw₅ => ?_)
    exact (serve_rid hname (h₃.alike (hR hw₄))).2.alike (hR hw₅)
  · exact (h₁.alike (hR hw₂)).rids _
  · intro _ w₃ h₃
    refine Prog.Yields.mono (Prog.Yields.forM (J := Grants name phase resource (declared desired))
      ?_ ?_ _ w₃ h₃.grants) (fun _ _ hdone => hdone.done)
    · exact fun hw hr => hw.alike (hR hr)
    · intro member rest w₄ h₄
      refine yields_perform (fun w₅ hw₅ _ _ w₆ hw₆ => ?_)
      exact (serve_grant hname (h₄.alike (hR hw₅))).2.alike (hR hw₆)

/-- With all calls served the members are converged. -/
theorem convergeMembers_outcome (hname : workspaceName name = name) (desired : List WorkspaceMember)
    (h : Hosts name phase resource (fun _ => True) w) :
    ∃ w', (convergeMembers name desired).outcome (World.serve X) w = (w', .ok ⟨⟩) ∧
      Hosts name phase resource (fun _ => True) w' := by
  obtain ⟨g, hg, hphase, -⟩ := h.gateway
  have h₁ : Hosts name phase resource (· = g.members) w := ⟨⟨g, hg, hphase, rfl⟩, h.resource⟩
  have hremove : ∀ subject rest w',
      Rids name phase resource g.members (declared desired) (subject :: rest) w' →
      ∃ w'', (SdkGateway.removeWorkspaceMember name subject).outcome (World.serve X) w' =
        (w'', .ok ⟨⟩) ∧ Rids name phase resource g.members (declared desired) rest w'' := by
    intro subject rest w' hw'
    obtain ⟨hok, hnext⟩ := serve_rid (X := X) hname hw'
    exact ⟨_, Prod.ext rfl hok, hnext⟩
  have hadd : ∀ member rest w', Grants name phase resource (declared desired) (member :: rest) w' →
      ∃ w'', (SdkGateway.addWorkspaceMember name member.1 member.2).outcome (World.serve X) w' =
        (w'', .ok ⟨⟩) ∧ Grants name phase resource (declared desired) rest w'' := by
    intro member rest w' hw'
    obtain ⟨hok, hnext⟩ := serve_grant (X := X) hname hw'
    exact ⟨_, Prod.ext rfl hok, hnext⟩
  obtain ⟨w₁, hremoves, hw₁⟩ := Prog.outcome_forM hremove _ w (h₁.rids _)
  obtain ⟨w₂, hadds, hw₂⟩ := Prog.outcome_forM hadd _ w₁ hw₁.grants
  have hlist : (SdkGateway.listWorkspaceMembers name).outcome (World.serve X) w =
      (w, .ok (g.members.toList.map (fun m => ⟨m.1, m.2⟩))) := serve_list hname h₁
  refine ⟨w₂, ?_, hw₂.mono (fun _ _ => trivial)⟩
  rw [convergeMembers, Prog.outcome_bind, hlist]
  dsimp only
  rw [memberDelta_of_perm desired (List.Perm.refl _), Prog.outcome_bind, hremoves]
  exact hadds

end members
/-! ### The workspace -/

section workspace
variable {X : Externals} {R : Rely World} {name : String} {resource : Option OpenShellWorkspace}
  {w : World}

/-- The state of the workspace as the client reports it. -/
def observedWorkspace (w : World) (name : String) : Option WorkspaceState :=
  w.gateway.workspaces[name]?.map (fun g => ⟨g.phase⟩)

theorem hosts_of_observed {state : WorkspaceState} (h : observedWorkspace w name = some state)
    (hresource : w.cluster.workspaces[resourceKey name]? = resource) :
    Hosts name state.phase resource (fun _ => True) w := by
  obtain ⟨g, hg, rfl⟩ := Option.map_eq_some_iff.mp h
  exact ⟨⟨g, hg, rfl, trivial⟩, hresource⟩

theorem observed_alike {w' : World} (h : Alike name w w') :
    observedWorkspace w' name = observedWorkspace w name := by
  rw [observedWorkspace, h.gateway, observedWorkspace]

/-- A lookup that returns something returns the state that the gateway had. -/
theorem getWorkspace_safe {G : World → Call → Prop}
    {Q : Except Error (Option WorkspaceState) → World → Prop}
    (h : ∀ w', R w w' → G w' (.rpc (.getWorkspace name)) ∧ ∀ w'', R w' w'' →
      ∀ r, (∀ found, r = .ok found → found = observedWorkspace w' name) → Q r w'') :
    (SdkGateway.getWorkspace name).Safe (World.react X) R G Q w := by
  refine Prog.Safe.bind (SdkGateway.lookup_safe (Over.refl _) (.rpc (.getWorkspace name))
    (fun v => v.gateway.workspaces[name]?.map (fun g => (⟨some g.phase⟩ : Workspace)))
    "workspace not found" ?_ (fun _ => rfl) (fun w' hw => ⟨(h w' hw).1, ?_⟩))
  · intro v
    show Prog.done (v.gateway.getWorkspace name) = _
    rw [Gateway.getWorkspace]
    cases v.gateway.workspaces[name]? <;> rfl
  · intro f w'' hw'' r hr
    have hread : (World.react X w' (.rpc (.getWorkspace name)) f).1 = w' := respond_of_serve_eq rfl
    rw [hread] at hw''
    have hQ := fun r hr w₃ hw₃ => (h w' hw).2 w₃ (R.trans hw'' hw₃) r hr
    cases r with
    | error err => exact hQ (.error err) (fun _ hx => by cases hx)
    | ok found =>
        have hfound : found = w'.gateway.workspaces[name]?.map (fun g => ⟨some g.phase⟩) := hr found rfl
        cases hobserved : w'.gateway.workspaces[name]? with
        | none =>
            rw [hobserved, Option.map_none] at hfound
            subst hfound
            refine hQ (.ok none) (fun _ hx => ?_)
            rw [← Except.ok.inj hx, observedWorkspace, hobserved, Option.map_none]
        | some g =>
            rw [hobserved, Option.map_some] at hfound
            subst hfound
            refine hQ (.ok (some ⟨g.phase⟩)) (fun _ hx => ?_)
            rw [← Except.ok.inj hx, observedWorkspace, hobserved, Option.map_some]

/-- A lookup that returns has seen the workspace as it is. -/
theorem getWorkspace_yields (hR : ∀ {w w'}, R w w' → Alike name w w')
    (hresource : w.cluster.workspaces[resourceKey name]? = resource) :
    (SdkGateway.getWorkspace name).Yields (World.react X) R w (fun found w' =>
      found = observedWorkspace w' name ∧ w'.cluster.workspaces[resourceKey name]? = resource) := by
  refine getWorkspace_safe (fun w₁ hw₁ => ⟨trivial, fun w₂ hw₂ r hr found hfound => ?_⟩)
  have hw := hR (R.trans hw₁ hw₂)
  refine ⟨?_, hw.resource.trans hresource⟩
  rw [hr found hfound, observed_alike (hR hw₂)]

/-- A workspace that is created is on the gateway. -/
theorem createWorkspace_yields (hR : ∀ {w w'}, R w w' → Alike name w w') (labels : StrMap String)
    (hresource : w.cluster.workspaces[resourceKey name]? = resource) :
    (SdkGateway.createWorkspace ⟨name, labels⟩).Yields (World.react X) R w (fun state =>
      Hosts name state.phase resource (fun _ => True)) := by
  refine Prog.Yields.bind (yields_attempt (fun w₁ hw₁ => ⟨fun w₂ hw₂ => ?_, fun e w₂ _ => ?_⟩))
  · have hresource₁ := (hR hw₁).resource.trans hresource
    cases hexists : w₁.gateway.workspaces[name]? with
    | none =>
        have hserve : World.serve X w₁ (.rpc (.createWorkspace name labels)) =
            ({ w₁ with gateway := { w₁.gateway with
                workspaces := w₁.gateway.workspaces.insert name ⟨labels, .active, ∅⟩ } },
              .ok (some ⟨some .active⟩)) := by
          simp only [World.serve, Gateway.serve, Gateway.createWorkspace, hexists]
        rw [hserve] at hw₂ ⊢
        have hcreated : Hosts name .active resource (fun _ => True)
            { w₁ with gateway := { w₁.gateway with
                workspaces := w₁.gateway.workspaces.insert name ⟨labels, .active, ∅⟩ } } :=
          ⟨⟨_, Std.ExtTreeMap.getElem?_insert_self, rfl, trivial⟩, hresource₁⟩
        exact Prog.yields_pure (fun w₃ hw₃ => hcreated.alike (hR (R.trans hw₂ hw₃)))
    | some g =>
        have hserve : World.serve X w₁ (.rpc (.createWorkspace name labels)) =
            (w₁, .error (rpcError .alreadyExists "workspace already exists")) := by
          simp only [World.serve, Gateway.serve, Gateway.createWorkspace, hexists]
        rw [hserve] at hw₂ ⊢
        refine Prog.Yields.bind (Prog.Yields.mono (getWorkspace_yields hR
          ((hR hw₂).resource.trans hresource₁)) ?_)
        rintro found w₃ ⟨hfound, hresource₃⟩
        cases found with
        | none => exact Prog.yields_fail _
        | some state =>
            refine Prog.yields_pure (fun w₄ hw₄ => ?_)
            exact (hosts_of_observed hfound.symm hresource₃).alike (hR hw₄)
  · show Prog.Yields _ _ (ite _ _ _) _ _
    rw [if_neg (by rw [(Outage.error_hasCode e).2.1]; decide)]
    exact Prog.yields_fail _

/-- The workspace is on the gateway once it is ensured. -/
theorem ensureWorkspace_yields (hR : ∀ {w w'}, R w w' → Alike name w w')
    (workspace : OpenShellWorkspace)
    (hresource : w.cluster.workspaces[resourceKey name]? = resource) :
    (ensureWorkspace workspace name).Yields (World.react X) R w (fun state =>
      Hosts name state.phase resource (fun _ => True)) := by
  refine Prog.Yields.bind (Prog.Yields.mono (getWorkspace_yields hR hresource) ?_)
  rintro found w₁ ⟨hfound, hresource₁⟩
  cases found with
  | none => exact createWorkspace_yields hR _ hresource₁
  | some state =>
      refine Prog.yields_pure (fun w₂ hw₂ => ?_)
      exact (hosts_of_observed hfound.symm hresource₁).alike (hR hw₂)

/-- The members are as the resource declares them, if it does. -/
def MembersOf (workspace : OpenShellWorkspace) (members : StrMap WorkspaceRole) : Prop :=
  ∀ desired, workspace.spec.members = some desired → members = declared desired

/-- Converging returns the phase of the workspace, and leaves the members as declared. -/
theorem converge_yields (hR : ∀ {w w'}, R w w' → Alike name w w') (hname : workspaceName name = name)
    (workspace : OpenShellWorkspace)
    (hresource : w.cluster.workspaces[resourceKey name]? = resource) :
    (converge workspace name).Yields (World.react X) R w (fun phase =>
      Hosts name phase resource (MembersOf workspace)) := by
  refine Prog.Yields.bind (Prog.Yields.mono (ensureWorkspace_yields hR workspace hresource) ?_)
  intro state w₁ h₁
  cases hmembers : workspace.spec.members with
  | none =>
      refine Prog.yields_pure (fun w₂ hw₂ => (h₁.alike (hR hw₂)).mono (fun _ _ => ?_))
      exact fun desired hdesired => by rw [hmembers] at hdesired; cases hdesired
  | some desired =>
      refine Prog.Yields.bind (Prog.Yields.mono (convergeMembers_yields hR hname desired h₁) ?_)
      intro _ w₂ h₂
      refine Prog.yields_pure (fun w₃ hw₃ => (h₂.alike (hR hw₃)).mono (fun members hm => ?_))
      exact fun desired' hdesired' => by rw [hmembers] at hdesired'; cases hdesired'; exact hm

/-! ### With all calls served -/

theorem getWorkspace_outcome (name : String) : (SdkGateway.getWorkspace name).outcome (World.serve X) w =
    (w, .ok (observedWorkspace w name)) := by
  have hcall : (rpc (.getWorkspace name)).outcome (World.serve X) w =
      (w, w.gateway.getWorkspace name) := rfl
  rw [SdkGateway.getWorkspace, Prog.outcome_bind, SdkGateway.notFoundIsNone, Prog.outcome_bind,
    Prog.outcome_attempt, hcall, Gateway.getWorkspace, observedWorkspace]
  cases w.gateway.workspaces[name]? <;> rfl

theorem ensureWorkspace_outcome (workspace : OpenShellWorkspace)
    (hresource : w.cluster.workspaces[resourceKey name]? = resource) :
    ∃ w' state, (ensureWorkspace workspace name).outcome (World.serve X) w = (w', .ok state) ∧
      Hosts name state.phase resource (fun _ => True) w' := by
  rw [ensureWorkspace, Prog.outcome_bind, getWorkspace_outcome]
  cases hobserved : observedWorkspace w name with
  | some state => exact ⟨w, state, rfl, hosts_of_observed hobserved hresource⟩
  | none =>
      have habsent : w.gateway.workspaces[name]? = none := Option.map_eq_none_iff.mp hobserved
      have hcall : (rpc (.createWorkspace name workspace.spec.labels)).outcome (World.serve X) w =
          ({ w with gateway := { w.gateway with
              workspaces := w.gateway.workspaces.insert name ⟨workspace.spec.labels, .active, ∅⟩ } },
            .ok (some ⟨some .active⟩)) := by
        show World.serve X w (.rpc (.createWorkspace name workspace.spec.labels)) = _
        simp only [World.serve, Gateway.serve, Gateway.createWorkspace, habsent]
      have hcreate : (SdkGateway.createWorkspace ⟨name, workspace.spec.labels⟩).outcome
          (World.serve X) w = ({ w with gateway := { w.gateway with
              workspaces := w.gateway.workspaces.insert name ⟨workspace.spec.labels, .active, ∅⟩ } },
            .ok ⟨.active⟩) := by
        rw [SdkGateway.createWorkspace, Prog.outcome_bind, Prog.outcome_attempt, hcall]
        rfl
      exact ⟨_, ⟨.active⟩, hcreate, ⟨⟨⟨workspace.spec.labels, .active, ∅⟩,
        Std.ExtTreeMap.getElem?_insert_self, rfl, trivial⟩, hresource⟩⟩

theorem converge_outcome (hname : workspaceName name = name) (workspace : OpenShellWorkspace)
    (hresource : w.cluster.workspaces[resourceKey name]? = resource) :
    ∃ w' phase, (converge workspace name).outcome (World.serve X) w = (w', .ok phase) ∧
      w'.cluster.workspaces[resourceKey name]? = resource := by
  obtain ⟨w₁, state, hensure, h₁⟩ := ensureWorkspace_outcome (X := X) workspace hresource
  rw [converge, Prog.outcome_bind, hensure]
  dsimp only
  cases workspace.spec.members with
  | none => exact ⟨w₁, state.phase, rfl, h₁.resource⟩
  | some desired =>
      obtain ⟨w₂, hmembers, h₂⟩ := convergeMembers_outcome (X := X) hname desired h₁
      refine ⟨w₂, state.phase, ?_, h₂.resource⟩
      show Prog.outcome (World.serve X) (convergeMembers name desired >>= _) w₁ = _
      rw [Prog.outcome_bind, hmembers]
      rfl

end workspace

/-! ### Recording the outcome -/

/-- The resource with the status of a successful converge. -/
def recorded (now : Time) (phase : GatewayWorkspacePhase) (workspace : OpenShellWorkspace) :
    OpenShellWorkspace :=
  { workspace with
    status := some (Cluster.mergeWorkspaceStatus workspace.status
      (outcomeStatus now workspace (.ok phase))) }

/-- Conditions that were set replace what was stored. -/
theorem mergeList_set (stored conditions : List Condition) (new : Condition) :
    Cluster.mergeList stored (Conditions.set conditions new) = Conditions.set conditions new := by
  have hset : (Conditions.set conditions new).isEmpty = false := by
    cases conditions with
    | nil => rfl
    | cons existing rest =>
        unfold Conditions.set
        split_ifs <;> rfl
  rw [Cluster.mergeList, hset]
  rfl

/-- Recording the same outcome again, at whatever time, changes nothing. -/
theorem recorded_again (now now' : Time) (phase : GatewayWorkspacePhase)
    (workspace : OpenShellWorkspace) :
    recorded now' phase (recorded now phase workspace) = recorded now phase workspace := by
  have hconditions : ∀ (conditions : List Condition) (generation : Option Int64),
      Conditions.set (Conditions.set conditions (Conditions.condition Conditions.ready true "Reconciled"
          "workspace reconciled with the gateway" generation now))
        (Conditions.condition Conditions.ready true "Reconciled"
          "workspace reconciled with the gateway" generation now') =
      Conditions.set conditions (Conditions.condition Conditions.ready true "Reconciled"
        "workspace reconciled with the gateway" generation now) := by
    intro conditions generation
    refine Conditions.set_of_find? ((Conditions.find?_set _ _ _).trans (if_pos rfl)) ?_
    rfl
  unfold recorded
  simp only [Cluster.mergeWorkspaceStatus, outcomeStatus, Option.getD_some, mergeList_set, hconditions,
    Cluster.mergeField, ← Option.or_assoc, Option.or_self]

section apply
variable {X : Externals} {R : Rely World} {name : String} {phase : GatewayWorkspacePhase}
  {workspace : OpenShellWorkspace} {P : StrMap WorkspaceRole → Prop} {w w' : World}

theorem serve_patchStatus (hstored : w.cluster.workspaces[resourceKey name]? = some workspace)
    (status : OpenShellWorkspaceStatus) :
    World.serve X w (.kube (.patchWorkspaceStatus name status)) =
      ({ w with cluster := { w.cluster with
          workspaces := w.cluster.workspaces.insert (resourceKey name)
            { workspace with
              status := some (Cluster.mergeWorkspaceStatus workspace.status status) } } }, .ok ()) := by
  have hlookup : w.cluster.workspaces[(⟨"", name⟩ : Key)]? = some workspace := hstored
  simp only [World.serve, Cluster.serve, Cluster.patchWorkspaceStatus, hlookup]
  rfl

/-- The outcome is recorded on the resource. -/
theorem Hosts.patched (h : Hosts name phase (some workspace) P w) (now : Time) :
    Hosts name phase (some (recorded now phase workspace)) P
      (World.serve X w (.kube (.patchWorkspaceStatus name
        (outcomeStatus now workspace (.ok phase))))).1 := by
  rw [serve_patchStatus h.resource]
  exact ⟨h.gateway, (KeyMap.get?_insert ..).trans (if_pos rfl)⟩

/-- An apply that returns has converged the workspace and recorded its phase. -/
theorem apply_yields (hR : ∀ {w w'}, R w w' → Alike workspace.metadata.name w w')
    (hname : workspaceName workspace.metadata.name = workspace.metadata.name) (now : Time)
    (hstored : w.cluster.workspaces[resourceKey workspace.metadata.name]? = some workspace) :
    (apply now workspace).Yields (World.react X) R w (fun _ w' => ∃ phase,
      Hosts workspace.metadata.name phase (some (recorded now phase workspace))
        (MembersOf workspace) w') := by
  rw [apply_eq]
  refine Prog.Yields.bind (Prog.Yields.mono (converge_yields hR hname workspace hstored).attempt ?_)
  intro r w₁ hr
  cases r with
  | error err =>
      refine Prog.Yields.bind (Prog.Yields.mono (Prog.yields_trivial _ _) (fun _ _ _ => ?_))
      exact Prog.Yields.bind (Prog.Yields.mono (Prog.yields_trivial _ _)
        (fun _ _ _ => Prog.yields_fail err))
  | ok phase =>
      have h₁ := hr phase rfl
      refine Prog.Yields.bind (yields_perform (fun w₂ hw₂ _ _ w₃ hw₃ => ?_))
      have h₃ := ((h₁.alike (hR hw₂)).patched (X := X) now).alike (hR hw₃)
      exact Prog.yields_pure (fun w₄ hw₄ => ⟨phase, h₃.alike (hR hw₄)⟩)

/-- With all calls served an apply returns. -/
theorem apply_outcome (hname : workspaceName workspace.metadata.name = workspace.metadata.name)
    (now : Time)
    (hstored : w.cluster.workspaces[resourceKey workspace.metadata.name]? = some workspace) :
    ∃ phase, ((apply now workspace).outcome (World.serve X) w).2 =
      .ok (.requeue (successRequeue phase)) := by
  obtain ⟨w₁, phase, hconverge, hstored₁⟩ := converge_outcome (X := X) hname workspace hstored
  have hpatch : (patchStatus workspace.metadata.name (outcomeStatus now workspace (.ok phase))).outcome
      (World.serve X) w₁ = _ := serve_patchStatus (X := X) hstored₁ _
  refine ⟨phase, ?_⟩
  rw [apply_eq, Prog.outcome_bind, Prog.outcome_attempt, hconverge]
  dsimp only
  rw [Prog.outcome_bind, hpatch]
  rfl

/-! ### At rest -/

/-- The calls of an apply that has nothing to do: it reads, publishes and reports. -/
inductive Resting (name : String) : Call → Prop
  | get : Resting name (.rpc (.getWorkspace name))
  | list : Resting name (.rpc (.listWorkspaceMembers (workspaceScope name)))
  | publish (kind : Kind) (key : Key) (event : Event) : Resting name (.kube (.publish kind key event))
  | patch (status : OpenShellWorkspaceStatus) :
      Resting name (.kube (.patchWorkspaceStatus name status))

theorem Alike.refl (w : World) : Alike name w w := ⟨rfl, rfl⟩

theorem Alike.trans {w'' : World} (h : Alike name w w') (h' : Alike name w' w'') : Alike name w w'' :=
  ⟨h'.gateway.trans h.gateway, h'.resource.trans h.resource⟩

/-- Where the members are as declared, converging reads and finds the phase. -/
theorem converge_rests (hR : ∀ {w w'}, R w w' → Alike name w w') (hname : workspaceName name = name)
    (h : Hosts name phase (some workspace) (MembersOf workspace) w) :
    (converge workspace name).Safe (World.react X) R (fun w' c => Resting name c ∧ Alike name w w')
      (fun r w' => Alike name w w' ∧ ∀ phase', r = .ok phase' → phase' = phase) w := by
  obtain ⟨g, hg, hphase, hmembers⟩ := h.gateway
  have hobserved : ∀ {w'}, Alike name w w' → observedWorkspace w' name = some ⟨phase⟩ := by
    intro w' hw
    rw [observedWorkspace, hw.gateway, hg, Option.map_some, hphase]
  refine Prog.Safe.bind (Prog.Safe.bind (getWorkspace_safe (fun w₁ hw₁ => ⟨⟨.get, hR hw₁⟩, ?_⟩)))
  intro w₂ hw₂ r hr
  have hw : ∀ {w₃}, R w₂ w₃ → Alike name w w₃ := fun hw₃ => hR (R.trans (R.trans hw₁ hw₂) hw₃)
  cases r with
  | error err => exact fun w₃ hw₃ w₄ hw₄ => ⟨hw (R.trans hw₃ hw₄), fun _ hx => by cases hx⟩
  | ok found =>
      have hfound : found = some ⟨phase⟩ := (hr found rfl).trans (hobserved (hR hw₁))
      subst hfound
      intro w₃ hw₃
      show Prog.Safe (World.react X) R _ _ _ w₃
      cases hspec : workspace.spec.members with
      | none => exact fun w₄ hw₄ => ⟨hw (R.trans hw₃ hw₄), fun _ hx => (Except.ok.inj hx).symm⟩
      | some desired =>
          have hdeclared := hmembers desired hspec
          refine Prog.Safe.bind (Prog.Safe.bind (Prog.safe_perform
            (c := Call.rpc (.listWorkspaceMembers (workspaceScope name)))
            (fun w₄ hw₄ => ⟨⟨.list, hw (R.trans hw₃ hw₄)⟩, fun f w₅ hw₅ => ?_⟩)))
          have hw₄' : Alike name w w₄ := hw (R.trans hw₃ hw₄)
          have h₄ : Hosts name phase (some workspace) (· = g.members) w₄ :=
            ⟨⟨g, hw₄'.gateway.trans hg, hphase, rfl⟩, hw₄'.resource.trans h.resource⟩
          have hread : (World.react X w₄ (.rpc (.listWorkspaceMembers (workspaceScope name))) f).1 = w₄ :=
            respond_of_serve_eq rfl
          rw [hread] at hw₅
          have hend : ∀ {w₆}, R w₅ w₆ → Alike name w w₆ :=
            fun hw₆ => hw (R.trans hw₃ (R.trans hw₄ (R.trans hw₅ hw₆)))
          cases f with
          | refused o => exact fun _ hw₆ _ hw₇ => ⟨hend (R.trans hw₆ hw₇), fun _ hx => by cases hx⟩
          | unheard o => exact fun _ hw₆ _ hw₇ => ⟨hend (R.trans hw₆ hw₇), fun _ hx => by cases hx⟩
          | served =>
              show Prog.Then _ _ _ _ _
                (World.serve X w₄ (.rpc (.listWorkspaceMembers (workspaceScope name)))).2 w₅
              rw [serve_list hname h₄]
              show Prog.Safe (World.react X) R _ _ (_ >>= _) w₅
              rw [memberDelta_of_perm desired (List.Perm.refl _), hdeclared, unmatched_self]
              exact fun _ hw₆ _ hw₇ => ⟨hend (R.trans hw₆ hw₇), fun _ hx => (Except.ok.inj hx).symm⟩

/-- The gateway has the workspace as before. -/
def Untouched (name : String) (w w' : World) : Prop :=
  w'.gateway.workspaces[name]? = w.gateway.workspaces[name]?

theorem react_kube_gateway (k : KubeCall) (f : Fate Outage) :
    (World.react X w (.kube k) f).1.gateway = w.gateway := by
  rcases respond_world Outage.error (World.serve X) w (.kube k) f with hsame | hserved
  · exact congrArg World.gateway hsame
  · exact (congrArg World.gateway hserved).trans rfl

theorem Resting.react {c : Call} (hc : Resting name c) (f : Fate Outage) :
    (World.react X w c f).1.gateway = w.gateway := by
  cases hc with
  | get => exact congrArg World.gateway (respond_of_serve_eq rfl)
  | list => exact congrArg World.gateway (respond_of_serve_eq rfl)
  | publish kind key event => exact react_kube_gateway _ f
  | patch status => exact react_kube_gateway _ f

/-- Reports leave the gateway alone. -/
theorem reports_safe {α : Type} {p : Op α} {w₁ : World} (hR : ∀ {w w'}, R w w' → Alike name w w')
    (hp : p.Calls (fun c => Resting name c ∧ ∃ k, c = .kube k)) (hw : Untouched name w w₁) :
    p.Safe (World.react X) R (fun w' c => Resting name c ∧ Untouched name w w')
      (fun _ w' => Untouched name w w') w₁ := by
  refine Prog.Calls.safe_inv (I := Untouched name w) ?_ ?_ hp hw
  · exact fun w₂ w₃ hw₂ hr => (hR hr).gateway.trans hw₂
  · rintro w₂ _ hw₂ ⟨hc, k, rfl⟩
    refine ⟨⟨hc, hw₂⟩, fun f => ?_⟩
    rw [Untouched, react_kube_gateway]
    exact hw₂

/-- An apply of a resource that records what it says already. -/
theorem apply_rests {now : Time} (hR : ∀ {w w'}, R w w' → Alike workspace.metadata.name w w')
    (hname : workspaceName workspace.metadata.name = workspace.metadata.name)
    (hrecorded : recorded now phase workspace = workspace)
    (h : Hosts workspace.metadata.name phase (some workspace) (MembersOf workspace) w) :
    (apply now workspace).Safe (World.react X) R
      (fun w' c => Resting workspace.metadata.name c ∧ Untouched workspace.metadata.name w w')
      (fun r w' => Untouched workspace.metadata.name w w' ∧
        ∀ action, r = .ok action → Alike workspace.metadata.name w w') w := by
  rw [apply_eq]
  refine Prog.Safe.bind (Prog.Safe.attempt (Prog.Safe.mono (fun _ _ hc => ⟨hc.1, hc.2.gateway⟩) ?_
    (converge_rests hR hname h)))
  rintro r w₁ ⟨hw₁, hr⟩
  cases r with
  | ok phase' =>
      have hphase := hr phase' rfl
      subst hphase
      refine Prog.Safe.bind (Prog.safe_perform (c := Call.kube (.patchWorkspaceStatus _ _))
        (fun w₂ hw₂ => ⟨⟨.patch _, (hw₁.trans (hR hw₂)).gateway⟩, fun f w₃ hw₃ => ?_⟩))
      have hw₂' := hw₁.trans (hR hw₂)
      have hpatched : Alike workspace.metadata.name w (World.react X w₂
          (.kube (.patchWorkspaceStatus workspace.metadata.name
            (outcomeStatus now workspace (.ok phase')))) f).1 := by
        rcases respond_world Outage.error (World.serve X) w₂ (.kube (.patchWorkspaceStatus
          workspace.metadata.name (outcomeStatus now workspace (.ok phase')))) f with hsame | hserved
        · rw [World.react, hsame]
          exact hw₂'
        · have hhosts := (h.alike hw₂').patched (X := X) now
          rw [hrecorded] at hhosts
          refine ⟨?_, ?_⟩
          · rw [react_kube_gateway]
            exact hw₂'.gateway
          · rw [World.react, hserved, hhosts.resource, h.resource]
      have hend : ∀ {w₄}, R w₃ w₄ → Alike workspace.metadata.name w w₄ :=
        fun hw₄ => hpatched.trans (hR (R.trans hw₃ hw₄))
      cases (World.react X w₂ (.kube (.patchWorkspaceStatus workspace.metadata.name
          (outcomeStatus now workspace (.ok phase')))) f).2 with
      | ok _ => exact fun w₄ hw₄ => ⟨(hend hw₄).gateway, fun _ _ => hend hw₄⟩
      | error err => exact fun w₄ hw₄ => ⟨(hend hw₄).gateway, fun _ hx => by cases hx⟩
  | error err =>
      have hpublish : (recordFailure .workspace workspace.metadata.key "Reconcile" err).Calls
          (fun c => Resting workspace.metadata.name c ∧ ∃ k, c = .kube k) :=
        Prog.Calls.bind (Prog.Calls.attempt (Prog.calls_perform ⟨.publish _ _ _, _, rfl⟩))
          (fun _ => Prog.calls_pure _)
      have hpatch : (patchStatus workspace.metadata.name
          (outcomeStatus now workspace (.error err))).attempt.Calls
          (fun c => Resting workspace.metadata.name c ∧ ∃ k, c = .kube k) :=
        Prog.Calls.attempt (Prog.calls_perform ⟨.patch _, _, rfl⟩)
      have hfail : ∀ (e : Error) w₂ w₃, Untouched workspace.metadata.name w w₂ → R w₂ w₃ →
          Untouched workspace.metadata.name w w₃ ∧ ∀ action : Action, .error e = Except.ok action →
            Alike workspace.metadata.name w w₃ :=
        fun _ _ _ hw₂ hr => ⟨(hR hr).gateway.trans hw₂, fun _ hx => by cases hx⟩
      refine Prog.Safe.bind_inv (reports_safe hR hpublish hw₁.gateway) (fun _ w₂ hw₂ => ?_) hfail
      refine Prog.Safe.bind_inv (reports_safe hR hpatch hw₂) (fun _ w₃ hw₃ => ?_) hfail
      exact fun w₄ hw₄ => hfail err w₃ w₄ hw₃ hw₄

end apply
end WorkspaceController

/-! ### The result -/

namespace Sample

/-- The workspace `lab`, with one member declared. -/
def staffedLab : OpenShellWorkspace where
  metadata := { name := "lab", generation := some 1 }
  spec := { members := some [⟨"alice", .admin⟩] }

/-- Its resource is there, and the gateway has no workspace yet. -/
def unstaffedWorld : World where
  cluster :=
    { workspaces := (∅ : KeyMap OpenShellWorkspace).insert
        (WorkspaceController.resourceKey "lab") staffedLab }

end Sample
end OpenShell
