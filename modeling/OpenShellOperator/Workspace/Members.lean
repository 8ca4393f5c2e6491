import OpenShellOperator.Effects.Session
import OpenShellOperator.Workspace.Reconcile
import OpenShellOperator.World
import Mathlib.Data.List.Induction
import Mathlib.Data.List.Nodup

/-! # Converging the members of a workspace

The gateway lists the members of a workspace in pages; the listing follows the page tokens until
there is none.  Members that are not declared, or not with this role, are removed, then those
that are missing are added; the gateway refuses to add a member that is there and to remove one
that is not.

An attempt may fail, or be stopped, after any of its calls, and is made again from whatever it
left.  `members_converge`: every remove is of a member and every add of a subject that is none at
that moment; a subject never has a role but the original and the declared one; an attempt that
returns leaves exactly the declared members, and then nothing is left to do. -/

namespace OpenShell
open Wire Effects

namespace WorkspaceController

/-! ### Maps of members -/

/-- The declared role of a subject: that of its last entry. -/
def declaredRole (desired : List WorkspaceMember) (subject : String) : Option WorkspaceRole :=
  (desired.reverse.find? (fun member => member.subject == subject)).map (·.role)

/-- The declared members as a map. -/
def declared (desired : List WorkspaceMember) : StrMap WorkspaceRole :=
  roles (desired.map (fun member => (member.subject, member.role)))

theorem roles_concat (members : List (String × WorkspaceRole)) (member : String × WorkspaceRole) :
    roles (members ++ [member]) = (roles members).insert member.1 member.2 := by
  rw [roles, List.foldl_append]
  rfl

/-- Of several entries for a subject the last one counts. -/
theorem getElem?_declared (desired : List WorkspaceMember) (subject : String) :
    (declared desired)[subject]? = declaredRole desired subject := by
  induction desired using List.reverseRecOn with
  | nil => rfl
  | append_singleton desired member ih =>
      rw [declaredRole] at ih ⊢
      rw [declared] at ih ⊢
      rw [List.map_append, List.map_singleton, roles_concat, Std.ExtTreeMap.getElem?_insert, ih,
        List.reverse_append, List.reverse_singleton, List.singleton_append, List.find?_cons]
      by_cases hsubject : member.subject = subject
      · simp [hsubject]
      · have hne : (member.subject == subject) = false := beq_false_of_ne hsubject
        simp [hsubject, hne]

/-- A list of members without repeated subjects is read back from its map. -/
theorem getElem?_roles_eq_some {members : List (String × WorkspaceRole)}
    (hdistinct : (members.map Prod.fst).Nodup) {subject : String} {role : WorkspaceRole} :
    (roles members)[subject]? = some role ↔ (subject, role) ∈ members := by
  induction members using List.reverseRecOn with
  | nil => simp [roles]
  | append_singleton members member ih =>
      obtain ⟨subject', role'⟩ := member
      rw [List.map_append, List.map_singleton] at hdistinct
      obtain ⟨hbefore, -, hfresh⟩ := List.nodup_append.mp hdistinct
      rw [roles_concat, Std.ExtTreeMap.getElem?_insert]
      by_cases hsubject : subject' = subject
      · subst hsubject
        have hnot : (subject', role) ∉ members := by
          intro hmem
          exact hfresh _ (List.mem_map_of_mem hmem) _ List.mem_cons_self rfl
        simp [hnot, eq_comm]
      · have hne : ¬ subject = subject' := fun h => hsubject h.symm
        simp [hsubject, hne, ih hbefore]

theorem nodup_subjects (members : StrMap WorkspaceRole) : (members.toList.map Prod.fst).Nodup := by
  rw [Std.ExtTreeMap.map_fst_toList_eq_keys]
  exact Std.ExtTreeMap.nodup_keys

/-- The listing of a map in any order gives the map back. -/
theorem roles_of_perm {members : StrMap WorkspaceRole} {current : List WorkspaceMemberView}
    (h : current.Perm (members.toList.map (fun m => ⟨m.1, m.2⟩))) :
    roles (current.map (fun member => (member.subject, member.role))) = members := by
  have hperm : (current.map (fun member => (member.subject, member.role))).Perm members.toList := by
    simpa [Function.comp_def] using h.map (fun member => (member.subject, member.role))
  have hdistinct : ((current.map (fun member => (member.subject, member.role))).map
      Prod.fst).Nodup := (hperm.map Prod.fst).nodup_iff.mpr (nodup_subjects members)
  refine Std.ExtTreeMap.ext_getElem? (fun subject => Option.ext (fun role => ?_))
  rw [getElem?_roles_eq_some hdistinct, hperm.mem_iff,
    Std.ExtTreeMap.mem_toList_iff_getElem?_eq_some]

theorem mem_unmatched {members others : StrMap WorkspaceRole} {subject : String}
    {role : WorkspaceRole} :
    (subject, role) ∈ unmatched members others ↔
      members[subject]? = some role ∧ others[subject]? ≠ some role := by
  simp [unmatched, Std.ExtTreeMap.mem_toList_iff_getElem?_eq_some]

theorem nodup_unmatched (members others : StrMap WorkspaceRole) :
    ((unmatched members others).map Prod.fst).Nodup :=
  (nodup_subjects members).sublist (List.filter_sublist.map _)

/-- The delta of a listing in any order is that of the map. -/
theorem memberDelta_of_perm (desired : List WorkspaceMember) {members : StrMap WorkspaceRole}
    {current : List WorkspaceMemberView}
    (h : current.Perm (members.toList.map (fun m => ⟨m.1, m.2⟩))) :
    memberDelta desired current =
      ((unmatched members (declared desired)).map Prod.fst, unmatched (declared desired) members) := by
  rw [memberDelta, roles_of_perm h]
  rfl

/-- The workspace reconcile lists the members by one call; any listing gives the same delta. -/
theorem memberDelta_eq_of_list (desired : List WorkspaceMember) {g : Gateway} {name : String}
    {workspace : GatewayWorkspace} {current answer : List WorkspaceMemberView}
    (hworkspace : g.workspaces[name]? = some workspace)
    (hanswer : g.listWorkspaceMembers name = .ok answer)
    (h : current.Perm (workspace.members.toList.map (fun m => ⟨m.1, m.2⟩))) :
    memberDelta desired current = memberDelta desired answer := by
  simp only [Gateway.listWorkspaceMembers, hworkspace, Except.ok.injEq] at hanswer
  rw [memberDelta_of_perm desired h, ← hanswer, memberDelta_of_perm desired (List.Perm.refl _)]

/-! ### The listing, page by page -/

/-- The role of a member on the wire. -/
inductive ProtoWorkspaceRole where
  | unspecified
  | user
  | admin
deriving DecidableEq, Repr

structure ProtoWorkspaceMember where
  principalSubject : String
  role : ProtoWorkspaceRole
deriving DecidableEq, Repr

structure ListWorkspaceMembersResponse where
  members : List ProtoWorkspaceMember
  nextPageToken : String
deriving DecidableEq, Repr

/-- A member as the reconciler sees it; every role but admin is user. -/
def memberView (member : ProtoWorkspaceMember) : WorkspaceMemberView :=
  ⟨member.principalSubject, match member.role with | .admin => .admin | _ => .user⟩

def workspaceRoleToProto : WorkspaceRole → ProtoWorkspaceRole
  | .user => .user
  | .admin => .admin

/-- The RPCs about members. -/
inductive MemberCall where
  | list (scope : WorkspaceSelector) (pageToken : String)
  | add (scope : WorkspaceSelector) (principalSubject : String) (role : ProtoWorkspaceRole)
  | remove (scope : WorkspaceSelector) (principalSubject : String) (allowMissing : Bool)
deriving DecidableEq, Repr

def MemberCall.Answer : MemberCall → Type
  | list _ _ => ListWorkspaceMembersResponse
  | add _ _ _ | remove _ _ _ => Unit

abbrev MemberOp := Prog MemberCall.Answer Error

def listPage (workspace pageToken : String) : MemberOp ListWorkspaceMembersResponse :=
  Prog.perform (MemberCall.list (workspaceScope workspace) pageToken)

def addWorkspaceMember (workspace subject : String) (role : WorkspaceRole) : MemberOp Unit :=
  Prog.perform (MemberCall.add (workspaceScope workspace) subject (workspaceRoleToProto role))

def removeWorkspaceMember (workspace subject : String) : MemberOp Unit :=
  Prog.perform (MemberCall.remove (workspaceScope workspace) subject false)

/-- The loop over the pages: the members so far and the token of the next page.  The loop is cut
off after `fuel` pages. -/
def listPages (workspace : String) : ℕ → List WorkspaceMemberView → String →
    MemberOp (List WorkspaceMemberView)
  | 0, _, _ => Prog.fail (.gateway "page loop cut off")
  | fuel + 1, members, pageToken => do
      let response ← listPage workspace pageToken
      let members := members ++ response.members.map memberView
      if response.nextPageToken = "" then pure members
      else listPages workspace fuel members response.nextPageToken

def listWorkspaceMembers (workspace : String) (fuel : ℕ) : MemberOp (List WorkspaceMemberView) :=
  listPages workspace fuel [] ""

/-- One attempt to converge the members, with the listing page by page. -/
def convergePaged (workspace : String) (desired : List WorkspaceMember) (fuel : ℕ) :
    MemberOp PUnit := do
  let current ← listWorkspaceMembers workspace fuel
  let delta := memberDelta desired current
  delta.1.forM (fun subject => removeWorkspaceMember workspace subject)
  delta.2.forM (fun member => addWorkspaceMember workspace member.1 member.2)

/-! ### The gateway -/

/-- A member of the gateway's map on the wire. -/
def memberToProto (member : String × WorkspaceRole) : ProtoWorkspaceMember :=
  ⟨member.1, workspaceRoleToProto member.2⟩

theorem memberView_memberToProto (member : String × WorkspaceRole) :
    memberView (memberToProto member) = ⟨member.1, member.2⟩ := by
  obtain ⟨subject, role⟩ := member
  cases role <;> rfl

/-- What is listed of a map, as the reconciler sees it. -/
theorem perm_memberView {members : StrMap WorkspaceRole} {listed : List ProtoWorkspaceMember}
    (h : listed.Perm (members.toList.map memberToProto)) :
    (listed.map memberView).Perm (members.toList.map (fun m => ⟨m.1, m.2⟩)) := by
  have hmap := h.map memberView
  rw [List.map_map] at hmap
  simpa only [Function.comp_def, memberView_memberToProto] using hmap

/-- From a page token, the pages hold these members, and the tokens come to an end. -/
inductive Pages (page : String → Except Error ListWorkspaceMembersResponse) :
    String → List ProtoWorkspaceMember → Prop
  | last {token : String} {members : List ProtoWorkspaceMember} :
      page token = .ok ⟨members, ""⟩ → Pages page token members
  | next {token token' : String} {members rest : List ProtoWorkspaceMember} :
      page token = .ok ⟨members, token'⟩ → token' ≠ "" → Pages page token' rest →
      Pages page token (members ++ rest)

/-- How the gateway splits a listing into pages: all members of the map, in some order. -/
structure Paging where
  page : StrMap WorkspaceRole → String → Except Error ListWorkspaceMembersResponse
  complete : ∀ members, ∃ listed, Pages (page members) "" listed ∧
    listed.Perm (members.toList.map memberToProto)

/-- The members of the workspace on the gateway. -/
structure MemberWorld where
  members : StrMap WorkspaceRole
  paging : Paging

/-- The role that a request asks for. -/
def roleFromProto : ProtoWorkspaceRole → Except Error WorkspaceRole
  | .user => .ok .user
  | .admin => .ok .admin
  | .unspecified => .error (rpcError .invalidArgument "role is required")

namespace MemberWorld

/-- Change the members, unless the change is refused. -/
def modify (w : MemberWorld) (change : Except Error (StrMap WorkspaceRole)) :
    MemberWorld × Except Error Unit :=
  match change with
  | .ok members => ({ w with members := members }, .ok ())
  | .error err => (w, .error err)

/-- What a served call does. -/
def serve (w : MemberWorld) : (c : MemberCall) → MemberWorld × Except Error c.Answer
  | .list _ pageToken => (w, w.paging.page w.members pageToken)
  | .add _ subject role =>
      w.modify (do Gateway.addMember subject (← roleFromProto role) w.members)
  | .remove _ subject allowMissing =>
      if allowMissing && !w.members.contains subject then (w, .ok ())
      else w.modify (Gateway.removeMember subject w.members)

/-- Calls may fail, with or without effect. -/
def react : MemberWorld → (c : MemberCall) → Fate Outage → MemberWorld × Except Error c.Answer :=
  respond Outage.error serve

/-- Between attempts the gateway may split the listing in another way. -/
def Env (w w' : MemberWorld) : Prop := w'.members = w.members

end MemberWorld

/-! ### The listing is complete -/

section listing
variable {workspace : String} {w : MemberWorld} {G : MemberWorld → MemberCall → Prop}
  {token : String} {rest : List ProtoWorkspaceMember}

/-- The loop returns the members so far and those of the pages to come, and changes nothing. -/
theorem listPages_safe (hG : ∀ scope token, G w (.list scope token)) (fuel : ℕ)
    (members : List WorkspaceMemberView) (h : Pages (w.paging.page w.members) token rest) :
    (listPages workspace fuel members token).Safe MemberWorld.react Rely.none G
      (fun r w' => ∀ current, r = .ok current →
        current = members ++ rest.map memberView ∧ w' = w) w := by
  induction fuel generalizing members token rest with
  | zero =>
      intro w' _ current hcurrent
      cases hcurrent
  | succ fuel ih =>
      refine Prog.Safe.bind_ok (safe_respond ?_)
      rintro _ rfl
      refine ⟨hG _ _, ?_⟩
      rintro response hresponse _ rfl
      have hpage : w.paging.page w.members token = .ok response := hresponse
      cases h with
      | last hlast =>
          rw [hlast] at hpage
          cases hpage
          rintro _ rfl current ⟨rfl⟩
          exact ⟨rfl, rfl⟩
      | @next _ token' pageMembers rest' hnext htoken hrest =>
          rw [hnext] at hpage
          cases hpage
          show Prog.Safe _ _ _ _ (ite _ _ _) w
          rw [if_neg htoken, List.map_append, ← List.append_assoc]
          exact ih _ hrest

/-- With enough rounds the loop ends. -/
theorem listPages_outcome (workspace : String) (h : Pages (w.paging.page w.members) token rest) :
    ∃ n, ∀ fuel, n ≤ fuel → ∀ members,
      (listPages workspace fuel members token).outcome MemberWorld.serve w =
        (w, .ok (members ++ rest.map memberView)) := by
  induction h with
  | @last token members' hlast =>
      refine ⟨1, fun fuel hfuel members => ?_⟩
      obtain ⟨fuel, rfl⟩ : ∃ k, fuel = k + 1 := ⟨fuel - 1, by omega⟩
      rw [listPages, Prog.outcome_bind]
      simp only [listPage, Prog.perform, Prog.outcome, MemberWorld.serve, hlast]
      rfl
  | @next token token' members' rest' hnext htoken _ ih =>
      obtain ⟨n, hn⟩ := ih
      refine ⟨n + 1, fun fuel hfuel members => ?_⟩
      obtain ⟨fuel, rfl⟩ : ∃ k, fuel = k + 1 := ⟨fuel - 1, by omega⟩
      rw [listPages, Prog.outcome_bind]
      simp only [listPage, Prog.perform, Prog.outcome, MemberWorld.serve, hnext, if_neg htoken]
      rw [hn fuel (by omega), List.map_append, List.append_assoc]

end listing

/-! ### Removing and adding -/

section deltas
variable {before wanted : StrMap WorkspaceRole} {w : MemberWorld}

/-- What holds while the subjects `rest` are still to be removed: they have the role they had, and
of the others only those with the wanted role are left. -/
structure Removing (before wanted : StrMap WorkspaceRole) (rest : List String) (w : MemberWorld) :
    Prop where
  distinct : rest.Nodup
  there : ∀ subject ∈ rest, subject ∈ before
  unwanted : ∀ subject ∈ rest, wanted[subject]? ≠ before[subject]?
  members : ∀ subject : String, w.members[subject]? =
    if subject ∈ rest then before[subject]?
    else if wanted[subject]? = before[subject]? then before[subject]? else none

/-- What holds while the members `rest` are still to be added: they are not there, and all other
subjects have the wanted role. -/
structure Adding (wanted : StrMap WorkspaceRole) (rest : List (String × WorkspaceRole))
    (w : MemberWorld) : Prop where
  distinct : (rest.map Prod.fst).Nodup
  role : ∀ member ∈ rest, wanted[member.1]? = some member.2
  members : ∀ subject : String, w.members[subject]? =
    if subject ∈ rest.map Prod.fst then none else wanted[subject]?

theorem mem_map_unmatched {members others : StrMap WorkspaceRole} {subject : String} :
    subject ∈ (unmatched members others).map Prod.fst ↔
      members[subject]? ≠ none ∧ others[subject]? ≠ members[subject]? := by
  simp only [List.mem_map, Prod.exists, mem_unmatched, exists_and_right, exists_eq_right]
  cases members[subject]? with
  | none => simp
  | some role => simp

theorem removing_unmatched (wanted : StrMap WorkspaceRole) (w : MemberWorld) :
    Removing w.members wanted ((unmatched w.members wanted).map Prod.fst) w where
  distinct := nodup_unmatched _ _
  there subject h := by
    have hsome := (mem_map_unmatched.mp h).1
    rw [← Std.ExtTreeMap.isSome_getElem?_iff_mem]
    exact Option.isSome_iff_ne_none.mpr hsome
  unwanted subject h := (mem_map_unmatched.mp h).2
  members subject := by
    simp only [mem_map_unmatched]
    by_cases hnone : w.members[subject]? = none
    · simp [hnone]
    · by_cases hsame : wanted[subject]? = w.members[subject]?
      · simp [hsame]
      · simp [hnone, hsame]

theorem adding_unmatched (h : Removing before wanted [] w) :
    Adding wanted (unmatched wanted before) w where
  distinct := nodup_unmatched _ _
  role member hmember := (mem_unmatched.mp hmember).1
  members subject := by
    simp only [h.members subject, mem_map_unmatched]
    by_cases hsame : wanted[subject]? = before[subject]?
    · simp [hsame]
    · have hne : ¬ before[subject]? = wanted[subject]? := fun h => hsame h.symm
      by_cases hnone : wanted[subject]? = none
      · simp [hnone]
      · simp [hsame, hne, hnone]

theorem Removing.head {subject : String} {rest : List String}
    (h : Removing before wanted (subject :: rest) w) : subject ∈ w.members := by
  have hmembers := h.members subject
  rw [if_pos List.mem_cons_self] at hmembers
  rw [← Std.ExtTreeMap.isSome_getElem?_iff_mem, hmembers, Std.ExtTreeMap.isSome_getElem?_iff_mem]
  exact h.there subject List.mem_cons_self

theorem Removing.tail {subject : String} {rest : List String}
    (h : Removing before wanted (subject :: rest) w) :
    Removing before wanted rest { w with members := w.members.erase subject } where
  distinct := h.distinct.of_cons
  there s hs := h.there s (List.mem_cons_of_mem _ hs)
  unwanted s hs := h.unwanted s (List.mem_cons_of_mem _ hs)
  members s := by
    have hnot : subject ∉ rest := (List.nodup_cons.mp h.distinct).1
    have hunwanted := h.unwanted subject List.mem_cons_self
    rw [Std.ExtTreeMap.getElem?_erase, h.members s]
    by_cases hs : subject = s
    · subst hs
      simp [hnot, hunwanted]
    · have hne : ¬ s = subject := fun h => hs h.symm
      simp [hs, hne]

theorem Adding.head {member : String × WorkspaceRole} {rest : List (String × WorkspaceRole)}
    (h : Adding wanted (member :: rest) w) : member.1 ∉ w.members := by
  have hmembers := h.members member.1
  rw [if_pos (List.mem_map_of_mem List.mem_cons_self)] at hmembers
  rw [← Std.ExtTreeMap.isSome_getElem?_iff_mem, hmembers]
  simp

theorem Adding.tail {member : String × WorkspaceRole} {rest : List (String × WorkspaceRole)}
    (h : Adding wanted (member :: rest) w) :
    Adding wanted rest { w with members := w.members.insert member.1 member.2 } where
  distinct := h.distinct.of_cons
  role m hm := h.role m (List.mem_cons_of_mem _ hm)
  members s := by
    have hnot : member.1 ∉ rest.map Prod.fst := (List.nodup_cons.mp h.distinct).1
    have hwanted := h.role member List.mem_cons_self
    rw [Std.ExtTreeMap.getElem?_insert, h.members s]
    by_cases hs : member.1 = s
    · subst hs
      simp only [hnot, hwanted, Std.compare_self, if_true, if_false]
    · have hne : ¬ s = member.1 := fun h => hs h.symm
      simp only [List.map_cons, List.mem_cons, hne, false_or, Std.compare_eq_iff_eq, hs, if_false]

/-- When nothing is left to add, the members are the wanted ones. -/
theorem Adding.done (h : Adding wanted [] w) : w.members = wanted := by
  refine Std.ExtTreeMap.ext_getElem? (fun subject => ?_)
  rw [h.members subject]
  simp

end deltas

/-! ### One attempt -/

section attempt
variable {workspace : String} {desired : List WorkspaceMember} {w : MemberWorld}

/-- When a call may be made: only members are removed, and only subjects that are none are added,
with their declared role. -/
def Legal (desired : List WorkspaceMember) (w : MemberWorld) : MemberCall → Prop
  | .list _ _ => True
  | .remove _ subject _ => subject ∈ w.members
  | .add _ subject role => subject ∉ w.members ∧
      ∃ declared, declaredRole desired subject = some declared ∧ role = workspaceRoleToProto declared

theorem serve_remove (scope : WorkspaceSelector) {subject : String} (allowMissing : Bool)
    (h : subject ∈ w.members) :
    w.serve (.remove scope subject allowMissing) =
      ({ w with members := w.members.erase subject }, .ok ()) := by
  have hcontains : w.members.contains subject = true := by rwa [Std.ExtTreeMap.contains_iff_mem]
  simp only [MemberWorld.serve, Gateway.removeMember, hcontains, Bool.not_true, Bool.and_false,
    Bool.false_eq_true, if_true]
  rfl

theorem serve_add (scope : WorkspaceSelector) {subject : String} {role : WorkspaceRole}
    (h : subject ∉ w.members) :
    w.serve (.add scope subject (workspaceRoleToProto role)) =
      ({ w with members := w.members.insert subject role }, .ok ()) := by
  have hcontains : w.members.contains subject = false := by
    rwa [← Bool.not_eq_true, Std.ExtTreeMap.contains_iff_mem]
  have hrole : roleFromProto (workspaceRoleToProto role) = .ok role := by
    cases role <;> rfl
  simp only [MemberWorld.serve, hrole]
  show w.modify (Gateway.addMember subject role w.members) = _
  simp only [Gateway.addMember, hcontains, Bool.false_eq_true, if_false]
  rfl

/-- The removals are legal, and leave the members that are as wanted. -/
theorem removes_safe {before : StrMap WorkspaceRole} (rest : List String)
    (h : Removing before (declared desired) rest w) :
    (rest.forM (fun subject => removeWorkspaceMember workspace subject)).Safe MemberWorld.react
      Rely.none (Legal desired)
      (fun r w' => ∀ a, r = .ok a → Removing before (declared desired) [] w') w := by
  refine Prog.Safe.forM_ok ?_ ?_ rest w h
  · rintro w w' hw rfl
    exact hw
  · intro subject rest w hw
    refine safe_respond ?_
    rintro _ rfl
    refine ⟨hw.head, ?_⟩
    rintro _ _ _ rfl
    rw [serve_remove _ _ hw.head]
    exact hw.tail

/-- The additions are legal, and leave exactly the wanted members. -/
theorem adds_safe (rest : List (String × WorkspaceRole)) (h : Adding (declared desired) rest w) :
    (rest.forM (fun member => addWorkspaceMember workspace member.1 member.2)).Safe
      MemberWorld.react Rely.none (Legal desired)
      (fun r w' => ∀ a, r = .ok a → Adding (declared desired) [] w') w := by
  refine Prog.Safe.forM_ok ?_ ?_ rest w h
  · rintro w w' hw rfl
    exact hw
  · intro member rest w hw
    refine safe_respond ?_
    rintro _ rfl
    refine ⟨⟨hw.head, member.2, ?_, rfl⟩, ?_⟩
    · rw [← getElem?_declared]
      exact hw.role member List.mem_cons_self
    · rintro _ _ _ rfl
      rw [serve_add _ hw.head]
      exact hw.tail

/-- The listing gives the members, in some order. -/
theorem listWorkspaceMembers_safe {G : MemberWorld → MemberCall → Prop}
    (hG : ∀ scope token, G w (.list scope token)) (fuel : ℕ) :
    (listWorkspaceMembers workspace fuel).Safe MemberWorld.react Rely.none G
      (fun r w' => ∀ current, r = .ok current → w' = w ∧
        current.Perm (w.members.toList.map (fun m => ⟨m.1, m.2⟩))) w := by
  obtain ⟨listed, hpages, hperm⟩ := w.paging.complete w.members
  refine Prog.Safe.mono (fun _ _ hc => hc) ?_ (listPages_safe hG fuel [] hpages)
  rintro r w' hr current rfl
  obtain ⟨hcurrent, rfl⟩ := hr current rfl
  refine ⟨rfl, ?_⟩
  rw [hcurrent, List.nil_append]
  exact perm_memberView hperm

/-- An attempt makes legal calls only, and if it returns the members are the declared ones. -/
theorem convergePaged_safe (fuel : ℕ) :
    (convergePaged workspace desired fuel).Safe MemberWorld.react Rely.none (Legal desired)
      (fun r w' => ∀ a, r = .ok a → w'.members = declared desired) w := by
  refine Prog.Safe.bind_ok (Prog.Safe.mono (fun _ _ hc => hc) ?_
    (listWorkspaceMembers_safe (fun _ _ => trivial) fuel))
  intro r w' hr current hcurrent
  obtain ⟨rfl, hperm⟩ := hr current hcurrent
  rw [memberDelta_of_perm desired hperm]
  refine Prog.Safe.bind_ok (Prog.Safe.mono (fun _ _ hc => hc) ?_
    (removes_safe _ (removing_unmatched _ w')))
  intro r₁ w₁ hr₁ a₁ ha₁
  refine Prog.Safe.mono (fun _ _ hc => hc) ?_ (adds_safe _ (adding_unmatched (hr₁ a₁ ha₁)))
  intro r₂ w₂ hr₂ a₂ ha₂
  exact (hr₂ a₂ ha₂).done

theorem unmatched_self (members : StrMap WorkspaceRole) : unmatched members members = [] := by
  refine List.eq_nil_iff_forall_not_mem.mpr (fun member hmember => ?_)
  obtain ⟨hsome, hne⟩ := mem_unmatched.mp hmember
  exact hne hsome

/-- When the members are the declared ones, an attempt only lists. -/
theorem convergePaged_lists (workspace : String) (hw : w.members = declared desired) (fuel : ℕ) :
    (convergePaged workspace desired fuel).Safe MemberWorld.react Rely.none
      (fun _ c => ∃ scope token, c = .list scope token) (fun _ _ => True) w := by
  refine Prog.Safe.bind (Prog.Safe.mono (fun _ _ hc => hc) ?_
    (listWorkspaceMembers_safe (fun scope token => ⟨scope, token, rfl⟩) fuel))
  intro r w' hr
  cases r with
  | error err => exact fun _ _ => trivial
  | ok current =>
      obtain ⟨rfl, hperm⟩ := hr current rfl
      show Prog.Safe _ _ _ _ (_ >>= _) w'
      rw [memberDelta_of_perm desired hperm, hw, unmatched_self]
      exact fun _ _ => trivial

/-- An attempt with enough rounds for the pages, all of whose calls are served, returns. -/
theorem convergePaged_outcome (workspace : String) (desired : List WorkspaceMember)
    (w : MemberWorld) : ∃ n, ∀ fuel, n ≤ fuel →
      ((convergePaged workspace desired fuel).outcome MemberWorld.serve w).2 = .ok ⟨⟩ := by
  obtain ⟨listed, hpages, hperm⟩ := w.paging.complete w.members
  obtain ⟨n, hn⟩ := listPages_outcome workspace hpages
  refine ⟨n, fun fuel hfuel => ?_⟩
  have hlisted := perm_memberView hperm
  have hremove : ∀ subject rest w', Removing w.members (declared desired) (subject :: rest) w' →
      ∃ w'', (removeWorkspaceMember workspace subject).outcome MemberWorld.serve w' = (w'', .ok ⟨⟩) ∧
        Removing w.members (declared desired) rest w'' :=
    fun subject rest w' hw' => ⟨_, serve_remove (workspaceScope workspace) false hw'.head, hw'.tail⟩
  have hadd : ∀ member rest w', Adding (declared desired) (member :: rest) w' →
      ∃ w'', (addWorkspaceMember workspace member.1 member.2).outcome MemberWorld.serve w' =
        (w'', .ok ⟨⟩) ∧ Adding (declared desired) rest w'' :=
    fun member rest w' hw' => ⟨_, serve_add (workspaceScope workspace) hw'.head, hw'.tail⟩
  obtain ⟨w₁, hremoves, hw₁⟩ := Prog.outcome_forM hremove _ w (removing_unmatched _ w)
  obtain ⟨w₂, hadds, -⟩ := Prog.outcome_forM hadd _ w₁ (adding_unmatched hw₁)
  rw [convergePaged, Prog.outcome_bind, listWorkspaceMembers, hn fuel hfuel]
  dsimp only
  rw [List.nil_append, memberDelta_of_perm desired hlisted, Prog.outcome_bind, hremoves]
  dsimp only
  rw [hadds]

end attempt

/-! ### Attempt after attempt -/

section attempts
variable {workspace : String} {desired : List WorkspaceMember} {w w' : MemberWorld}
  {original : StrMap WorkspaceRole}

/-- A subject has its original role, its declared role or none. -/
def Between (original : StrMap WorkspaceRole) (desired : List WorkspaceMember) (w : MemberWorld) :
    Prop :=
  ∀ subject : String, w.members[subject]? = original[subject]? ∨
    w.members[subject]? = declaredRole desired subject ∨ w.members[subject]? = none

theorem Between.serve {c : MemberCall} (h : Between original desired w) (hc : Legal desired w c) :
    Between original desired (w.serve c).1 := by
  cases c with
  | list scope token => exact h
  | remove scope subject allowMissing =>
      rw [serve_remove scope allowMissing hc]
      intro s
      rw [Std.ExtTreeMap.getElem?_erase]
      split_ifs
      · exact .inr (.inr rfl)
      · exact h s
  | add scope subject role =>
      obtain ⟨hnew, declaredAs, hdeclared, rfl⟩ := hc
      rw [serve_add scope hnew]
      intro s
      rw [Std.ExtTreeMap.getElem?_insert]
      split_ifs with hs
      · rw [Std.compare_eq_iff_eq] at hs
        subst hs
        exact .inr (.inl hdeclared.symm)
      · exact h s

theorem Between.react {c : MemberCall} (h : Between original desired w) (hc : Legal desired w c)
    (f : Fate Outage) : Between original desired (w.react c f).1 := by
  rcases respond_world Outage.error MemberWorld.serve w c f with hreact | hreact
  · rw [MemberWorld.react, hreact]
    exact h
  · rw [MemberWorld.react, hreact]
    exact h.serve hc

/-- Attempts to converge the same declared members, of any number of rounds. -/
def attempts (workspace : String) (desired : List WorkspaceMember) (_ : MemberWorld)
    (p : MemberOp PUnit) (R : Rely MemberWorld) : Prop :=
  (∃ fuel, p = convergePaged workspace desired fuel) ∧ R = Rely.none

/-- A run of an attempt, wherever it ends, keeps the roles between original and declared. -/
theorem Between.steps {fuel : ℕ} {tr : List (MemberCall × Fate Outage)} {p' : MemberOp PUnit}
    (h : Between original desired w)
    (hs : Prog.Steps MemberWorld.react Rely.none (convergePaged workspace desired fuel) w tr p' w') :
    Between original desired w' := by
  have hR : ∀ w w', Between original desired w → Rely.none w w' → Between original desired w' := by
    rintro w w' hw rfl
    exact hw
  have hG : ∀ w c f, Between original desired w → Legal desired w c →
      Between original desired (w.react c f).1 := fun w c f hw hc => hw.react hc f
  exact (Prog.Safe.steps_inv hR hG hs (convergePaged_safe fuel) h).1

theorem Between.session {tr : List (MemberCall × Fate Outage)}
    (h : Session MemberWorld.react (attempts workspace desired) MemberWorld.Env (fun _ => True)
      w tr w') : Between w.members desired w' := by
  have henv : ∀ w₁ w₂ : MemberWorld, Between w.members desired w₁ → MemberWorld.Env w₁ w₂ →
      Between w.members desired w₂ := by
    intro w₁ w₂ h₁ henv s
    rw [henv]
    exact h₁ s
  have hrun : ∀ (w₁ : MemberWorld) p R tr' p' w₂, Between w.members desired w₁ →
      attempts workspace desired w₁ p R → Prog.Steps MemberWorld.react R p w₁ tr' p' w₂ → True →
      Between w.members desired w₂ ∧ ∀ cf ∈ tr', True := by
    rintro w₁ p R tr' p' w₂ h₁ ⟨⟨fuel, rfl⟩, rfl⟩ hs -
    exact ⟨h₁.steps hs, fun _ _ => trivial⟩
  exact (Session.inv (A := fun _ => True) henv hrun h (fun _ => .inl rfl)).1

/-- **The members converge to the declared ones.**  After any number of attempts, each cut off
anywhere, and wherever the next attempt has come to:

* it removes only a member, and adds only a subject that is none at that moment;
* every subject has its original role, its declared role or none;
* if it has returned, the members are exactly the declared ones, and further attempts only list.

An attempt that has enough rounds for the pages and whose calls are served does return. -/
theorem members_converge (workspace : String) (desired : List WorkspaceMember)
    {w w₁ : MemberWorld} {tr : List (MemberCall × Fate Outage)}
    (h : Session MemberWorld.react (attempts workspace desired) MemberWorld.Env (fun _ => True)
      w tr w₁) :
    (∀ fuel tr' p' w₂, Prog.Steps MemberWorld.react Rely.none (convergePaged workspace desired fuel)
        w₁ tr' p' w₂ →
      (∀ scope subject allowMissing, p'.next = some (.remove scope subject allowMissing) →
        subject ∈ w₂.members) ∧
      (∀ scope subject role, p'.next = some (.add scope subject role) → subject ∉ w₂.members) ∧
      (∀ subject : String, w₂.members[subject]? = w.members[subject]? ∨
        w₂.members[subject]? = declaredRole desired subject ∨ w₂.members[subject]? = none) ∧
      (p' = .done (.ok ⟨⟩) →
        (∀ subject : String, w₂.members[subject]? = declaredRole desired subject) ∧
        ∀ w₃ fuel' tr'' p'' w₄, MemberWorld.Env w₂ w₃ →
          Prog.Steps MemberWorld.react Rely.none (convergePaged workspace desired fuel') w₃ tr'' p''
            w₄ → ∀ cf ∈ tr'', ∃ scope token, cf.1 = .list scope token)) ∧
    ∃ n, ∀ fuel, n ≤ fuel → ∃ tr' w₂, Prog.Steps MemberWorld.react Rely.none
      (convergePaged workspace desired fuel) w₁ tr' (.done (.ok ⟨⟩)) w₂ := by
  constructor
  · intro fuel tr' p' w₂ hs
    have hsafe := Prog.Safe.steps hs (convergePaged_safe fuel)
    have hnext : ∀ c, p'.next = some c → Legal desired w₂ c := by
      intro c hc
      obtain ⟨k, rfl⟩ := Prog.eq_of_next hc
      exact (hsafe w₂ rfl).1
    refine ⟨fun scope subject allowMissing hc => hnext _ hc, fun scope subject role hc =>
      (hnext _ hc).1, (Between.session h).steps hs, ?_⟩
    rintro rfl
    have hmembers : w₂.members = declared desired := hsafe w₂ rfl ⟨⟩ rfl
    refine ⟨fun subject => by rw [hmembers, getElem?_declared], ?_⟩
    intro w₃ fuel' tr'' p'' w₄ henv hs' cf hcf
    have hlists := convergePaged_lists workspace (henv.trans hmembers) fuel'
    obtain ⟨-, htrace⟩ := Prog.Safe.steps_inv (I := fun _ => True) (fun _ _ _ _ => trivial)
      (fun _ _ _ _ _ => trivial) hs' hlists trivial
    obtain ⟨-, -, hcall⟩ := htrace cf hcf
    exact hcall
  · obtain ⟨n, hn⟩ := convergePaged_outcome workspace desired w₁
    refine ⟨n, fun fuel hfuel => ?_⟩
    obtain ⟨tr', hs⟩ := Prog.steps_outcome Outage.error MemberWorld.serve Rely.none
      (convergePaged workspace desired fuel) w₁
    rw [hn fuel hfuel] at hs
    exact ⟨tr', _, hs⟩

end attempts

end WorkspaceController

/-! ### A changed role -/

namespace Sample
open WorkspaceController

/-- The first member on a page of its own, the others on a second one. -/
def firstAlone (members : StrMap WorkspaceRole) (pageToken : String) :
    Except Error ListWorkspaceMembersResponse :=
  match members.toList.map memberToProto with
  | [] => .ok ⟨[], ""⟩
  | first :: rest => if pageToken = "" then .ok ⟨[first], "more"⟩ else .ok ⟨rest, ""⟩

def firstAlonePaging : Paging where
  page := firstAlone
  complete members := by
    refine ⟨members.toList.map memberToProto, ?_, List.Perm.refl _⟩
    cases hlisted : members.toList.map memberToProto with
    | nil => exact .last (by simp only [firstAlone, hlisted])
    | cons first rest =>
        have hfirst : firstAlone members "" = .ok ⟨[first], "more"⟩ := by
          simp only [firstAlone, hlisted, if_true]
        have hmore : firstAlone members "more" = .ok ⟨rest, ""⟩ := by
          simp [firstAlone, hlisted]
        exact .next hfirst (by decide) (.last hmore)

def teamBefore : MemberWorld :=
  ⟨((∅ : StrMap WorkspaceRole).insert "alice" .user).insert "bob" .user, firstAlonePaging⟩

def team : List WorkspaceMember := [⟨"alice", .user⟩, ⟨"alice", .admin⟩]

def attempt (calls : ℕ) (w : MemberWorld) : MemberOp PUnit × MemberWorld :=
  Prog.exec MemberWorld.react (List.replicate calls .served) (convergePaged "team" team 2) w

/-- An attempt that is cut off after it removed the old grant leaves the subject without a role;
the next one grants the declared role. -/
theorem interrupted_role_change : ∃ tr tr' w₂,
    Session MemberWorld.react (attempts "team" team) MemberWorld.Env (fun _ => True) teamBefore tr
      (attempt 3 teamBefore).2 ∧
    (attempt 3 teamBefore).2.members["alice"]? = none ∧
    Prog.Steps MemberWorld.react Rely.none (convergePaged "team" team 2) (attempt 3 teamBefore).2 tr'
      (.done (.ok ⟨⟩)) w₂ ∧
    w₂.members["alice"]? = some .admin ∧ w₂.members["bob"]? = none := by
  have hcut := Prog.steps_exec MemberWorld.react Rely.none (List.replicate 3 .served)
    (convergePaged "team" team 2) teamBefore
  have hsession : Session MemberWorld.react (attempts "team" team) MemberWorld.Env (fun _ => True)
      teamBefore _ (attempt 3 teamBefore).2 := .run (.nil _) ⟨⟨2, rfl⟩, rfl⟩ hcut trivial
  have hreturns : (attempt 5 (attempt 3 teamBefore).2).1 = .done (.ok ⟨⟩) := rfl
  have hnext := Prog.steps_exec MemberWorld.react Rely.none (List.replicate 5 .served)
    (convergePaged "team" team 2) (attempt 3 teamBefore).2
  rw [show (Prog.exec _ _ _ _).1 = _ from hreturns] at hnext
  obtain ⟨-, -, -, hreturned⟩ := (members_converge "team" team hsession).1 2 _ _ _ hnext
  obtain ⟨hmembers, -⟩ := hreturned rfl
  refine ⟨_, _, _, hsession, by decide +kernel, hnext, ?_, ?_⟩
  · rw [hmembers]
    rfl
  · rw [hmembers]
    rfl

end Sample
end OpenShell
