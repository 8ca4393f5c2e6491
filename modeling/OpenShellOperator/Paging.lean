import OpenShellOperator.Effects.Expand
import OpenShellOperator.Sandbox.Fingerprint
import OpenShellOperator.Workspace.Members

/-! # Listings page by page

The gateway client reads the provider profiles and the members of a workspace page by page, and
follows the page tokens until the gateway returns none.  Everywhere else in this model a listing
is one call.

`pagedClient` makes the calls of a program the way the client does.  As long as nobody else
changes what is listed, every run of a program with the paging client is a run of the program
with listings at once; and when all calls are served it ends, with the same result and world
(`paging_refines`). -/

namespace OpenShell
open Wire Effects
open WorkspaceController (ProtoWorkspaceMember memberView memberToProto memberView_memberToProto)

/-! ### Pages -/

/-- The calls of the client: a listing is requested by page. -/
inductive PagedCall where
  | call (c : Call)
  | providerProfilePage (pageToken : String)
  | workspaceMemberPage (scope : WorkspaceSelector) (pageToken : String)
deriving Repr

abbrev PagedCall.Answer : PagedCall → Type
  | call c => c.Answer
  | providerProfilePage _ => Prog.Page ProtoProfile
  | workspaceMemberPage _ _ => Prog.Page ProtoWorkspaceMember

abbrev PagedOp (α : Type) := Prog PagedCall.Answer Error α

namespace PagedGateway

def fetchProfiles (pageToken : String) : PagedOp (Prog.Page ProtoProfile) :=
  Prog.perform (ε := Error) (PagedCall.providerProfilePage pageToken)

def fetchMembers (scope : WorkspaceSelector) (pageToken : String) : PagedOp (Prog.Page ProtoWorkspaceMember) :=
  Prog.perform (ε := Error) (PagedCall.workspaceMemberPage scope pageToken)

/-- The platform profiles, at most `n` pages of them. -/
def listProviderProfiles (n : ℕ) : PagedOp (Option (List ProviderProfileView)) :=
  Prog.follow fetchProfiles providerProfileView n "" []

/-- The members of a workspace, at most `n` pages of them. -/
def listWorkspaceMembers (n : ℕ) (workspace : String) : PagedOp (Option (List WorkspaceMemberView)) :=
  Prog.follow (fetchMembers (workspaceScope workspace)) memberView n "" []

end PagedGateway

/-- How the client makes a call. -/
def pagedClient (n : ℕ) : (c : Call) → PagedOp (Option c.Answer)
  | .rpc .listProviderProfiles => Prog.follow PagedGateway.fetchProfiles id n "" []
  | .rpc (.listWorkspaceMembers scope) =>
      Prog.follow (PagedGateway.fetchMembers scope) memberView n "" []
  | c => do
      let answer ← Prog.perform (ε := Error) (PagedCall.call c)
      pure (some answer)

/-! ### The client's listings -/

/-- Profiles viewed as they come are the profiles viewed at the end. -/
theorem followProfiles_view : ∀ (n : ℕ) (token : String) (seen : List ProtoProfile),
    Prog.follow PagedGateway.fetchProfiles providerProfileView n token (seen.map providerProfileView) =
      ((Prog.follow PagedGateway.fetchProfiles id n token seen).attempt >>= fun r =>
        match Prog.settle r with
        | some r => (Prog.done (r.map (fun profiles => some (profiles.map providerProfileView))) :
            PagedOp (Option (List ProviderProfileView)))
        | none => pure none)
  | 0, _, _ => rfl
  | n + 1, token, seen => by
      show Prog.call _ _ = Prog.call _ _
      congr 1
      funext r
      cases r with
      | error err => rfl
      | ok response =>
          show (ite _ _ _ : PagedOp _) = ((ite _ _ _ : PagedOp _).attempt >>= _)
          have hseen : seen.map providerProfileView ++ response.items.map providerProfileView =
              (seen ++ response.items.map id).map providerProfileView := by
            rw [List.map_id, List.map_append]
          by_cases hlast : response.nextPageToken = ""
          · rw [if_pos hlast, if_pos hlast, hseen]
            rfl
          · rw [if_neg hlast, if_neg hlast, hseen]
            exact followProfiles_view n _ _

/-- The client's listing of profiles is the listing at once, made by the paging client. -/
theorem expand_listProviderProfiles (n : ℕ) :
    SdkGateway.listProviderProfiles.expand (pagedClient n) = PagedGateway.listProviderProfiles n := by
  unfold PagedGateway.listProviderProfiles
  rw [show ([] : List ProviderProfileView) = List.map providerProfileView [] from rfl,
    followProfiles_view n "" []]
  show Prog.expand _ (Prog.call _ _) = _
  rw [Prog.expand]
  congr 1
  funext r
  cases Prog.settle r with
  | none => rfl
  | some r => cases r <;> rfl

/-- The client's listing of members is the listing at once, made by the paging client. -/
theorem expand_listWorkspaceMembers (n : ℕ) (workspace : String) :
    (SdkGateway.listWorkspaceMembers workspace).expand (pagedClient n) =
      PagedGateway.listWorkspaceMembers n workspace := by
  exact Prog.expand_perform (pagedClient n) (.rpc (.listWorkspaceMembers (workspaceScope workspace)))

/-! ### The gateway -/

/-- How the gateway cuts its listings into pages. -/
structure Pagers where
  profiles : Prog.Pager ProtoProfile
  members : Prog.Pager ProtoWorkspaceMember

namespace Gateway

/-- The members of a workspace as the gateway lists them. -/
def protoMembers (g : Gateway) (name : String) : Except Error (List ProtoWorkspaceMember) :=
  match g.workspaces[name]? with
  | none => .error (rpcError .notFound "workspace not found")
  | some workspace =>
      .ok (workspace.members.toList.map memberToProto)

theorem protoMembers_view (g : Gateway) (name : String) :
    (g.protoMembers name).map (List.map memberView) = g.listWorkspaceMembers name := by
  unfold protoMembers listWorkspaceMembers
  cases g.workspaces[name]? with
  | none => rfl
  | some workspace =>
      simp only [Except.map, List.map_map]
      congr 1
      exact List.map_congr_left (fun member _ => memberView_memberToProto member)

end Gateway

/-- What a served call of the client does. -/
def pagedServe (X : Externals) (P : Pagers) (w : World) :
    (c : PagedCall) → World × Except Error c.Answer
  | .call c => World.serve X w c
  | .providerProfilePage pageToken => (w, .ok (P.profiles.page w.gateway.profiles pageToken))
  | .workspaceMemberPage scope pageToken =>
      (w, (w.gateway.protoMembers scope.workspace).map (P.members.page · pageToken))

/-- Calls may fail, with or without effect. -/
def pagedReact (X : Externals) (P : Pagers) :
    World → (c : PagedCall) → Fate Outage → World × Except Error c.Answer :=
  respond Outage.error (pagedServe X P)

/-- What is listed stays. -/
structure Unlisted (w w' : World) : Prop where
  profiles : w'.gateway.profiles = w.gateway.profiles
  members : ∀ name, w'.gateway.protoMembers name = w.gateway.protoMembers name

/-! ### The result -/

section refinement
variable {X : Externals} {P : Pagers} {R : Rely World}

/-- A request for profiles is served from the profiles. -/
theorem fetchProfiles_fetches (hR : ∀ {w w'}, R w w' → Unlisted w w') :
    Prog.Fetches (pagedReact X P) R Outage.error (fun w => .ok w.gateway.profiles) P.profiles
      PagedGateway.fetchProfiles := by
  intro token w w₁ hw₁
  refine ⟨hw₁, fun f w₂ hw₂ => ?_⟩
  have hlisted : w₁.gateway.profiles = w.gateway.profiles := (hR hw₁).profiles
  cases f with
  | served =>
      refine ⟨R.trans hw₁ hw₂, .inl ?_⟩
      show Except.ok (P.profiles.page w₁.gateway.profiles token) = _
      rw [hlisted]
      rfl
  | refused e => exact ⟨R.trans hw₁ hw₂, .inr ⟨e, rfl⟩⟩
  | unheard e => exact ⟨R.trans hw₁ hw₂, .inr ⟨e, rfl⟩⟩

/-- A request for members is served from the members. -/
theorem fetchMembers_fetches (hR : ∀ {w w'}, R w w' → Unlisted w w') (scope : WorkspaceSelector) :
    Prog.Fetches (pagedReact X P) R Outage.error (fun w => w.gateway.protoMembers scope.workspace)
      P.members (PagedGateway.fetchMembers scope) := by
  intro token w w₁ hw₁
  refine ⟨hw₁, fun f w₂ hw₂ => ?_⟩
  have hlisted := (hR hw₁).members scope.workspace
  cases f with
  | served =>
      refine ⟨R.trans hw₁ hw₂, .inl ?_⟩
      show (w₁.gateway.protoMembers scope.workspace).map (P.members.page · token) = _
      rw [hlisted]
  | refused e => exact ⟨R.trans hw₁ hw₂, .inr ⟨e, rfl⟩⟩
  | unheard e => exact ⟨R.trans hw₁ hw₂, .inr ⟨e, rfl⟩⟩

/-- A listing that fares like the call, and is served like it, realizes the call. -/
theorem realizes_listing {c : Call} {p : PagedOp (Option c.Answer)}
    (hread : ∀ w, (World.serve X w c).1 = w)
    (hp : ∀ w, p.Safe (pagedReact X P) R (fun w' _ => R w w') (fun r w' => R w w' ∧
      ∀ r', Prog.settle r = some r' → r' = (World.serve X w c).2 ∨ ∃ e, r' = .error (Outage.error e)) w) :
    Prog.Realizes (World.react X) (pagedReact X P) R c p := by
  intro w
  refine Prog.Safe.mono (fun _ _ hw => hw) ?_ (hp w)
  rintro r w' ⟨hw, hr⟩
  cases hsettle : Prog.settle r with
  | none => exact hw
  | some r' =>
      rcases hr r' hsettle with rfl | ⟨e, rfl⟩
      · exact ⟨w, w, .served, R.refl w, Prod.ext (hread w) rfl, hw⟩
      · exact ⟨w, w, .refused e, R.refl w, rfl, hw⟩

/-- The client realizes every call. -/
theorem pagedClient_realizes (hR : ∀ {w w'}, R w w' → Unlisted w w') (n : ℕ) (c : Call) :
    Prog.Realizes (World.react X) (pagedReact X P) R c (pagedClient n c) := by
  unfold pagedClient
  split
  · refine realizes_listing (fun _ => rfl) (fun w => ?_)
    refine Prog.Safe.mono (fun _ _ hw => hw) ?_ (Prog.follow_safe (fetchProfiles_fetches hR)
      (fun hw => congrArg Except.ok (hR hw).profiles) n w)
    rintro r w' ⟨hw, hr⟩
    refine ⟨hw, fun r' hsettle => ?_⟩
    rcases hr r' hsettle with rfl | he
    · refine .inl ?_
      show Except.ok (w.gateway.profiles.map id) = Except.ok w.gateway.profiles
      rw [List.map_id]
    · exact .inr he
  · rename_i scope
    refine realizes_listing (fun _ => rfl) (fun w => ?_)
    refine Prog.Safe.mono (fun _ _ hw => hw) ?_ (Prog.follow_safe (fetchMembers_fetches hR scope)
      (fun hw => (hR hw).members scope.workspace) n w)
    rintro r w' ⟨hw, hr⟩
    refine ⟨hw, fun r' hsettle => ?_⟩
    rcases hr r' hsettle with rfl | he
    · exact .inl (Gateway.protoMembers_view w.gateway scope.workspace)
    · exact .inr he
  · have hcall : ∀ w f, ∃ f', World.react X w c f' =
        ((pagedReact X P w (.call c) f).1, (pagedReact X P w (.call c) f).2.map id) := by
      refine fun w f => ⟨f, Prod.ext ?_ ?_⟩
      · cases f <;> rfl
      · have hanswer : (pagedReact X P w (.call c) f).2 = (World.react X w c f).2 := by
          cases f <;> rfl
        rw [hanswer]
        cases (World.react X w c f).2 <;> rfl
    exact Prog.realizes_perform (World.react X) (pagedReact X P) R c (.call c) id hcall

/-- With all calls served, the client answers a call as the gateway does, given enough pages. -/
theorem pagedClient_outcome (X : Externals) (P : Pagers) (c : Call) (w : World) : ∃ n₀, ∀ n, n₀ ≤ n →
    (pagedClient n c).outcome (pagedServe X P) w =
      ((World.serve X w c).1, (World.serve X w c).2.map some) := by
  unfold pagedClient
  split
  · refine ⟨P.profiles.pages w.gateway.profiles, fun n hn => ?_⟩
    rw [Prog.follow_paged_outcome (P := P.profiles) (fun _ => rfl) (P.profiles.whole _) n [] hn,
      List.map_id]
    rfl
  · rename_i scope
    show ∃ n₀, ∀ n, n₀ ≤ n → _ = (w, (w.gateway.listWorkspaceMembers scope.workspace).map some)
    rw [← Gateway.protoMembers_view]
    have hfetch : ∀ token, (PagedGateway.fetchMembers scope token).outcome (pagedServe X P) w =
        (w, (w.gateway.protoMembers scope.workspace).map (P.members.page · token)) := fun _ => rfl
    cases hmembers : w.gateway.protoMembers scope.workspace with
    | error err =>
        refine ⟨1, fun n hn => ?_⟩
        obtain ⟨n, rfl⟩ := Nat.exists_eq_add_of_le' hn
        rw [Prog.follow, Prog.outcome_bind, hfetch, hmembers]
        rfl
    | ok members =>
        rw [hmembers] at hfetch
        refine ⟨P.members.pages members, fun n hn => ?_⟩
        rw [Prog.follow_paged_outcome hfetch (P.members.whole _) n [] hn]
        rfl
  · refine ⟨0, fun n _ => ?_⟩
    have hcall : (Prog.perform (PagedCall.call c) : PagedOp c.Answer).outcome (pagedServe X P) w =
        World.serve X w c := rfl
    rw [Prog.outcome_bind, hcall]
    cases (World.serve X w c).2 <;> rfl

/-- **Paging changes nothing.**  Let nobody else change what is listed while a program runs.  Made
by the paging client, in which the listings are the source's loops over pages, and with any cut of
the listings into pages, the program is at every moment in a world that it also reaches with
listings at once, and a result it comes to is one it also comes to there.  When all calls are
served it does come to that result, after finitely many pages. -/
theorem paging_refines (hR : ∀ {w w'}, R w w' → Unlisted w w') {α : Type} (p : Op α) (w : World) :
    (∀ n, SdkGateway.listProviderProfiles.expand (pagedClient n) = PagedGateway.listProviderProfiles n ∧
      ∀ workspace, (SdkGateway.listWorkspaceMembers workspace).expand (pagedClient n) =
        PagedGateway.listWorkspaceMembers n workspace) ∧
    (∀ n tr q w', Prog.Steps (pagedReact X P) R (p.expand (pagedClient n)) w tr q w' →
      (∃ tr' q', Prog.Steps (World.react X) R p w tr' q' w') ∧
      ∀ r, q = .done (r.map some) → ∃ tr', Prog.Steps (World.react X) R p w tr' (.done r) w') ∧
    ∃ n₀, ∀ n, n₀ ≤ n → (p.expand (pagedClient n)).outcome (pagedServe X P) w =
      ((p.outcome (World.serve X) w).1, (p.outcome (World.serve X) w).2.map some) := by
  refine ⟨fun n => ⟨expand_listProviderProfiles n, expand_listWorkspaceMembers n⟩, ?_,
    Prog.outcome_expand (pagedClient_outcome X P) p w⟩
  intro n tr q w' hs
  have hsafe := Prog.Safe.steps hs (Prog.Safe.expand (pagedClient_realizes hR n) p w)
  cases q with
  | call c k => exact ⟨(hsafe w' (R.refl w')).1, fun r hr => by cases hr⟩
  | done r =>
      have hend := hsafe w' (R.refl w')
      refine ⟨?_, fun r' hr' => ?_⟩
      · cases hsettle : Prog.settle r with
        | none =>
            simp only [hsettle] at hend
            exact hend
        | some r' =>
            simp only [hsettle] at hend
            obtain ⟨tr', hs'⟩ := hend
            exact ⟨tr', _, hs'⟩
      · cases hr'
        simpa only [Prog.settle_map_some] using hend

end refinement

/-! ### An instance -/

namespace Sample

/-- One item a page; the token counts the pages that were read. -/
def onePage {γ : Type} (items : List γ) (token : String) : Prog.Page γ where
  items := (items.drop token.length).take 1
  nextPageToken := if token.length + 1 < items.length then token ++ "x" else ""

theorem onePage_paged {γ : Type} {items : List γ} (x : γ) (rest : List γ) (token : String)
    (h : items.drop token.length = x :: rest) :
    Prog.Paged (onePage items) (rest.length + 1) token (x :: rest) := by
  have hlength : items.length - token.length = rest.length + 1 := by
    rw [← List.length_drop, h, List.length_cons]
  have hitems : (onePage items token).items = [x] := by
    show (items.drop token.length).take 1 = [x]
    rw [h]
    rfl
  induction rest generalizing x token with
  | nil =>
      have hlast : (onePage items token).nextPageToken = "" :=
        if_neg (by rw [List.length_nil] at hlength; omega)
      rw [← hitems]
      exact .last hlast
  | cons y rest ih =>
      have hnext : (onePage items token).nextPageToken = token ++ "x" :=
        if_pos (by rw [List.length_cons] at hlength; omega)
      have htoken : (token ++ "x").length = token.length + 1 := String.length_append _ _
      have hdrop : items.drop (token ++ "x").length = y :: rest := by
        rw [htoken, ← List.drop_drop, h]
        rfl
      have hne : token ++ "x" ≠ "" := by
        intro hempty
        rw [hempty] at htoken
        cases htoken
      have hrest := ih y (token ++ "x") hdrop (by rw [← List.length_drop, hdrop, List.length_cons])
        (by show (items.drop (token ++ "x").length).take 1 = [y]; rw [hdrop]; rfl)
      have hmore := Prog.Paged.more (hnext ▸ hne) (hnext.symm ▸ hrest)
      rw [hitems] at hmore
      exact hmore

def onePager (γ : Type) : Prog.Pager γ where
  page := onePage
  pages items := items.length - 1 + 1
  whole items := by
    cases items with
    | nil => exact .last rfl
    | cons x rest => exact onePage_paged x rest "" rfl

def onePagers : Pagers := ⟨onePager _, onePager _⟩

/-- Two profiles. -/
def twoProfiles : World where
  gateway := { profiles := [⟨"claude", []⟩, ⟨"github", []⟩] }

/-- The loop reads both profiles in two requests, as a listing at once would. -/
theorem two_pages_at_once : ∃ tr, Prog.Steps (World.react versionExternals) Rely.none
    SdkGateway.listProviderProfiles twoProfiles tr (.done (.ok [⟨"claude", []⟩, ⟨"github", []⟩]))
    twoProfiles := by
  have hR : ∀ {w w' : World}, Rely.none w w' → Unlisted w w' := by
    rintro w _ rfl
    exact ⟨rfl, fun _ => rfl⟩
  have hserved : (SdkGateway.listProviderProfiles.expand (pagedClient 2)).outcome
      (pagedServe versionExternals onePagers) twoProfiles =
        (twoProfiles, .ok (some [⟨"claude", []⟩, ⟨"github", []⟩])) := by
    rw [expand_listProviderProfiles]
    exact Prog.follow_paged_outcome (P := onePager _) (fun _ => rfl)
      ((onePager _).whole twoProfiles.gateway.profiles) 2 [] (Nat.le_refl 2)
  obtain ⟨tr, hrun⟩ := Prog.steps_outcome Outage.error (pagedServe versionExternals onePagers)
    Rely.none (SdkGateway.listProviderProfiles.expand (pagedClient 2)) twoProfiles
  rw [hserved] at hrun
  exact ((paging_refines hR SdkGateway.listProviderProfiles twoProfiles).2.1 2 tr _ _ hrun).2
    (.ok [⟨"claude", []⟩, ⟨"github", []⟩]) rfl

end Sample
end OpenShell
