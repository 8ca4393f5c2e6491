import OpenShellOperator.Effects.Threads
import OpenShellOperator.Ownership
import OpenShellOperator.Provider.Spec
import OpenShellOperator.Sandbox.Spec

/-! # One resource per gateway object

Sandbox and provider resources of any namespaces are reconciled side by side.  The object of a
resource on the gateway is named by the workspace and the name of the resource; the Kubernetes
namespace is not part of it.

`objects_exclusive_iff`: no reconcile ever changes an object that another resource created, if
and only if no two resources have the same object. -/

namespace OpenShell
open Wire Effects

/-- A version of a sandbox or a provider resource. -/
inductive Resource where
  | sandbox (sandbox : OpenShellSandbox)
  | provider (provider : OpenShellProvider)

namespace Resource

def id : Resource → ResourceId
  | sandbox s => ⟨.sandbox, s.metadata.key⟩
  | provider p => ⟨.provider, p.metadata.key⟩

/-- The object of the resource on the gateway. -/
def object : Resource → Object
  | sandbox s => .sandbox ((workspaceScope s.spec.workspaceOf).key s.metadata.name)
  | provider p =>
      .provider ((workspaceScope (ProviderController.workspaceOf p)).key p.metadata.name)

def apply (X : Externals) (now : Time) : Resource → Op Action
  | sandbox s => SandboxController.apply X now s
  | provider p => ProviderController.apply X now p

def cleanup : Resource → Op Action
  | sandbox s => SandboxController.cleanup s
  | provider p => ProviderController.cleanup p

end Resource

/-! ### Every call of a reconcile is about its own object -/

/-- The call writes no object but that of the resource. -/
def Resource.Own (r : Resource) (c : Call) : Prop := ∀ o, c.target = some o → o = r.object

section own
variable {X : Externals} {i : ResourceId} {R : Rely Attributed} {ns : String} {c : Call}

theorem SandboxController.ApplyCall.own {sandbox : OpenShellSandbox}
    (h : SandboxController.ApplyCall ns sandbox c) : (Resource.sandbox sandbox).Own c := by
  intro o ht
  cases h with
  | upkeep hup => cases hup <;> cases ht <;> rfl
  | create policy =>
      cases ht
      rfl
  | delete =>
      cases ht
      rfl
  | status status => cases ht

theorem ProviderController.ApplyCall.own {provider : OpenShellProvider}
    (h : ProviderController.ApplyCall ns provider c) : (Resource.provider provider).Own c := by
  intro o ht
  cases h with
  | create hname =>
      cases ht
      rw [Gateway.providerKey, hname]
      rfl
  | update hname =>
      cases ht
      rw [Gateway.providerKey, hname]
      rfl
  | refresh credentialKey plan =>
      cases ht
      rfl
  | _ => cases ht

/-- The calls of an apply. -/
def Resource.ApplyCall : Resource → Call → Prop
  | .sandbox s, c => ∃ ns, SandboxController.ApplyCall ns s c
  | .provider p, c => ∃ ns, ProviderController.ApplyCall ns p c

theorem Resource.ApplyCall.own {r : Resource} (h : r.ApplyCall c) : r.Own c := by
  cases r with
  | sandbox s =>
      obtain ⟨ns, h⟩ := h
      exact SandboxController.ApplyCall.own h
  | provider p =>
      obtain ⟨ns, h⟩ := h
      exact ProviderController.ApplyCall.own h

theorem Resource.apply_safe (r : Resource) (now : Time) (a : Attributed) :
    (r.apply X now).Safe (Attributed.react X i) R (fun _ => r.ApplyCall) (fun _ _ => True) a := by
  cases r with
  | sandbox s =>
      cases hns : s.metadata.namespace_ with
      | none =>
          simp only [apply, SandboxController.apply, hns]
          exact fun _ _ => trivial
      | some ns =>
          have hcalls := SandboxController.apply_calls (X := X) now hns
          exact (hcalls.mono (fun _ hc => ⟨ns, hc⟩)).safe a
  | provider p =>
      cases hns : p.metadata.namespace_ with
      | none =>
          simp only [apply, ProviderController.apply, hns]
          exact fun _ _ => trivial
      | some ns =>
          have hcalls := ProviderController.apply_safe (R := R) (Attributed.over_react X i) now hns a
          exact Prog.Safe.mono (fun _ _ hc => ⟨ns, hc⟩) (fun _ _ h => h) hcalls

theorem Resource.cleanup_calls (r : Resource) : r.cleanup.Calls r.Own := by
  cases r with
  | sandbox s =>
      have hdelete : (Resource.sandbox s).Own (SandboxController.deleteCall s) :=
        fun _ ht => (Option.some.inj ht).symm
      refine Prog.Calls.bind (Prog.Calls.bind (Prog.calls_perform hdelete)
        (fun _ => Prog.calls_pure _)) (fun _ => ?_)
      show Prog.Calls _ (ite _ _ _)
      split_ifs
      · refine Prog.Calls.bind ?_ (fun _ => Prog.calls_pure _)
        unfold SandboxController.deleteProvisionedVolumes
        cases s.metadata.namespace_ with
        | none => exact Prog.calls_fail _
        | some ns => exact Prog.calls_perform (fun _ ht => by cases ht)
      · exact Prog.calls_pure _
  | provider p =>
      have hdelete : (Resource.provider p).Own (ProviderController.deleteCall p) :=
        fun _ ht => (Option.some.inj ht).symm
      exact Prog.Calls.bind (Prog.Calls.bind (Prog.calls_perform hdelete)
        (fun _ => Prog.calls_pure _)) (fun _ => Prog.calls_pure _)

end own

/-! ### The system -/

section system
variable (X : Externals) (resources : Resource → Prop)

/-- A reconcile of a resource: the apply or the cleanup of one of its versions. -/
def ReconcileOf (i : ResourceId) (_ : Attributed) (p : Op Action) : Prop :=
  ∃ r, resources r ∧ r.id = i ∧ ((∃ now, p = r.apply X now) ∨ p = r.cleanup)

/-- Others may do anything, but what they create is not created by a resource. -/
def Unattributed (a a' : Attributed) : Prop :=
  ∀ o j, a'.creator o = some j → a.creator o = some j

/-- The resources run side by side, one reconcile of each at a time. -/
abbrev ReconcileReach : Conf ResourceId Call.Answer Error Action Attributed →
    Conf ResourceId Call.Answer Error Action Attributed → Prop :=
  Reach (Attributed.react X) (ReconcileOf X resources) Unattributed

/-- Every object was created by a resource whose object it is. -/
def Placed (a : Attributed) : Prop :=
  ∀ o j, a.creator o = some j → ∃ r, resources r ∧ r.id = j ∧ r.object = o

/-- The next call of each reconcile, however it fares, leaves the objects that other resources
created as they are. -/
def Exclusive (s : Conf ResourceId Call.Answer Error Action Attributed) : Prop :=
  ∀ i c k, s.thread i = some (.call c k) → ∀ o j, s.world.creator o = some j → j ≠ i →
    ∀ f, s.world.world.gateway.Same (World.react X s.world.world c f).1.gateway o

/-- No two resources have the same object. -/
def ObjectsApart : Prop :=
  ∀ r r', resources r → resources r' → r.object = r'.object → r.id = r'.id

variable {X resources} {i : ResourceId} {a : Attributed} {c : Call}

/-- The call is about the object of the resource `i`. -/
def OwnCall (resources : Resource → Prop) (i : ResourceId) (c : Call) : Prop :=
  ∃ r, resources r ∧ r.id = i ∧ r.Own c

/-- What appears during a reconcile is the object of its resource. -/
theorem Placed.react (h : Placed resources a) (hc : OwnCall resources i c) (f : Fate Outage) :
    Placed resources (Attributed.react X i a c f).1 := by
  intro o j hcreator
  obtain ⟨r, hr, hid, hown⟩ := hc
  rcases Attributed.creator_react hcreator with ⟨hold, -⟩ | ⟨rfl, htarget, -⟩
  · exact h o j hold
  · exact ⟨r, hr, hid, (hown o htarget).symm⟩

/-- In every run the objects stay where their creators put them, and every reconcile is about
its own object. -/
theorem placed_reach (h : Placed resources a)
    {s : Conf ResourceId Call.Answer Error Action Attributed}
    (hs : ReconcileReach X resources (Conf.idle a) s) :
    Placed resources s.world ∧ ∀ i p, s.thread i = some p →
      p.Safe (Attributed.react X i) Rely.any (fun _ => OwnCall resources i) (fun _ _ => True)
        s.world := by
  have hstart : ∀ i a p, Placed resources a → ReconcileOf X resources i a p →
      p.Safe (Attributed.react X i) Rely.any (fun _ => OwnCall resources i) (fun _ _ => True) a := by
    rintro i a _ _ ⟨r, hr, hid, ⟨now, rfl⟩ | rfl⟩
    · exact Prog.Safe.mono (fun _ _ hc => ⟨r, hr, hid, hc.own⟩) (fun _ _ h => h)
        (r.apply_safe now a)
    · exact (r.cleanup_calls.mono (fun _ hc => ⟨r, hr, hid, hc⟩)).safe a
  have hcall : ∀ i c f a, Placed resources a → OwnCall resources i c →
      Placed resources (Attributed.react X i a c f).1 ∧
        ∀ j, j ≠ i → Rely.any a (Attributed.react X i a c f).1 :=
    fun _ _ f _ ha hc => ⟨ha.react hc f, fun _ _ => trivial⟩
  have henv : ∀ a a', Placed resources a → Unattributed a a' →
      Placed resources a' ∧ ∀ _ : ResourceId, Rely.any a a' :=
    fun a a' ha hmove => ⟨fun o j hj => ha o j (hmove o j hj), fun _ => trivial⟩
  exact Reach.safe hstart hcall henv hs h

/-- A gateway that has the object of the resource and nothing else. -/
def Resource.stored : Resource → Gateway
  | .sandbox s =>
      { sandboxes := (∅ : KeyMap GatewaySandbox).insert
          ((workspaceScope s.spec.workspaceOf).key s.metadata.name)
          (Gateway.newSandbox "sb-0" (createSandboxRequest
            (buildSandboxCreate s.metadata.name s.spec none))) }
  | .provider p =>
      { providers := (∅ : KeyMap GatewayProvider).insert
          ((workspaceScope (ProviderController.workspaceOf p)).key p.metadata.name)
          ⟨"pr-0", 1, p.spec.providerType, ∅, ∅, ∅⟩ }

theorem deleteSandbox_changes {g : Gateway} {key : Key} {s : GatewaySandbox}
    (h : g.sandboxes[key]? = some s) (hs : s.deleting = false) :
    ¬ g.Same (g.deleteSandbox key).1 (.sandbox key) := by
  intro hsame
  have hafter : (g.deleteSandbox key).1.sandboxes[key]? = some { s with deleting := true } := by
    simp only [Gateway.deleteSandbox, h, KeyMap.get?_insert, if_true]
  have heq : some { s with deleting := true } = some s := hafter.symm.trans (hsame.trans h)
  have hdeleting : true = s.deleting := congrArg GatewaySandbox.deleting (Option.some.inj heq)
  rw [hs] at hdeleting
  cases hdeleting

theorem deleteProvider_changes {g : Gateway} {key : Key} {p : GatewayProvider}
    (h : g.providers[key]? = some p) : ¬ g.Same (g.deleteProvider key).1 (.provider key) := by
  intro hsame
  have hafter : (g.deleteProvider key).1.providers[key]? = none := by
    simp only [Gateway.deleteProvider, h, KeyMap.get?_erase, if_true]
  cases hafter.symm.trans (hsame.trans h)

/-- The cleanup of a resource begins by deleting its object, whoever created it. -/
theorem cleanup_changes {r r' : Resource} (h : r.object = r'.object) (k : Cluster) :
    ∃ c next, r'.cleanup = .call c next ∧
      ¬ r.stored.Same (World.react X ⟨r.stored, k⟩ c .served).1.gateway r.object := by
  cases r with
  | sandbox s =>
      cases r' with
      | provider p => cases h
      | sandbox s' =>
          have hkey := Object.sandbox.inj h
          obtain ⟨stored, hstored, hlive⟩ : ∃ stored, (Resource.sandbox s).stored.sandboxes[
              (workspaceScope s'.spec.workspaceOf).key s'.metadata.name]? = some stored ∧
                stored.deleting = false :=
            ⟨_, (KeyMap.get?_insert ..).trans (if_pos hkey), rfl⟩
          refine ⟨SandboxController.deleteCall s', _, rfl, ?_⟩
          rw [h]
          exact deleteSandbox_changes hstored hlive
  | provider p =>
      cases r' with
      | sandbox s => cases h
      | provider p' =>
          have hkey := Object.provider.inj h
          obtain ⟨stored, hstored⟩ : ∃ stored, (Resource.provider p).stored.providers[
              (workspaceScope (ProviderController.workspaceOf p')).key p'.metadata.name]? =
                some stored :=
            ⟨_, (KeyMap.get?_insert ..).trans (if_pos hkey)⟩
          refine ⟨ProviderController.deleteCall p', _, rfl, ?_⟩
          rw [h]
          exact deleteProvider_changes hstored

theorem cleanup_starts {r : Resource} (hr : resources r) (a : Attributed) : ∃ s,
    ReconcileReach X resources (Conf.idle a) s ∧ s.world = a ∧ s.thread r.id = some r.cleanup := by
  have hstart : ReconcileOf X resources r.id a r.cleanup := ⟨r, hr, rfl, .inr rfl⟩
  obtain ⟨s, hreach, hthread, hworld⟩ : ∃ s, ReconcileReach X resources (Conf.idle a) s ∧ _ ∧ _ :=
    Reach.launch r.id [] rfl hstart
  exact ⟨s, hreach, hworld, hthread⟩

/-- **One resource per gateway object.**  In every run, from any world in which objects are
where their creators put them, no reconcile changes an object that another resource created,
if and only if no two resources have the same object. -/
theorem objects_exclusive_iff (X : Externals) (resources : Resource → Prop) :
    (∀ a, Placed resources a → ∀ s, ReconcileReach X resources (Conf.idle a) s → Exclusive X s) ↔
      ObjectsApart resources := by
  constructor
  · intro hexclusive r r' hr hr' hobject
    by_contra hid
    obtain ⟨c, next, hcleanup, hchanges⟩ := cleanup_changes (X := X) hobject {}
    let a : Attributed := ⟨⟨r.stored, {}⟩, fun o => if o = r.object then some r.id else none⟩
    have hplaced : Placed resources a := by
      intro o j hj
      have hj' : (if o = r.object then some r.id else none) = some j := hj
      split_ifs at hj' with ho
      exact ⟨r, hr, Option.some.inj hj', ho.symm⟩
    obtain ⟨s, hreach, hworld, hthread⟩ := cleanup_starts (X := X) hr' a
    rw [hcleanup] at hthread
    have hcreator : s.world.creator r.object = some r.id := by
      rw [hworld]
      exact if_pos rfl
    have hsame := hexclusive a hplaced s hreach r'.id c next hthread r.object r.id hcreator hid .served
    rw [hworld] at hsame
    exact hchanges hsame
  · intro hapart a ha s hs i c k hthread o j hcreator hne f
    obtain ⟨hplaced, hsafe⟩ := placed_reach ha hs
    obtain ⟨⟨r, hr, hid, hown⟩, -⟩ := hsafe i _ hthread s.world trivial
    obtain ⟨r', hr', hid', hobject⟩ := hplaced o j hcreator
    refine World.react_same X s.world.world (fun htarget => hne ?_) f
    have hsame := hapart r' r hr' hr (hobject.trans (hown o htarget))
    rw [← hid', hsame, hid]

end system

namespace Sample

/-- The sandbox `box` in a namespace. -/
def boxIn (ns : String) : OpenShellSandbox where
  metadata := { name := "box", namespace_ := some ns }
  spec := {}

/-- Sandboxes of one name in two namespaces. -/
def namesakes (r : Resource) : Prop := r = .sandbox (boxIn "blue") ∨ r = .sandbox (boxIn "green")

def blue : ResourceId := ⟨.sandbox, ⟨"blue", "box"⟩⟩

def green : ResourceId := ⟨.sandbox, ⟨"green", "box"⟩⟩

/-- One of them has been applied. -/
def blueApplied : Attributed :=
  (Prog.exec (Attributed.react versionExternals blue) (List.replicate 3 .served)
    (SandboxController.apply versionExternals 0 (boxIn "blue")) (.unclaimed {})).2

/-- The cleanup of the one deletes what the other created. -/
theorem namesake_deleted : ∃ s,
    ReconcileReach versionExternals namesakes (Conf.idle (.unclaimed {})) s ∧
      ¬ Exclusive versionExternals s := by
  have hblue : ReconcileOf versionExternals namesakes blue (.unclaimed {})
      (SandboxController.apply versionExternals 0 (boxIn "blue")) :=
    ⟨_, .inl rfl, rfl, .inl ⟨0, rfl⟩⟩
  have hfirst : ReconcileReach versionExternals namesakes (Conf.idle (.unclaimed {}))
      (Conf.idle blueApplied) :=
    Reach.job blue (List.replicate 3 Fate.served) rfl hblue
  have hgreen : namesakes (.sandbox (boxIn "green")) := .inr rfl
  obtain ⟨s, hsecond, hworld, hthread⟩ := cleanup_starts (X := versionExternals) hgreen blueApplied
  have hcreator : blueApplied.creator (.sandbox ⟨"default", "box"⟩) = some blue := by
    decide +kernel
  have hlive : blueApplied.world.gateway.sandboxes[(⟨"default", "box"⟩ : Key)]?.map (·.deleting) =
      some false := by decide +kernel
  obtain ⟨stored, hstored, hdeleting⟩ := Option.map_eq_some_iff.mp hlive
  refine ⟨s, hfirst.trans hsecond, fun hexclusive => ?_⟩
  have hsame := hexclusive green (SandboxController.deleteCall (boxIn "green")) _ hthread
    (.sandbox ⟨"default", "box"⟩) blue (hworld ▸ hcreator) (by decide) .served
  rw [hworld] at hsame
  exact deleteSandbox_changes hstored hdeleting hsame

end Sample
end OpenShell
