import OpenShellOperator.Conditions
import OpenShellOperator.Effects.Session
import OpenShellOperator.Effects.Threads
import OpenShellOperator.Policy.Reconcile
import OpenShellOperator.Sandbox.Spec
import OpenShellOperator.Statuses

/-! # The verdict on a policy

Policies are validated by any number of workers side by side, each of them working with some
version of a policy that it has seen at some time, while users create, edit and delete policies.
What a worker writes may be out of date when it arrives.

`PolicyStore.ever` holds every version that has been stored.  The invariant is `Sound`: a `Ready`
condition is the verdict on the document of a version with the generation it names.  A condition
for the present generation is therefore the verdict on the present document, and every sandbox that
refers to the policy fares by it (`verdict_current`). -/

namespace OpenShell
open Wire Effects

/-! ### Policies on the cluster -/

/-- The policies, and every version of them that there has been. -/
structure PolicyStore where
  policies : KeyMap OpenShellPolicy
  ever : Key → OpenShellPolicy → Prop

/-- The policy says itself where it is stored. -/
def OpenShellPolicy.At (policy : OpenShellPolicy) (key : Key) : Prop :=
  policy.metadata.namespace_ = some key.scope ∧ policy.metadata.name = key.name

/-- The condition that a reader of a status looks at. -/
def OpenShellPolicyStatus.readyCondition? (status : OpenShellPolicyStatus) : Option Condition :=
  status.conditions.find? (·.type_ = Conditions.ready)

namespace PolicyStore

/-- A merge patch of a policy status. -/
def mergeStatus (stored : Option OpenShellPolicyStatus) (new : OpenShellPolicyStatus) :
    OpenShellPolicyStatus :=
  let old := stored.getD {}
  { conditions := Cluster.mergeList old.conditions new.conditions
    observedGeneration := Cluster.mergeField old.observedGeneration new.observedGeneration }

theorem mergePatch_policyStatus (timeText : Time → String) (old new : OpenShellPolicyStatus) :
    (old.toJson timeText).mergePatch (new.toJson timeText) =
      (mergeStatus (some old) new).toJson timeText := by
  refine (Json.mergePatch_record new.field_whole).trans (congrArg Json.obj ?_)
  congr 1
  funext k
  unfold OpenShellPolicyStatus.field mergeStatus
  split <;> simp only [jsonConditions_mergeList, map_mergeField, Option.getD_some, Option.or_none]

/-- The store with other policies; the versions there have been stay on record. -/
def next (w : PolicyStore) (policies : KeyMap OpenShellPolicy) : PolicyStore where
  policies := policies
  ever key policy := w.ever key policy ∨ policies[key]? = some policy

/-- What a served call does. -/
def serve (w : PolicyStore) : (c : PolicyCall) → PolicyStore × Except Error c.Answer
  | .publish _ _ _ => (w, .ok ())
  | .patchStatus ns name status =>
      match w.policies[(⟨ns, name⟩ : Key)]? with
      | none => (w, .error (Cluster.notFound name))
      | some policy =>
          (w.next (w.policies.insert ⟨ns, name⟩
            { policy with status := some (mergeStatus policy.status status) }), .ok ())

/-- Calls may fail, with or without effect. -/
def react (w : PolicyStore) (c : PolicyCall) (f : Fate Outage) : PolicyStore × Except Error c.Answer :=
  respond Outage.error serve w c f

/-- Users create, edit and delete policies.  They do not write a status, and no generation of a
policy stands for two documents. -/
structure Edited (w w' : PolicyStore) : Prop where
  recorded : w' = w.next w'.policies
  placed : ∀ (key : Key) (policy : OpenShellPolicy), w'.policies[key]? = some policy → policy.At key
  status : ∀ (key : Key) (policy : OpenShellPolicy), w'.policies[key]? = some policy →
    policy.status = none ∨ ∃ before, w.policies[key]? = some before ∧ policy.status = before.status
  generation : ∀ (key : Key) (policy version : OpenShellPolicy), w'.policies[key]? = some policy →
    w.ever key version → version.metadata.generation = policy.metadata.generation →
    version.spec = policy.spec

/-- A worker starts with a version it has seen. -/
def Starts (X : Externals) (w : PolicyStore) (p : PolicyOp Action) : Prop :=
  ∃ key policy now, w.ever key policy ∧ p = PolicyController.reconcile X now policy

/-- The store at the beginning: no policy has a status yet. -/
structure Unjudged (policies : KeyMap OpenShellPolicy) : Prop where
  placed : ∀ (key : Key) (policy : OpenShellPolicy), policies[key]? = some policy → policy.At key
  status : ∀ (key : Key) (policy : OpenShellPolicy), policies[key]? = some policy →
    policy.status = none

def start (policies : KeyMap OpenShellPolicy) : PolicyStore where
  policies := policies
  ever key policy := policies[key]? = some policy

/-- Any number of workers. -/
abbrev Runs (X : Externals) {ι : Type} [DecidableEq ι] :
    Conf ι PolicyCall.Answer Error Action PolicyStore →
    Conf ι PolicyCall.Answer Error Action PolicyStore → Prop :=
  Reach (fun _ => react) (fun _ => Starts X) Edited

end PolicyStore

/-! ### Verdicts -/

/-- The condition says how the validation has come out. -/
def Condition.Says (ready : Condition) : Except Error SandboxPolicy → Prop
  | .ok _ => ready.status = "True"
  | .error err =>
      ready.status = "False" ∧ ready.reason = err.reason ∧ ready.message = err.toString

namespace PolicyStore
variable {X : Externals} {w w' : PolicyStore} {key : Key} {ready : Condition}

/-- The condition is the verdict on the version of the generation it names. -/
def Judged (X : Externals) (w : PolicyStore) (key : Key) (ready : Condition) : Prop :=
  ∃ version, w.ever key version ∧ version.metadata.generation = ready.observedGeneration ∧
    ready.Says (toProto X version.spec)

/-- All versions are on record, in their place; a generation has one document; and every verdict
is about a version there has been. -/
structure Sound (X : Externals) (w : PolicyStore) : Prop where
  recorded : ∀ (key : Key) (policy : OpenShellPolicy), w.policies[key]? = some policy →
    w.ever key policy
  placed : ∀ key policy, w.ever key policy → policy.At key
  once : ∀ key version version', w.ever key version → w.ever key version' →
    version.metadata.generation = version'.metadata.generation → version.spec = version'.spec
  judged : ∀ key version status ready, w.ever key version → version.status = some status →
    status.readyCondition? = some ready → w.Judged X key ready

/-- The versions on record stay. -/
def rely : Rely PolicyStore where
  rel w w' := ∀ key policy, w.ever key policy → w'.ever key policy
  refl _ _ _ h := h
  trans h h' key policy hever := h' key policy (h key policy hever)

/-- A status that is written gives a verdict on a version there has been. -/
def Truthful (X : Externals) (w : PolicyStore) : PolicyCall → Prop
  | .publish _ _ _ => True
  | .patchStatus ns name status => ∀ ready, status.readyCondition? = some ready →
      w.Judged X ⟨ns, name⟩ ready

theorem rely_next (w : PolicyStore) (policies : KeyMap OpenShellPolicy) : rely w (w.next policies) :=
  fun _ _ h => .inl h

theorem Judged.mono (hw : rely w w') (h : w.Judged X key ready) : w'.Judged X key ready := by
  obtain ⟨version, hever, hverdict⟩ := h
  exact ⟨version, hw key version hever, hverdict⟩

theorem Unjudged.sound {policies : KeyMap OpenShellPolicy} (h : Unjudged policies) :
    (start policies).Sound X where
  recorded _ _ hstored := hstored
  placed := h.placed
  once key version version' hversion hversion' _ := by
    rw [Option.some.inj (hversion.symm.trans hversion')]
  judged key version status ready hversion hstatus _ := by
    rw [h.status key version hversion] at hstatus
    cases hstatus

/-- Edits keep all verdicts true of the versions they name. -/
theorem Sound.edited (h : w.Sound X) (he : Edited w w') : w'.Sound X := by
  have hever : ∀ key version, w'.ever key version →
      w.ever key version ∨ w'.policies[key]? = some version := by
    intro key version hversion
    rw [he.recorded] at hversion
    exact hversion
  have hkept : rely w w' := by
    rw [he.recorded]
    exact rely_next w _
  refine ⟨fun key policy hstored => ?_, fun key version hversion => ?_, ?_, ?_⟩
  · rw [he.recorded]
    exact .inr hstored
  · rcases hever key version hversion with hold | hnew
    · exact h.placed key version hold
    · exact he.placed key version hnew
  · intro key version version' hversion hversion' hgeneration
    rcases hever key version hversion with hold | hnew
    · rcases hever key version' hversion' with hold' | hnew'
      · exact h.once key version version' hold hold' hgeneration
      · exact he.generation key version' version hnew' hold hgeneration
    · rcases hever key version' hversion' with hold' | hnew'
      · exact (he.generation key version version' hnew hold' hgeneration.symm).symm
      · rw [Option.some.inj (hnew.symm.trans hnew')]
  · intro key version status ready hversion hstatus hready
    rcases hever key version hversion with hold | hnew
    · exact (h.judged key version status ready hold hstatus hready).mono hkept
    · rcases he.status key version hnew with hnone | ⟨before, hbefore, hsame⟩
      · rw [hnone] at hstatus
        cases hstatus
      · exact (h.judged key before status ready (h.recorded key before hbefore)
          (hsame ▸ hstatus) hready).mono hkept

/-- A merged status has the condition of the patch, or the one that was there. -/
theorem readyCondition?_mergeStatus {stored : Option OpenShellPolicyStatus}
    {new : OpenShellPolicyStatus} (h : (mergeStatus stored new).readyCondition? = some ready) :
    new.readyCondition? = some ready ∨
      ∃ old, stored = some old ∧ old.readyCondition? = some ready := by
  unfold OpenShellPolicyStatus.readyCondition? mergeStatus Cluster.mergeList at h
  dsimp only at h
  split_ifs at h with hempty
  · cases stored with
    | none => cases h
    | some old => exact .inr ⟨old, rfl, h⟩
  · exact .inl h

/-- A patch with a true verdict keeps all verdicts true of the versions they name. -/
theorem Sound.patched (h : w.Sound X) {policy : OpenShellPolicy} {status : OpenShellPolicyStatus}
    (hstored : w.policies[key]? = some policy)
    (hnew : ∀ ready, status.readyCondition? = some ready → w.Judged X key ready) :
    (w.next (w.policies.insert key
      { policy with status := some (mergeStatus policy.status status) })).Sound X := by
  set patched : OpenShellPolicy :=
    { policy with status := some (mergeStatus policy.status status) } with hpatched
  have hkept := rely_next w (w.policies.insert key patched)
  have hpolicy := h.recorded _ _ hstored
  -- every version is an old one or the patched policy, whose document is an old one
  have hever : ∀ key' version, (w.next (w.policies.insert key patched)).ever key' version →
      w.ever key' version ∨ key' = key ∧ version = patched := by
    rintro key' version (hold | hinserted)
    · exact .inl hold
    · rw [KeyMap.get?_insert] at hinserted
      split_ifs at hinserted with hkey
      · exact .inr ⟨hkey.symm, (Option.some.inj hinserted).symm⟩
      · exact .inl (h.recorded key' version hinserted)
  refine ⟨fun _ _ hversion => .inr hversion, ?_, ?_, ?_⟩
  · intro key' version hversion
    rcases hever key' version hversion with hold | ⟨rfl, rfl⟩
    · exact h.placed key' version hold
    · exact h.placed key' policy hpolicy
  · intro key' version version' hversion hversion' hgeneration
    rcases hever key' version hversion with hold | ⟨rfl, rfl⟩
    · rcases hever key' version' hversion' with hold' | ⟨rfl, rfl⟩
      · exact h.once key' version version' hold hold' hgeneration
      · exact h.once key' version policy hold hpolicy hgeneration
    · rcases hever key' version' hversion' with hold' | ⟨-, rfl⟩
      · exact h.once key' policy version' hpolicy hold' hgeneration
      · rfl
  · intro key' version status' ready hversion hstatus hready
    rcases hever key' version hversion with hold | ⟨rfl, rfl⟩
    · exact (h.judged key' version status' ready hold hstatus hready).mono hkept
    · cases hstatus
      rcases readyCondition?_mergeStatus hready with hready | ⟨old, hold, hready⟩
      · exact (hnew ready hready).mono hkept
      · exact (h.judged key' policy old ready hpolicy hold hready).mono hkept

/-- A call leaves the store, or patches the status of a policy. -/
theorem react_cases (w : PolicyStore) (c : PolicyCall) (f : Fate Outage) : (w.react c f).1 = w ∨
    ∃ ns name status policy, c = .patchStatus ns name status ∧
      w.policies[(⟨ns, name⟩ : Key)]? = some policy ∧
      (w.react c f).1 = w.next (w.policies.insert ⟨ns, name⟩
        { policy with status := some (mergeStatus policy.status status) }) := by
  rcases respond_world Outage.error PolicyStore.serve w c f with hsame | hserved
  · exact .inl hsame
  · cases c with
    | publish ns name event => exact .inl hserved
    | patchStatus ns name status =>
        cases hstored : w.policies[(⟨ns, name⟩ : Key)]? with
        | none =>
            refine .inl (hserved.trans ?_)
            simp only [PolicyStore.serve, hstored]
        | some policy =>
            refine .inr ⟨ns, name, status, policy, rfl, hstored, hserved.trans ?_⟩
            simp only [PolicyStore.serve, hstored]

theorem rely_react (w : PolicyStore) (c : PolicyCall) (f : Fate Outage) : rely w (w.react c f).1 := by
  rcases w.react_cases c f with hsame | ⟨_, _, _, _, _, _, hpatch⟩
  · rw [hsame]
    exact rely.refl w
  · rw [hpatch]
    exact rely_next w _

/-- A truthful call keeps all verdicts true of the versions they name. -/
theorem Sound.react {c : PolicyCall} (h : w.Sound X) (hc : w.Truthful X c) (f : Fate Outage) :
    (w.react c f).1.Sound X := by
  rcases w.react_cases c f with hsame | ⟨ns, name, status, policy, rfl, hstored, hpatch⟩
  · rw [hsame]
    exact h
  · rw [hpatch]
    exact h.patched hstored hc

end PolicyStore

/-! ### The controller tells the truth -/

namespace PolicyController
variable {X : Externals} {w : PolicyStore}

/-- The condition of a validation says how it has come out, for the generation it looked at. -/
theorem outcomeStatus_says {now : Time} {policy : OpenShellPolicy}
    {outcome : Except Error SandboxPolicy} {ready : Condition}
    (h : (outcomeStatus now policy outcome).readyCondition? = some ready) :
    ready.observedGeneration = policy.metadata.generation ∧ ready.Says outcome := by
  have htype : (readyCondition now policy.metadata.generation outcome).type_ = Conditions.ready := by
    cases outcome <;> rfl
  unfold OpenShellPolicyStatus.readyCondition? outcomeStatus at h
  rw [Conditions.find?_set, if_pos htype, Option.some.injEq] at h
  subst h
  cases outcome with
  | ok policy => exact ⟨rfl, rfl⟩
  | error err => exact ⟨rfl, rfl, rfl, rfl⟩

/-- A validation publishes events and writes its own status. -/
theorem reconcile_calls {ns : String} {policy : OpenShellPolicy} (now : Time)
    (hns : policy.metadata.namespace_ = some ns) : (reconcile X now policy).Calls (fun c =>
      (∃ event, c = .publish ns policy.metadata.name event) ∨
        c = .patchStatus ns policy.metadata.name
          (outcomeStatus now policy (toProto X policy.spec))) := by
  unfold reconcile
  rw [hns]
  refine Prog.Calls.bind ?_ (fun _ => Prog.Calls.bind (Prog.calls_perform (.inr rfl))
    (fun _ => Prog.calls_pure _))
  cases toProto X policy.spec with
  | ok proto => exact Prog.calls_pure _
  | error err =>
      exact Prog.Calls.bind (Prog.Calls.attempt (Prog.calls_perform (.inl ⟨_, rfl⟩)))
        (fun _ => Prog.calls_pure _)

/-- A validation of a version there has been writes nothing but its verdict on it. -/
theorem reconcile_truthful {key : Key} {policy : OpenShellPolicy} (now : Time)
    (hplaced : policy.At key) (hever : w.ever key policy) :
    (reconcile X now policy).Safe PolicyStore.react PolicyStore.rely (PolicyStore.Truthful X)
      (fun _ w' => w'.ever key policy) w := by
  obtain ⟨hns, hname⟩ := hplaced
  refine Prog.Calls.safe_inv (fun _ _ hI hw => hw key policy hI) ?_ (reconcile_calls now hns) hever
  intro w' c hI hc
  refine ⟨?_, fun f => w'.rely_react c f key policy hI⟩
  rcases hc with ⟨event, rfl⟩ | rfl
  · trivial
  · intro ready hready
    obtain ⟨hgeneration, hverdict⟩ := outcomeStatus_says hready
    rw [hname]
    exact ⟨policy, hI, hgeneration.symm, hverdict⟩

end PolicyController

/-- In every run all verdicts are true of the versions they name. -/
theorem PolicyStore.sound_reach {ι : Type} [DecidableEq ι] {X : Externals}
    {policies : KeyMap OpenShellPolicy} (hbegin : PolicyStore.Unjudged policies)
    {s : Conf ι PolicyCall.Answer Error Action PolicyStore}
    (hs : PolicyStore.Runs X (Conf.idle (.start policies)) s) : s.world.Sound X := by
  have hstart : ∀ (i : ι) w p, w.Sound X → PolicyStore.Starts X w p →
      p.Safe PolicyStore.react PolicyStore.rely (PolicyStore.Truthful X) (fun _ _ => True) w := by
    rintro i w p hw ⟨key, version, now, hever, rfl⟩
    exact Prog.Safe.mono (fun _ _ h => h) (fun _ _ _ => trivial)
      (PolicyController.reconcile_truthful now (hw.placed key version hever) hever)
  have hedit : ∀ w w', w.Sound X → PolicyStore.Edited w w' →
      w'.Sound X ∧ ∀ _ : ι, PolicyStore.rely w w' := by
    intro w w' hw he
    refine ⟨hw.edited he, fun _ => ?_⟩
    rw [he.recorded]
    exact w.rely_next _
  exact (Reach.safe hstart (fun i c f w hw hc => ⟨hw.react hc f, fun _ _ => w.rely_react c f⟩) hedit
    hs hbegin.sound).1

/-! ### Sandboxes that refer to a policy -/

namespace SandboxController
variable {X : Externals} {R : Rely World} {w : World}

/-- Resolving a reference to a policy comes out as its validation does, or fails on the way. -/
theorem resolve_reference {key : Key} {policy : OpenShellPolicySpec} {spec : OpenShellSandboxSpec}
    (hsource : selectPolicySource spec = .ok (.ref key.name))
    (hR : ∀ {w w'}, R w w' → w'.cluster.policies = w.cluster.policies)
    (hstored : w.cluster.policies[key]? = some policy) :
    (resolve X key.scope spec).Safe (World.react X) R (fun _ _ => True) (fun r _ =>
      (∃ o : Outage, r = .error o.error) ∨
        r = (toProto X policy).map (fun proto => ⟨some policy, some proto⟩)) w := by
  unfold resolve fetchSource
  rw [hsource]
  show Prog.Safe _ _ _ _ ((kube (.getPolicy key.scope key.name) >>= _) >>= _) w
  refine Prog.Safe.bind (Prog.Safe.bind (Prog.safe_perform
    (c := Call.kube (.getPolicy key.scope key.name)) (fun w₁ hw₁ => ⟨trivial, ?_⟩)))
  intro f w₂ _
  have hread : w₁.cluster.policies[key]? = some policy := by rw [hR hw₁, hstored]
  cases f with
  | refused o => exact fun _ _ _ _ => .inl ⟨o, rfl⟩
  | unheard o => exact fun _ _ _ _ => .inl ⟨o, rfl⟩
  | served =>
      show Prog.Then _ _ _ _ _ (.ok w₁.cluster.policies[key]?) w₂
      rw [hread]
      intro w₃ _
      show Prog.Safe (World.react X) R (fun _ _ => True) _ (Op.lift ((toProto X policy).map some) >>= _) w₃
      cases toProto X policy with
      | ok proto => exact fun _ _ => .inr rfl
      | error err => exact fun _ _ => .inr rfl

end SandboxController

/-! ### The result -/

/-- **A verdict for the present generation is current.**  In every run, whatever the workers have
seen and however late their statuses arrive, a `Ready` condition for the present generation of a
policy says how the validation of its present document comes out.  A sandbox that refers to the
policy fares by it: unless a call fails, its policy resolves if the condition is true, and does not
resolve, for the reason and with the message of the condition, if it is false. -/
theorem verdict_current {ι : Type} [DecidableEq ι] (X : Externals) (policies : KeyMap OpenShellPolicy)
    (hbegin : PolicyStore.Unjudged policies)
    (s : Conf ι PolicyCall.Answer Error Action PolicyStore)
    (hs : PolicyStore.Runs X (Conf.idle (.start policies)) s) (key : Key) (policy : OpenShellPolicy)
    (status : OpenShellPolicyStatus) (ready : Condition)
    (hstored : s.world.policies[key]? = some policy) (hstatus : policy.status = some status)
    (hready : status.readyCondition? = some ready)
    (hcurrent : ready.observedGeneration = policy.metadata.generation) :
    ready.Says (toProto X policy.spec) ∧
    ∀ (R : Rely World) (w w' : World) (spec : OpenShellSandboxSpec) (tr : List (Call × Fate Outage))
      (r : Except Error SandboxController.ResolvedPolicy),
      SandboxController.selectPolicySource spec = .ok (.ref key.name) →
      (∀ {w w'}, R w w' → w'.cluster.policies = w.cluster.policies) →
      w.cluster.policies[key]? = some policy.spec →
      Prog.Steps (World.react X) R (SandboxController.resolve X key.scope spec) w tr (.done r) w' →
      (∃ o : Outage, r = .error o.error) ∨
        (ready.status = "True" ∧ ∃ proto, toProto X policy.spec = .ok proto ∧
          r = .ok ⟨some policy.spec, some proto⟩) ∨
        ready.status = "False" ∧ ∃ err, r = .error err ∧ err.reason = ready.reason ∧
          err.toString = ready.message := by
  have hsound := PolicyStore.sound_reach hbegin hs
  have hverdict : ready.Says (toProto X policy.spec) := by
    obtain ⟨version, hever, hgeneration, hverdict⟩ := hsound.judged key policy status ready
      (hsound.recorded key policy hstored) hstatus hready
    rw [← hsound.once key version policy hever (hsound.recorded key policy hstored)
      (hgeneration.trans hcurrent)]
    exact hverdict
  refine ⟨hverdict, fun R w w' spec tr r hsource hR hpolicy hrun => ?_⟩
  rcases Prog.Safe.steps hrun (SandboxController.resolve_reference hsource hR hpolicy) w' (R.refl w')
    with houtage | rfl
  · exact .inl houtage
  · cases hproto : toProto X policy.spec with
    | ok proto =>
        rw [hproto] at hverdict
        exact .inr (.inl ⟨hverdict, proto, rfl, rfl⟩)
    | error err =>
        rw [hproto] at hverdict
        obtain ⟨hfalse, hreason, hmessage⟩ := hverdict
        exact .inr (.inr ⟨hfalse, err, rfl, hreason.symm, hmessage.symm⟩)

namespace Sample

/-- A document that the parser does not know. -/
def strictPolicy : OpenShellPolicy where
  metadata := { name := "strict", namespace_ := some "team", generation := some 1 }
  spec := { version := 2 }

def strictKey : Key := ⟨"team", "strict"⟩

def strictStore : KeyMap OpenShellPolicy := (∅ : KeyMap OpenShellPolicy).insert strictKey strictPolicy

/-- The status after a validation. -/
def strictStatus : OpenShellPolicyStatus :=
  PolicyController.outcomeStatus 7 strictPolicy (.error (.policyInvalid "unsupported"))

/-- The policy is validated, and its status says that it is invalid: a sandbox that refers to it
does not resolve its policy. -/
theorem strict_rejected : ∃ (s : Conf Unit PolicyCall.Answer Error Action PolicyStore)
    (policy : OpenShellPolicy) (status : OpenShellPolicyStatus) (ready : Condition),
    PolicyStore.Runs versionExternals (Conf.idle (.start strictStore)) s ∧
    s.world.policies[strictKey]? = some policy ∧ policy.status = some status ∧
    status.readyCondition? = some ready ∧ ready.status = "False" ∧
    ∀ (w w' : World) (tr : List (Call × Fate Outage)) (resolved : SandboxController.ResolvedPolicy),
      w.cluster.policies[strictKey]? = some strictPolicy.spec →
      ¬ Prog.Steps (World.react versionExternals) Rely.none
        (SandboxController.resolve versionExternals "team" { policyRef := some "strict" }) w tr
        (.done (.ok resolved)) w' := by
  have hbegin : PolicyStore.Unjudged strictStore := by
    have hkey : ∀ (key : Key) (policy : OpenShellPolicy), strictStore[key]? = some policy →
        strictKey = key ∧ strictPolicy = policy := by
      intro key policy h
      rw [strictStore, KeyMap.get?_insert] at h
      split_ifs at h with hk
      · exact ⟨hk, Option.some.inj h⟩
      · cases (Std.ExtTreeMap.getElem?_empty.symm.trans h)
    refine ⟨fun key policy h => ?_, fun key policy h => ?_⟩
    · obtain ⟨rfl, rfl⟩ := hkey key policy h
      exact ⟨rfl, rfl⟩
    · obtain ⟨-, rfl⟩ := hkey key policy h
      rfl
  have hstored : strictStore[strictKey]? = some strictPolicy :=
    (KeyMap.get?_insert ..).trans (if_pos rfl)
  have hrun : PolicyStore.Runs versionExternals (Conf.idle (.start strictStore)) _ :=
    Reach.job () [Fate.served, Fate.served] rfl ⟨strictKey, strictPolicy, 7, hstored, rfl⟩
  have hpatched : (Prog.exec PolicyStore.react [.served, .served]
      (PolicyController.reconcile versionExternals 7 strictPolicy)
      (.start strictStore)).2.policies[strictKey]? =
        some { strictPolicy with status := some (PolicyStore.mergeStatus none strictStatus) } := by
    show ((PolicyStore.start strictStore).serve
      (.patchStatus "team" "strict" strictStatus)).1.policies[strictKey]? = _
    have hlookup : (PolicyStore.start strictStore).policies[(⟨"team", "strict"⟩ : Key)]? =
        some strictPolicy := hstored
    simp only [PolicyStore.serve, hlookup]
    exact (KeyMap.get?_insert ..).trans (if_pos rfl)
  obtain ⟨-, hsandboxes⟩ := verdict_current versionExternals strictStore hbegin _ hrun strictKey _ _ _
    hpatched rfl rfl rfl
  refine ⟨_, _, _, _, hrun, hpatched, rfl, rfl, rfl, fun w w' tr resolved hpolicy hsteps => ?_⟩
  rcases hsandboxes Rely.none w w' { policyRef := some "strict" } tr _ rfl (fun h => h ▸ rfl) hpolicy
    hsteps with ⟨o, ho⟩ | ⟨htrue, -⟩ | ⟨-, err, herr, -⟩
  · cases ho
  · exact absurd htrue (by decide)
  · cases herr

end Sample
end OpenShell
