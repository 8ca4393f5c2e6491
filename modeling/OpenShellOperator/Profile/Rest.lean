import OpenShellOperator.Profile.Reconcile
import OpenShellOperator.World
import Mathlib.Logic.Function.Iterate

/-! # Provider profiles never come to rest

The gateway keeps profiles by id, each with a version that it raises on every accepted update;
an update under a version that is not the stored one is refused.  The controller applies a
resource again whenever the stored resource changes, its status included.

An apply that returned Ok leaves the profile stored and its version mirrored in the status
(`Synced`).  From there the next apply finds the stored version and updates the profile under
it, whether or not anything differs; the version rises, the mirrored version follows, and the
stored resource has changed once more. -/

namespace OpenShell
open Wire Effects

/-! ### The gateway's profiles -/

/-- The profiles of the gateway, the resource that is reconciled, and the cluster's providers. -/
structure ProfileWorld where
  profiles : StrMap ProviderProfile := ∅
  resource : OpenShellProviderProfile
  providers : List OpenShellProvider := []

namespace ProfileWorld

/-- A merge patch of a status: what it does not set stays. -/
def mergeStatus (stored : Option OpenShellProviderProfileStatus)
    (new : OpenShellProviderProfileStatus) : OpenShellProviderProfileStatus :=
  let old := stored.getD {}
  { conditions := Cluster.mergeList old.conditions new.conditions
    observedGeneration := Cluster.mergeField old.observedGeneration new.observedGeneration
    resourceVersion := Cluster.mergeField old.resourceVersion new.resourceVersion }

section serve
variable (check : String → Json → List ProfileDiagnostic) (w : ProfileWorld)

/-- Update a profile under the version it is stored with. -/
def update (request : UpdateProfileRequest) : ProfileWorld × Except Error UpdateProfileResponse :=
  match w.profiles[request.id]? with
  | none => (w, .error (rpcError .notFound "profile not found"))
  | some stored =>
      if stored.resourceVersion ≠ request.expectedResourceVersion then
        (w, .error (rpcError .aborted "resource version is stale"))
      else
        let diagnostics := check request.profile.id request.profile.body
        if diagnostics.isEmpty then
          let updated : ProviderProfile :=
            ⟨request.profile.id, stored.resourceVersion + 1, request.profile.body⟩
          ({ w with profiles := w.profiles.insert request.id updated },
            .ok ⟨true, some updated, []⟩)
        else (w, .ok ⟨false, none, diagnostics⟩)

/-- Import a profile that is not there, or only built in. -/
def importNew (profile : ProviderProfile) : ProfileWorld × Except Error ImportProfileResponse :=
  if (w.profiles[profile.id]?).any (fun stored => 0 < stored.resourceVersion) then
    (w, .error (rpcError .alreadyExists "profile already exists"))
  else
    let diagnostics := check profile.id profile.body
    if diagnostics.isEmpty then
      let stored : ProviderProfile := ⟨profile.id, 1, profile.body⟩
      ({ w with profiles := w.profiles.insert profile.id stored }, .ok ⟨true, [stored], []⟩)
    else (w, .ok ⟨false, [], diagnostics⟩)

/-- What a served call does; `check` is the gateway's validation of a profile. -/
def serve : (c : ProfileCall) → ProfileWorld × Except Error c.Answer
  | .getProviderProfile id =>
      (w, match w.profiles[id]? with
        | some stored => .ok (some stored)
        | none => .error (rpcError .notFound "profile not found"))
  | .updateProviderProfiles request => w.update check request
  | .importProviderProfiles profile _ => w.importNew check profile
  | .deleteProviderProfile id =>
      if w.profiles.contains id then
        ({ w with profiles := w.profiles.erase id }, .ok (.other 1))
      else (w, .ok .alreadyAbsent)
  | .listProviders => (w, .ok w.providers)
  | .patchStatus name status =>
      if name = w.resource.metadata.name then
        ({ w with resource := { w.resource with
            status := some (mergeStatus w.resource.status status) } }, .ok ())
      else (w, .error (Cluster.notFound name))
  | .publish _ _ => (w, .ok ())

end serve

/-- Calls may fail, with or without effect. -/
def react (check : String → Json → List ProfileDiagnostic) :
    ProfileWorld → (c : ProfileCall) → Fate Outage → ProfileWorld × Except Error c.Answer :=
  respond Outage.error (serve check)

end ProfileWorld

namespace ProfileController

section specs
variable {check : String → Json → List ProfileDiagnostic} {w : ProfileWorld}

/-- The lookup reads the version of a profile that is stored and not built in. -/
theorem existingVersion_yields (id : String) {Q : Option ℕ → ProfileWorld → Prop}
    (h : Q (((w.profiles[id]?).map (·.resourceVersion)).filter (fun version => 0 < version)) w) :
    (existingVersion id).Yields (ProfileWorld.react check) Rely.none w Q := by
  refine Prog.Yields.bind (yields_attempt ?_)
  rintro _ rfl
  constructor
  · rintro _ rfl
    simp only [ProfileWorld.serve]
    cases hs : w.profiles[id]? with
    | some stored =>
        refine Prog.yields_pure ?_
        rintro _ rfl
        simpa [hs] using h
    | none =>
        refine Prog.yields_pure ?_
        rintro _ rfl
        simpa [hs] using h
  · intro e w'' _
    simp only [(Outage.error_hasCode e).1, Bool.false_eq_true, if_false]
    exact Prog.yields_fail _

/-- An update that returns was accepted: the stored version was the expected one and has been
raised. -/
theorem updateProfile_yields (profile : ProviderProfile) (version : ℕ) {Q : ℕ → ProfileWorld → Prop}
    (h : ∀ stored, w.profiles[profile.id]? = some stored → stored.resourceVersion = version →
      check profile.id profile.body = [] → Q (version + 1)
        { w with profiles := w.profiles.insert profile.id ⟨profile.id, version + 1, profile.body⟩ }) :
    (updateProfile profile version).Yields (ProfileWorld.react check) Rely.none w Q := by
  refine Prog.Yields.bind (yields_perform ?_)
  rintro _ rfl response hresponse _ rfl
  simp only [ProfileWorld.serve, ProfileWorld.update] at hresponse ⊢
  split at hresponse
  · cases hresponse
  · rename_i stored hstored
    split_ifs at hresponse with hversion hcheck
    · cases hresponse
      rw [not_not] at hversion
      simp only [hversion, hcheck, ne_eq, not_true_eq_false, if_false, if_true, Option.map_some,
        Option.getD_some]
      refine Prog.yields_pure ?_
      rintro _ rfl
      exact h stored hstored hversion (List.isEmpty_iff.mp hcheck)
    · cases hresponse
      exact Prog.yields_fail _

/-- An import that returns was accepted. -/
theorem importProfile_yields (profile : ProviderProfile) {Q : ℕ → ProfileWorld → Prop}
    (h : check profile.id profile.body = [] → Q 1
      { w with profiles := w.profiles.insert profile.id ⟨profile.id, 1, profile.body⟩ }) :
    (importProfile profile).Yields (ProfileWorld.react check) Rely.none w Q := by
  refine Prog.Yields.bind (yields_perform ?_)
  rintro _ rfl response hresponse _ rfl
  simp only [ProfileWorld.serve, ProfileWorld.importNew] at hresponse ⊢
  split_ifs at hresponse with hthere hcheck
  · cases hresponse
    simp only [hthere, hcheck, if_true, List.find?_cons, beq_self_eq_true, Option.map_some,
      Option.getD_some]
    refine Prog.yields_pure ?_
    rintro _ rfl
    exact h (List.isEmpty_iff.mp hcheck)
  · cases hresponse
    exact Prog.yields_fail _

/-- An upsert that returns raises the version of a managed profile, and stores a new one with
version one; the answer is the stored version. -/
theorem upsertProviderProfile_yields (profile : ProviderProfile) {Q : ℕ → ProfileWorld → Prop}
    (h : ∀ version, 0 < version → check profile.id profile.body = [] →
      (∀ stored, w.profiles[profile.id]? = some stored → 0 < stored.resourceVersion →
        version = stored.resourceVersion + 1) →
      Q version
        { w with profiles := w.profiles.insert profile.id ⟨profile.id, version, profile.body⟩ }) :
    (upsertProviderProfile profile).Yields (ProfileWorld.react check) Rely.none w Q := by
  refine Prog.Yields.bind (existingVersion_yields profile.id ?_)
  cases hs : w.profiles[profile.id]? with
  | none =>
      refine importProfile_yields profile (fun hcheck => h 1 Nat.one_pos hcheck ?_)
      intro stored hstored
      rw [hs] at hstored
      cases hstored
  | some stored =>
      by_cases hpos : 0 < stored.resourceVersion
      · simp only [Option.map_some, Option.filter_some, hpos, decide_true, if_true]
        refine updateProfile_yields profile _ (fun _ _ _ hcheck => h _ (Nat.succ_pos _) hcheck ?_)
        intro stored' hstored' _
        rw [hs, Option.some.injEq] at hstored'
        rw [hstored']
      · simp only [Option.map_some, Option.filter_some, hpos, decide_false, Bool.false_eq_true,
          if_false]
        refine importProfile_yields profile (fun hcheck => h 1 Nat.one_pos hcheck ?_)
        intro stored' hstored' hpos'
        rw [hs, Option.some.injEq] at hstored'
        rw [hstored'] at hpos
        exact absurd hpos' hpos

end specs

/-! ### After an apply -/

section rest
variable (V : ProfileParser) (check : String → Json → List ProfileDiagnostic)

/-- The profile of the resource is stored on the gateway with this version, the gateway accepts
it, and the status mirrors the version. -/
structure SyncedAt (w : ProfileWorld) (proto : ProviderProfile) (version : ℕ) : Prop where
  converted : profileToProto V w.resource.metadata.name w.resource.spec = .ok proto
  accepted : check proto.id proto.body = []
  pos : 0 < version
  stored : w.profiles[proto.id]? = some ⟨proto.id, version, proto.body⟩
  mirrored : w.resource.status.bind (·.resourceVersion) = some version

/-- The resource but for its status. -/
def sameSpec (w w' : ProfileWorld) : Prop :=
  w'.resource.metadata = w.resource.metadata ∧ w'.resource.spec = w.resource.spec

variable {V check} {w w' : ProfileWorld} {now : Time} {a : Action}
  {tr : List (ProfileCall × Fate Outage)}

theorem sync_yields : (sync V w.resource).Yields (ProfileWorld.react check) Rely.none w
    (fun version w' => ∃ proto, profileToProto V w.resource.metadata.name w.resource.spec = .ok proto ∧
      check proto.id proto.body = [] ∧ 0 < version ∧
      (∀ stored, w.profiles[proto.id]? = some stored → 0 < stored.resourceVersion →
        version = stored.resourceVersion + 1) ∧
      w' = { w with profiles := w.profiles.insert proto.id ⟨proto.id, version, proto.body⟩ }) := by
  unfold sync
  cases hproto : profileToProto V w.resource.metadata.name w.resource.spec with
  | error err => exact Prog.yields_fail err
  | ok proto =>
      refine upsertProviderProfile_yields proto (fun version hpos hcheck hraised => ?_)
      exact ⟨proto, rfl, hcheck, hpos, hraised, rfl⟩

/-- **An apply that returns Ok** leaves the profile synced, under a version one above the one
it was stored with, if it was. -/
theorem apply_yields : (apply V now w.resource).Yields (ProfileWorld.react check) Rely.none w
    (fun _ w' => sameSpec w w' ∧ ∃ proto version, SyncedAt V check w' proto version ∧
      ∀ stored, w.profiles[proto.id]? = some stored → 0 < stored.resourceVersion →
        version = stored.resourceVersion + 1) := by
  refine Prog.Yields.bind (sync_yields.attempt.mono ?_)
  intro outcome w' hout
  cases outcome with
  | error err =>
      -- the failure branch returns the error
      refine Prog.Yields.bind ((Prog.yields_trivial _ _).mono (fun _ _ _ => ?_))
      exact Prog.Yields.bind ((Prog.yields_trivial _ _).mono (fun _ _ _ => Prog.yields_fail err))
  | ok version =>
      obtain ⟨proto, hproto, hcheck, hpos, hraised, rfl⟩ := hout version rfl
      refine Prog.Yields.bind (yields_perform ?_)
      rintro _ rfl answer _ _ rfl
      refine Prog.yields_pure ?_
      rintro _ rfl
      simp only [ProfileWorld.serve, if_true]
      refine ⟨⟨rfl, rfl⟩, proto, version, ?_, hraised⟩
      exact
        { converted := hproto
          accepted := hcheck
          pos := hpos
          stored := Std.ExtTreeMap.getElem?_insert_self
          mirrored := rfl }

theorem outcome_send (c : ProfileCall) :
    (send c).outcome (ProfileWorld.serve check) w = w.serve check c := rfl

/-- With every call served, a managed profile the gateway accepts is updated. -/
theorem upsertProviderProfile_outcome {proto : ProviderProfile} {version : ℕ}
    (hcheck : check proto.id proto.body = []) (hpos : 0 < version)
    (hstored : w.profiles[proto.id]? = some ⟨proto.id, version, proto.body⟩) :
    ((upsertProviderProfile proto).outcome (ProfileWorld.serve check) w).2 = .ok (version + 1) := by
  have hexisting : (existingVersion proto.id).outcome (ProfileWorld.serve check) w =
      (w, .ok (some version)) := by
    unfold existingVersion
    rw [Prog.outcome_bind, Prog.outcome_attempt, outcome_send]
    simp only [ProfileWorld.serve, hstored]
    simp [Prog.outcome, pure, hpos]
  have hupdate : ((updateProfile proto version).outcome (ProfileWorld.serve check) w).2 =
      .ok (version + 1) := by
    unfold updateProfile
    rw [Prog.outcome_bind, outcome_send]
    simp only [ProfileWorld.serve, ProfileWorld.update, hstored, hcheck, ne_eq, not_true_eq_false,
      if_false]
    rfl
  unfold upsertProviderProfile
  rw [Prog.outcome_bind, hexisting]
  exact hupdate

/-- With every call served, the apply of a synced resource returns Ok. -/
theorem apply_outcome {proto : ProviderProfile} {version : ℕ} (h : SyncedAt V check w proto version) :
    ((apply V now w.resource).outcome (ProfileWorld.serve check) w).2 =
      .ok (.requeue requeueInterval) := by
  have hsync : ((sync V w.resource).outcome (ProfileWorld.serve check) w).2 = .ok (version + 1) := by
    unfold sync
    rw [h.converted]
    exact upsertProviderProfile_outcome h.accepted h.pos h.stored
  have hname : ((sync V w.resource).outcome (ProfileWorld.serve check) w).1.resource.metadata.name =
      w.resource.metadata.name := by
    obtain ⟨tr, hsteps⟩ := Prog.steps_outcome Outage.error (ProfileWorld.serve check) Rely.none
      (sync V w.resource) w
    rw [hsync] at hsteps
    obtain ⟨_, _, _, _, _, hw⟩ := sync_yields.steps hsteps
    rw [hw]
  unfold apply
  rw [Prog.outcome_bind, Prog.outcome_attempt, hsync]
  simp only [record]
  rw [Prog.outcome_bind, outcome_send]
  simp only [ProfileWorld.serve, hname, if_true]
  rfl

/-! ### Every further apply moves on -/

/-- A synced resource that is applied again has a higher version, stored and mirrored. -/
theorem SyncedAt.next {proto : ProviderProfile} {version : ℕ} (h : SyncedAt V check w proto version)
    (hs : Prog.Steps (ProfileWorld.react check) Rely.none (apply V now w.resource) w tr
      (.done (.ok a)) w') : SyncedAt V check w' proto (version + 1) := by
  obtain ⟨⟨hmeta, hspec⟩, proto', version', hsync, hraised⟩ := apply_yields.steps hs
  have hproto := hsync.converted
  rw [hmeta, hspec, h.converted, Except.ok.injEq] at hproto
  subst hproto
  rw [hraised _ h.stored h.pos] at hsync
  exact hsync

theorem SyncedAt.changed {proto : ProviderProfile} {version : ℕ}
    (h : SyncedAt V check w proto version) (h' : SyncedAt V check w' proto (version + 1)) :
    w'.profiles ≠ w.profiles ∧ w'.resource.status ≠ w.resource.status := by
  constructor
  · intro heq
    have hstored := h'.stored
    rw [heq, h.stored] at hstored
    simp at hstored
  · intro heq
    have hmirrored := h'.mirrored
    rw [heq, h.mirrored] at hmirrored
    simp at hmirrored

variable (V check)

/-- No further apply changes the stored profiles or the status. -/
def Rests (w : ProfileWorld) : Prop :=
  ∀ now tr r w', Prog.Steps (ProfileWorld.react check) Rely.none (apply V now w.resource) w tr
    (.done r) w' → w'.profiles = w.profiles ∧ w'.resource.status = w.resource.status

/-- An apply that returns Ok and changes the stored resource, so that the controller applies it
again. -/
def Triggers (w w' : ProfileWorld) : Prop :=
  ∃ now tr a, Prog.Steps (ProfileWorld.react check) Rely.none (apply V now w.resource) w tr
    (.done (.ok a)) w' ∧ w'.resource.status ≠ w.resource.status

/-- The world after an undisturbed apply. -/
def applied (w : ProfileWorld) : ProfileWorld :=
  ((apply V 0 w.resource).outcome (ProfileWorld.serve check) w).1

variable {V check}

theorem SyncedAt.steps_applied {proto : ProviderProfile} {version : ℕ}
    (h : SyncedAt V check w proto version) :
    ∃ tr, Prog.Steps (ProfileWorld.react check) Rely.none (apply V 0 w.resource) w tr
      (.done (.ok (.requeue requeueInterval))) (applied V check w) := by
  obtain ⟨tr, hsteps⟩ := Prog.steps_outcome Outage.error (ProfileWorld.serve check) Rely.none
    (apply V 0 w.resource) w
  rw [apply_outcome h] at hsteps
  exact ⟨tr, hsteps⟩

theorem SyncedAt.triggers {proto : ProviderProfile} {version : ℕ}
    (h : SyncedAt V check w proto version) :
    SyncedAt V check (applied V check w) proto (version + 1) ∧
      Triggers V check w (applied V check w) := by
  obtain ⟨tr, hsteps⟩ := h.steps_applied
  have hnext := h.next hsteps
  exact ⟨hnext, 0, tr, _, hsteps, (h.changed hnext).2⟩

/-- Applies can follow each other forever, each triggered by the one before. -/
theorem SyncedAt.chain {proto : ProviderProfile} {version : ℕ}
    (h : SyncedAt V check w proto version) :
    ∃ f : ℕ → ProfileWorld, f 0 = w ∧ ∀ i, Triggers V check (f i) (f (i + 1)) := by
  refine ⟨fun i => (applied V check)^[i] w, rfl, fun i => ?_⟩
  have hi : SyncedAt V check ((applied V check)^[i] w) proto (version + i) := by
    induction i with
    | zero => exact h
    | succ i ih =>
        rw [Function.iterate_succ_apply']
        exact ih.triggers.1
  simp only [Function.iterate_succ_apply']
  exact hi.triggers.2

theorem SyncedAt.not_rests {proto : ProviderProfile} {version : ℕ}
    (h : SyncedAt V check w proto version) : ¬ Rests V check w := by
  intro hrests
  obtain ⟨tr, hsteps⟩ := h.steps_applied
  exact (h.changed (h.next hsteps)).1 (hrests 0 tr _ _ hsteps).1

/-- **The reconcile never comes to rest.**  After an apply that returned Ok the resource is not
at rest: every further apply that returns Ok changes both the stored profile and the status,
and the applies so triggered can go on forever. -/
theorem apply_never_rests {w₀ : ProfileWorld}
    (h : Prog.Steps (ProfileWorld.react check) Rely.none (apply V now w₀.resource) w₀ tr
      (.done (.ok a)) w) :
    ¬ Rests V check w ∧
    (∀ now' tr' a' w', Prog.Steps (ProfileWorld.react check) Rely.none (apply V now' w.resource) w
      tr' (.done (.ok a')) w' → w'.profiles ≠ w.profiles ∧ w'.resource.status ≠ w.resource.status) ∧
    ∃ f : ℕ → ProfileWorld, f 0 = w ∧ ∀ i, Triggers V check (f i) (f (i + 1)) := by
  obtain ⟨_, proto, version, hsync, _⟩ := apply_yields.steps h
  refine ⟨hsync.not_rests, ?_, hsync.chain⟩
  intro now' tr' a' w' hs
  exact hsync.changed (hsync.next hs)

end rest
end ProfileController

namespace Sample
open ProfileController

/-- A parser that takes every document. -/
def anyProfile : ProfileParser where
  Parsed := Json
  parseProfileJson := .ok
  validateProfileSet _ := []
  toProto document := ⟨match document.get? "id" with | some (.str id) => id | _ => "", 0, document⟩

/-- A profile resource that has not been imported. -/
def widget : ProfileWorld where
  resource :=
    { metadata := { name := "widget", generation := some 1 }, spec := { displayName := "Widget" } }

def acceptAll (_ : String) (_ : Json) : List ProfileDiagnostic := []

theorem widget_synced : SyncedAt anyProfile acceptAll (applied anyProfile acceptAll widget)
    ⟨"widget", 0, profileDocument "widget" { displayName := "Widget" }⟩ 1 where
  converted := rfl
  accepted := rfl
  pos := Nat.one_pos
  stored := rfl
  mirrored := rfl

theorem widget_applied : ∃ tr, Prog.Steps (ProfileWorld.react acceptAll) Rely.none
    (apply anyProfile 0 widget.resource) widget tr (.done (.ok (.requeue requeueInterval)))
    (applied anyProfile acceptAll widget) :=
  Prog.steps_outcome Outage.error (ProfileWorld.serve acceptAll) Rely.none
    (apply anyProfile 0 widget.resource) widget

/-- After its import the profile is not at rest. -/
theorem widget_never_rests : ∃ w tr, Prog.Steps (ProfileWorld.react acceptAll) Rely.none
      (apply anyProfile 0 widget.resource) widget tr (.done (.ok (.requeue requeueInterval))) w ∧
    ¬ Rests anyProfile acceptAll w ∧
    (∀ now' tr' a' w', Prog.Steps (ProfileWorld.react acceptAll) Rely.none
      (apply anyProfile now' w.resource) w tr' (.done (.ok a')) w' →
        w'.profiles ≠ w.profiles ∧ w'.resource.status ≠ w.resource.status) ∧
    ∃ f : ℕ → ProfileWorld, f 0 = w ∧ ∀ i, Triggers anyProfile acceptAll (f i) (f (i + 1)) := by
  obtain ⟨tr, hsteps⟩ := widget_applied
  exact ⟨_, tr, hsteps, apply_never_rests hsteps⟩

/-- The import stores version one; the next apply, with nothing changed, stores and mirrors
version two. -/
theorem widget_applied_again : (∃ tr, Prog.Steps (ProfileWorld.react acceptAll) Rely.none
      (apply anyProfile 0 widget.resource) widget tr (.done (.ok (.requeue requeueInterval)))
      (applied anyProfile acceptAll widget)) ∧
    ¬ Rests anyProfile acceptAll (applied anyProfile acceptAll widget) ∧
    (applied anyProfile acceptAll widget).resource.status.bind (·.resourceVersion) = some 1 ∧
    (applied anyProfile acceptAll
      (applied anyProfile acceptAll widget)).resource.status.bind (·.resourceVersion) = some 2 :=
  ⟨widget_applied, widget_synced.not_rests, rfl, widget_synced.triggers.1.mirrored⟩

end Sample
end OpenShell
