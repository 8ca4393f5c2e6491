import OpenShellOperator.Effects.Embed
import OpenShellOperator.Effects.Threads
import OpenShellOperator.Profile.Rest

/-! # When a provider profile is deleted

Provider-profile resources are reconciled side by side, with finalizers, while users create,
edit and delete profile and provider resources.

The store is followed by two histories.  A profile of the gateway is *written* from the
operator's first attempt to import or update it until it is absent; a provider is *bound* to a
type from a moment when it selects the type and the profile resource is not being deleted,
until it no longer selects the type.  The invariant is `Sound`: a written profile has its
resource, with the finalizer.  A cleanup that counted no provider may rely on no provider being
bound: a provider that selects the type now began to do so after the deletion was requested
(`profile_delete_safe`). -/

namespace OpenShell
open Wire Effects

/-! ### The reconcile -/

/-- A call of the profile controller or of its finalizer machinery. -/
inductive ProfileStep where
  | call (c : ProfileCall)
  | addFinalizer (name finalizer : String)
  | removeFinalizer (name finalizer : String)
deriving Repr

abbrev ProfileStep.Answer : ProfileStep → Type
  | call c => c.Answer
  | addFinalizer _ _ | removeFinalizer _ _ => Unit

abbrev ProfileRun (α : Type) := Prog ProfileStep.Answer Error α

namespace ProfileController

def finalizerName : String := "openshell.lenshq.io/provider-profile-cleanup"

/-- A program of the controller as a part of its reconcile. -/
def inReconcile {α : Type} (p : ProfileOp α) : ProfileRun α := p.via .call (fun _ answer => answer)

def perform (c : ProfileStep) : ProfileRun c.Answer := Prog.perform (ε := Error) c

/-- The finalizer machinery around apply and cleanup. -/
def reconcile (V : ProfileParser) (now : Time) (profile : OpenShellProviderProfile) :
    ProfileRun Action :=
  let m := profile.metadata
  match m.finalizers.contains finalizerName, m.deletionTimestamp.isSome with
  | true, false =>
      (inReconcile (apply V now profile)).mapErr (fun err => .finalizer (.applyFailed err))
  | true, true => do
      let action ← (inReconcile (cleanup now profile)).mapErr
        (fun err => .finalizer (.cleanupFailed err))
      (perform (.removeFinalizer m.name finalizerName)).mapErr
        (fun err => .finalizer (.removeFinalizer err.kubeText))
      pure action
  | false, false => do
      (perform (.addFinalizer m.name finalizerName)).mapErr
        (fun err => .finalizer (.addFinalizer err.kubeText))
      pure .awaitChange
  | false, true => pure .awaitChange

end ProfileController

/-! ### The store -/

/-- The gateway's profiles, and the profile and provider resources of the cluster. -/
structure ProfileCluster where
  profiles : StrMap ProviderProfile := ∅
  resources : StrMap OpenShellProviderProfile := ∅
  providers : KeyMap OpenShellProvider := ∅

namespace ProfileCluster

/-- The world of one resource. -/
def view (w : ProfileCluster) (resource : OpenShellProviderProfile) : ProfileWorld :=
  ⟨w.profiles, resource, w.providers.values⟩

/-- Change a resource, or remove it. -/
def modify (w : ProfileCluster) (name : String)
    (f : OpenShellProviderProfile → Option OpenShellProviderProfile) :
    ProfileCluster × Except Error Unit :=
  match w.resources[name]? with
  | none => (w, .error (Cluster.notFound name))
  | some r =>
      ({ w with resources := match f r with
          | some r' => w.resources.insert name r'
          | none => w.resources.erase name }, .ok ())

/-- A call to the gateway, whose answer does not depend on the resources. -/
def serveGateway (check : String → Json → List ProfileDiagnostic) (w : ProfileCluster)
    (c : ProfileCall) : ProfileCluster × Except Error c.Answer :=
  let served := (w.view ⟨{ name := "" }, { displayName := "" }, none⟩).serve check c
  ({ w with profiles := served.1.profiles }, served.2)

def serve (check : String → Json → List ProfileDiagnostic) (w : ProfileCluster) :
    (c : ProfileStep) → ProfileCluster × Except Error c.Answer
  | .call (.patchStatus name status) => w.modify name (fun r =>
      some { r with status := some (ProfileWorld.mergeStatus r.status status) })
  | .call c => w.serveGateway check c
  | .addFinalizer name finalizer => w.modify name (fun r =>
      some { r with metadata := Cluster.addFinalizerTo finalizer r.metadata })
  | .removeFinalizer name finalizer => w.modify name (fun r =>
      (Cluster.removeFinalizerFrom finalizer r.metadata).map ({ r with metadata := · }))

/-- The provider selects the profile type. -/
def Selects (w : ProfileCluster) (id : String) (key : Key) : Prop :=
  ∃ provider, w.providers[key]? = some provider ∧ provider.spec.providerType = id

/-- The resource is there, with the operator's finalizer. -/
def Held (w : ProfileCluster) (id : String) : Prop :=
  ∃ r, w.resources[id]? = some r ∧ ProfileController.finalizerName ∈ r.metadata.finalizers

/-- The deletion of the resource has been requested. -/
def Deleting (w : ProfileCluster) (id : String) : Prop :=
  ∃ r, w.resources[id]? = some r ∧ r.metadata.deletionTimestamp.isSome

/-- A resource that is there stays there, with the operator's finalizer if it has it, and with
its deletion requested once it has been. -/
def Keeps (w w' : ProfileCluster) (id : String) : Prop :=
  ∀ r, w.resources[id]? = some r → ∃ r', w'.resources[id]? = some r' ∧
    (ProfileController.finalizerName ∈ r.metadata.finalizers →
      ProfileController.finalizerName ∈ r'.metadata.finalizers) ∧
    (r.metadata.deletionTimestamp.isSome → r'.metadata.deletionTimestamp.isSome)

section frames
variable {check : String → Json → List ProfileDiagnostic} {w w' : ProfileCluster} {id : String}

theorem Keeps.of_eq (h : w'.resources[id]? = w.resources[id]?) : w.Keeps w' id :=
  fun r hr => ⟨r, h.trans hr, fun hf => hf, fun hd => hd⟩

theorem Keeps.held (h : w.Keeps w' id) (hw : w.Held id) : w'.Held id := by
  obtain ⟨r, hr, hf⟩ := hw
  obtain ⟨r', hr', hf', -⟩ := h r hr
  exact ⟨r', hr', hf' hf⟩

theorem Keeps.deleting (h : w.Keeps w' id) (hw : w.Deleting id) : w'.Deleting id := by
  obtain ⟨r, hr, hd⟩ := hw
  obtain ⟨r', hr', -, hd'⟩ := h r hr
  exact ⟨r', hr', hd' hd⟩

theorem modify_of_ne {name : String} (hne : name ≠ id)
    (f : OpenShellProviderProfile → Option OpenShellProviderProfile) :
    (w.modify name f).1.resources[id]? = w.resources[id]? := by
  unfold modify
  split
  · rfl
  · split
    · simp [Std.ExtTreeMap.getElem?_insert, hne]
    · simp [Std.ExtTreeMap.getElem?_erase, hne]

/-- A change that keeps every resource. -/
theorem modify_keeps (name : String)
    {f : OpenShellProviderProfile → Option OpenShellProviderProfile}
    (hf : ∀ r, ∃ r', f r = some r' ∧
      (ProfileController.finalizerName ∈ r.metadata.finalizers →
        ProfileController.finalizerName ∈ r'.metadata.finalizers) ∧
      (r.metadata.deletionTimestamp.isSome → r'.metadata.deletionTimestamp.isSome)) :
    w.Keeps (w.modify name f).1 id := by
  by_cases hname : name = id
  · subst hname
    intro r hr
    obtain ⟨r', hr', hkeeps⟩ := hf r
    refine ⟨r', ?_, hkeeps⟩
    simp [modify, hr, hr']
  · exact .of_eq (modify_of_ne hname f)

/-- Only the removal of its finalizer takes anything from a resource. -/
theorem serve_keeps {c : ProfileStep} (hc : ∀ finalizer, c ≠ .removeFinalizer id finalizer) :
    w.Keeps (w.serve check c).1 id := by
  cases c with
  | call c =>
      cases c with
      | patchStatus name status =>
          exact modify_keeps name (fun r => ⟨_, rfl, fun hf => hf, fun hd => hd⟩)
      | _ => exact .of_eq rfl
  | addFinalizer name finalizer =>
      exact modify_keeps name
        (fun r => ⟨_, rfl, fun hf => List.mem_append_left _ hf, fun hd => hd⟩)
  | removeFinalizer name finalizer =>
      refine .of_eq (modify_of_ne ?_ _)
      rintro rfl
      exact hc finalizer rfl

/-- A deleted profile is gone. -/
theorem serve_delete : (w.serve check (.call (.deleteProviderProfile id))).1.profiles[id]? = none := by
  show (ProfileWorld.serve check (w.view _) (.deleteProviderProfile id)).1.profiles[id]? = none
  by_cases hthere : id ∈ w.profiles
  · simp [ProfileWorld.serve, view, hthere]
  · simp [ProfileWorld.serve, view, hthere]

end frames
end ProfileCluster

/-! ### Histories -/

/-- The profile an import or update of the controller writes. -/
def ProfileStep.writes : ProfileStep → String → Prop
  | call (.updateProviderProfiles request), id => request.id = id
  | call (.importProviderProfiles profile _), id => profile.id = id
  | _, _ => False

/-- The store, the profiles that the operator has written, and the providers that are bound to
a type. -/
structure ProfileHistory where
  cluster : ProfileCluster
  written : String → Prop
  bound : String → Key → Prop

namespace ProfileHistory

/-- Nothing has been written, and every provider is bound. -/
def start (w : ProfileCluster) : ProfileHistory := ⟨w, fun _ => False, w.Selects⟩

/-- The history goes on with the store as it is now. -/
def next (h : ProfileHistory) (writes : String → Prop) (w : ProfileCluster) : ProfileHistory where
  cluster := w
  written id := (w.profiles[id]?).isSome ∧ (h.written id ∨ writes id)
  bound id key := w.Selects id key ∧ (h.bound id key ∨ ¬ w.Deleting id)

/-- Calls may fail, with or without effect. -/
def react (check : String → Json → List ProfileDiagnostic) (h : ProfileHistory) (c : ProfileStep)
    (f : Fate Outage) : ProfileHistory × Except Error c.Answer :=
  let answered := respond Outage.error (ProfileCluster.serve check) h.cluster c f
  (h.next c.writes answered.1, answered.2)

/-- A written profile has its resource, with the finalizer; a bound provider selects its type. -/
structure Sound (h : ProfileHistory) : Prop where
  held : ∀ id, h.written id → h.cluster.Held id
  selects : ∀ id key, h.bound id key → h.cluster.Selects id key

/-- The resource is being deleted and has its finalizer. -/
def Closing (h : ProfileHistory) (id : String) : Prop :=
  h.cluster.Held id ∧ h.cluster.Deleting id

/-- No provider is bound to the type. -/
def Unbound (h : ProfileHistory) (id : String) : Prop := ∀ key, ¬ h.bound id key

end ProfileHistory

/-- What a reconcile of the resource `id` may do: write its own profile while it is held, delete
it while it is being deleted and no provider is bound, and remove its own finalizer once its
profile is not there. -/
structure ProfileAllowed (id : String) (h : ProfileHistory) (c : ProfileStep) : Prop where
  write : ∀ id', c.writes id' → id' = id ∧ h.cluster.Held id
  delete : ∀ id', c = .call (.deleteProviderProfile id') → id' = id ∧ h.Closing id ∧ h.Unbound id
  release : ∀ id' finalizer, c = .removeFinalizer id' finalizer → id' = id ∧ ¬ h.written id

/-- What the reconcile of the resource `id` relies on. -/
structure ProfileUndisturbed (id : String) (h h' : ProfileHistory) : Prop where
  held : h.cluster.Held id → h'.cluster.Held id
  deleting : h.cluster.Deleting id → h'.cluster.Deleting id
  unwritten : ¬ h.written id → ¬ h'.written id
  unbound : h.cluster.Deleting id → h.Unbound id → h'.Unbound id

/-- The rely of the reconcile of the resource `id`. -/
def profileRely (id : String) : Rely ProfileHistory where
  rel h h' := h.Sound → h'.Sound ∧ (h.cluster.Held id → ProfileUndisturbed id h h')
  refl h hs := ⟨hs, fun _ => ⟨fun hh => hh, fun hd => hd, fun hw => hw, fun _ hu => hu⟩⟩
  trans h₁ h₂ hs := by
    obtain ⟨hs₁, hu₁⟩ := h₁ hs
    obtain ⟨hs₂, hu₂⟩ := h₂ hs₁
    refine ⟨hs₂, fun hheld => ?_⟩
    have hfirst := hu₁ hheld
    have hthen := hu₂ (hfirst.held hheld)
    exact ⟨fun hh => hthen.held (hfirst.held hh), fun hd => hthen.deleting (hfirst.deleting hd),
      fun hw => hthen.unwritten (hfirst.unwritten hw),
      fun hd hu => hthen.unbound (hfirst.deleting hd) (hfirst.unbound hd hu)⟩

/-! ### What an allowed call keeps -/

namespace ProfileHistory

section steps
variable {h : ProfileHistory} {writes : String → Prop} {w : ProfileCluster} {id : String}

/-- The history goes on undisturbed when the resource is kept and its profile not written. -/
theorem next_undisturbed (hkeeps : h.cluster.Keeps w id) (hwrites : ¬ writes id) :
    ProfileUndisturbed id h (h.next writes w) where
  held := hkeeps.held
  deleting := hkeeps.deleting
  unwritten hnot hwritten := hwritten.2.elim hnot hwrites
  unbound hdeleting hunbound key hbound := by
    rcases hbound.2 with hold | hnot
    · exact hunbound key hold
    · exact hnot (hkeeps.deleting hdeleting)

/-- Soundness is kept when every resource is kept but those without a written profile, and
profiles are written only while their resource is held. -/
theorem Sound.next (hs : h.Sound) (hkeeps : ∀ id, h.written id ∨ writes id → h.cluster.Keeps w id)
    (hwrites : ∀ id, writes id → h.cluster.Held id) : (h.next writes w).Sound where
  held id hwritten := (hkeeps id hwritten.2).held (hwritten.2.elim (hs.held id) (hwrites id))
  selects _ _ hbound := hbound.1

end steps

section calls
variable {check : String → Json → List ProfileDiagnostic} {h : ProfileHistory} {c : ProfileStep}
  {f : Fate Outage} {id : String}

/-- Only the removal of its finalizer takes anything from a resource. -/
theorem react_keeps (hc : ∀ finalizer, c ≠ .removeFinalizer id finalizer) :
    h.cluster.Keeps (react check h c f).1.cluster id := by
  show h.cluster.Keeps (respond Outage.error (ProfileCluster.serve check) h.cluster c f).1 id
  rcases respond_world Outage.error (ProfileCluster.serve check) h.cluster c f with hw | hw
  · exact .of_eq (congrArg (fun w : ProfileCluster => w.resources[id]?) hw)
  · rw [hw]
    exact ProfileCluster.serve_keeps hc

/-- An allowed call keeps soundness. -/
theorem Sound.react (hs : h.Sound) (hc : ProfileAllowed id h c) : (react check h c f).1.Sound := by
  refine hs.next (fun id' hid' => react_keeps (fun finalizer hremove => ?_)) ?_
  · obtain ⟨rfl, hnot⟩ := hc.release id' finalizer hremove
    rcases hid' with hwritten | hwrites
    · exact hnot hwritten
    · rw [hremove] at hwrites
      exact hwrites
  · intro id' hwrites
    obtain ⟨rfl, hheld⟩ := hc.write id' hwrites
    exact hheld

/-- **Interference.**  An allowed call of one resource keeps soundness and leaves the others
undisturbed. -/
theorem react_allowed (hs : h.Sound) (hc : ProfileAllowed id h c) :
    (react check h c f).1.Sound ∧ ∀ j, j ≠ id → profileRely j h (react check h c f).1 := by
  refine ⟨hs.react hc, fun j hj _ => ⟨hs.react hc, fun _ => ?_⟩⟩
  refine next_undisturbed (react_keeps (fun finalizer hremove => ?_)) (fun hwrites => ?_)
  · exact hj (hc.release j finalizer hremove).1
  · exact hj (hc.write j hwrites).1

end calls
end ProfileHistory

/-! ### The system -/

/-- What users and the gateway do.  A resource that has the operator's finalizer stays with it,
and a requested deletion is not taken back; profiles and providers change in any way. -/
def ProfileOutside (h h' : ProfileHistory) : Prop :=
  ∃ w, (∀ id, h.cluster.Held id → h.cluster.Keeps w id) ∧ h' = h.next (fun _ => False) w

theorem ProfileOutside.relies {h h' : ProfileHistory} (ho : ProfileOutside h h') (hs : h.Sound) :
    h'.Sound ∧ ∀ id, profileRely id h h' := by
  obtain ⟨w, hkeeps, rfl⟩ := ho
  have hsound : (h.next (fun _ => False) w).Sound := by
    refine hs.next (fun id hid => hkeeps id ?_) (fun _ hwrites => hwrites.elim)
    exact hid.elim (hs.held id) (fun hwrites => hwrites.elim)
  exact ⟨hsound, fun id _ => ⟨hsound, fun hheld =>
    ProfileHistory.next_undisturbed (hkeeps id hheld) (fun hwrites => hwrites)⟩⟩

/-- A reconcile starts with what the controller has seen of a resource: the resource is there,
and a finalizer or a deletion that was seen is there as well. -/
def ProfileStarts (V : ProfileParser) (id : String) (h : ProfileHistory) (p : ProfileRun Action) :
    Prop :=
  ∃ now profile, profile.metadata.name = id ∧ (∃ r, h.cluster.resources[id]? = some r) ∧
    (ProfileController.finalizerName ∈ profile.metadata.finalizers → h.cluster.Held id) ∧
    (profile.metadata.deletionTimestamp.isSome → h.cluster.Deleting id) ∧
    p = ProfileController.reconcile V now profile

abbrev ProfileReach (V : ProfileParser) (check : String → Json → List ProfileDiagnostic) :
    Conf String ProfileStep.Answer Error Action ProfileHistory →
      Conf String ProfileStep.Answer Error Action ProfileHistory → Prop :=
  Reach (fun _ => ProfileHistory.react check) (ProfileStarts V) ProfileOutside

/-! ### The reconcile makes allowed calls -/

namespace ProfileController

/-- The call writes no other profile than `id`, and deletes none. -/
def Tends (id : String) (c : ProfileCall) : Prop :=
  (∀ id', (ProfileStep.call c).writes id' → id' = id) ∧ ∀ id', c ≠ .deleteProviderProfile id'

section footprint
variable {id : String}

theorem recordEvent_tends (name : String) (event : Event) :
    (recordEvent name event).Calls (Tends id) :=
  Prog.Calls.bind (Prog.calls_perform ⟨fun _ h => h.elim, nofun⟩).attempt
    (fun _ => Prog.calls_pure _)

theorem patchStatus_tends (name : String) (status : OpenShellProviderProfileStatus) :
    (send (.patchStatus name status)).Calls (Tends id) :=
  Prog.calls_perform ⟨fun _ h => h.elim, nofun⟩

theorem existingVersion_tends : (existingVersion id).Calls (Tends id) := by
  refine Prog.Calls.bind (Prog.calls_perform ⟨fun _ h => h.elim, nofun⟩).attempt (fun found => ?_)
  cases found with
  | ok found => exact Prog.calls_pure _
  | error err =>
      show Prog.Calls _ (ite _ _ _)
      split_ifs
      · exact Prog.calls_pure _
      · exact Prog.calls_fail _

theorem updateProfile_tends (profile : ProviderProfile) (version : ℕ) :
    (updateProfile profile version).Calls (Tends profile.id) := by
  refine Prog.Calls.bind (Prog.calls_perform ⟨fun _ h => h.symm, nofun⟩) (fun response => ?_)
  show Prog.Calls _ (ite _ _ _)
  split_ifs
  · exact Prog.calls_pure _
  · exact Prog.calls_fail _

theorem importProfile_tends (profile : ProviderProfile) :
    (importProfile profile).Calls (Tends profile.id) := by
  refine Prog.Calls.bind (Prog.calls_perform ⟨fun _ h => h.symm, nofun⟩) (fun response => ?_)
  show Prog.Calls _ (ite _ _ _)
  split_ifs
  · exact Prog.calls_pure _
  · exact Prog.calls_fail _

theorem upsertProviderProfile_tends (profile : ProviderProfile) :
    (upsertProviderProfile profile).Calls (Tends profile.id) := by
  refine Prog.Calls.bind existingVersion_tends (fun version => ?_)
  cases version with
  | some version => exact updateProfile_tends profile version
  | none => exact importProfile_tends profile

/-- The parser takes the id of a profile from the document. -/
def KeepsId (V : ProfileParser) : Prop :=
  ∀ name spec parsed, V.parseProfileJson (profileDocument name spec) = .ok parsed →
    (V.toProto parsed).id = name

theorem profileToProto_id {V : ProfileParser} (hV : KeepsId V) {name : String}
    {spec : OpenShellProviderProfileSpec} {proto : ProviderProfile}
    (h : profileToProto V name spec = .ok proto) : proto.id = name := by
  unfold profileToProto at h
  split at h
  · cases h
  · rename_i parsed hparsed
    dsimp only at h
    split_ifs at h
    cases h
    exact hV name spec parsed hparsed

theorem apply_tends {V : ProfileParser} (hV : KeepsId V) (now : Time)
    (profile : OpenShellProviderProfile) :
    (apply V now profile).Calls (Tends profile.metadata.name) := by
  refine Prog.Calls.bind (Prog.Calls.attempt ?_) (fun outcome => ?_)
  · unfold sync
    cases hproto : profileToProto V profile.metadata.name profile.spec with
    | ok proto => exact profileToProto_id hV hproto ▸ upsertProviderProfile_tends proto
    | error err => exact Prog.calls_fail err
  · cases outcome with
    | ok version => exact Prog.Calls.bind (patchStatus_tends _ _) (fun _ => Prog.calls_pure _)
    | error err =>
        exact Prog.Calls.bind (recordEvent_tends _ _) (fun _ =>
          Prog.Calls.bind (patchStatus_tends _ _).attempt (fun _ => Prog.calls_fail err))

theorem refuseInUse_tends (now : Time) (profile : OpenShellProviderProfile) (count : ℕ) :
    (refuseInUse now profile count).Calls (Tends id) :=
  Prog.Calls.bind (recordEvent_tends _ _) (fun _ =>
    Prog.Calls.bind (patchStatus_tends _ _).attempt (fun _ => Prog.calls_pure _))

end footprint

section safety
variable {check : String → Json → List ProfileDiagnostic} {h : ProfileHistory} {id : String}

/-- A call of the controller inside its reconcile. -/
def answer (check : String → Json → List ProfileDiagnostic) (h : ProfileHistory) (c : ProfileCall)
    (f : Fate Outage) : ProfileHistory × Except Error c.Answer :=
  ProfileHistory.react check h (.call c) f

/-- The resource is held, whatever else its reconcile has found out. -/
def Tending (id : String) (h : ProfileHistory) : Prop := h.Sound ∧ h.cluster.Held id

/-- The cleanup is at work. -/
def Emptying (id : String) (h : ProfileHistory) : Prop := h.Sound ∧ h.Closing id

/-- The cleanup has been done. -/
def Released (id : String) (h : ProfileHistory) : Prop := Tending id h ∧ ¬ h.written id

theorem Tending.rely {h' : ProfileHistory} (ht : Tending id h) (hr : profileRely id h h') :
    Tending id h' :=
  ⟨(hr ht.1).1, ((hr ht.1).2 ht.2).held ht.2⟩

theorem Emptying.rely {h' : ProfileHistory} (he : Emptying id h) (hr : profileRely id h h') :
    Emptying id h' :=
  ⟨(hr he.1).1, ((hr he.1).2 he.2.1).held he.2.1, ((hr he.1).2 he.2.1).deleting he.2.2⟩

theorem Released.rely {h' : ProfileHistory} (hd : Released id h) (hr : profileRely id h h') :
    Released id h' :=
  ⟨hd.1.rely hr, ((hr hd.1.1).2 hd.1.2).unwritten hd.2⟩

theorem Emptying.unbound {h' : ProfileHistory} (he : Emptying id h) (hu : h.Unbound id)
    (hr : profileRely id h h') : h'.Unbound id :=
  ((hr he.1).2 he.2.1).unbound he.2.2 hu

theorem Tends.allowed {c : ProfileCall} (hc : Tends id c) (hheld : h.cluster.Held id) :
    ProfileAllowed id h (.call c) where
  write id' hwrites := ⟨hc.1 id' hwrites, hheld⟩
  delete id' he := absurd (ProfileStep.call.inj he) (hc.2 id')
  release _ _ he := by cases he

theorem answer_keeps (c : ProfileCall) (f : Fate Outage) :
    h.cluster.Keeps (answer check h c f).1.cluster id :=
  ProfileHistory.react_keeps (fun _ he => by cases he)

/-- A program that tends to the resource runs while it is held. -/
theorem tends_safe {α : Type} {p : ProfileOp α} (hp : p.Calls (Tends id)) (ht : Tending id h) :
    p.Safe (answer check) (profileRely id) (fun h c => ProfileAllowed id h (.call c))
      (fun _ h' => Tending id h') h := by
  refine Prog.Calls.safe_inv (fun _ _ ht hr => ht.rely hr) (fun h c ht hc => ?_) hp ht
  have hallowed := hc.allowed ht.2
  exact ⟨hallowed, fun f => ⟨ht.1.react hallowed, (answer_keeps c f).held ht.2⟩⟩

/-- A count of zero means that no provider is bound, and none will be. -/
theorem countReferencing_unbound (he : Emptying id h) :
    (countReferencing id).Safe (answer check) (profileRely id)
      (fun h c => ProfileAllowed id h (.call c))
      (fun r h' => Emptying id h' ∧ (r = .ok 0 → h'.Unbound id)) h := by
  refine Prog.Safe.bind (Prog.safe_perform (fun h₁ hr => ?_))
  have he₁ := he.rely hr
  have hallowed : ProfileAllowed id h₁ (.call .listProviders) :=
    Tends.allowed ⟨fun _ hw => hw.elim, nofun⟩ he₁.2.1
  refine ⟨hallowed, fun f h₂ hr₂ => ?_⟩
  have hkeeps : h₁.cluster.Keeps (answer check h₁ .listProviders f).1.cluster id := answer_keeps _ f
  have he₂ : Emptying id (answer check h₁ .listProviders f).1 :=
    ⟨he₁.1.react hallowed, hkeeps.held he₁.2.1, hkeeps.deleting he₁.2.2⟩
  have hu : ProfileUndisturbed id h₁ (answer check h₁ .listProviders f).1 :=
    ProfileHistory.next_undisturbed hkeeps (fun hw => hw)
  cases hl : (answer check h₁ .listProviders f).2 with
  | error err => exact fun h₃ hr₃ => ⟨(he₂.rely hr₂).rely hr₃, nofun⟩
  | ok providers =>
      refine fun h₃ hr₃ => ⟨(he₂.rely hr₂).rely hr₃, fun hzero => ?_⟩
      refine (he₂.rely hr₂).unbound (he₂.unbound (hu.unbound he₁.2.2 ?_) hr₂) hr₃
      -- the listing is all providers, so none of them selects the type
      intro key hbound
      obtain ⟨provider, hprovider, htype⟩ := he₁.1.selects id key hbound
      have hserved : (respond Outage.error (ProfileCluster.serve check) h₁.cluster
          (.call .listProviders) f).2 = .ok providers := hl
      have hlist : h₁.cluster.providers.values = providers :=
        Except.ok.inj (respond_ok hserved).2
      have hmem : provider ∈ providers := hlist ▸ (KeyMap.mem_values _).mpr ⟨key, hprovider⟩
      exact List.countP_eq_zero.mp (Except.ok.inj hzero) provider hmem (beq_iff_eq.mpr htype)

/-- A deletion that returns leaves no written profile. -/
theorem deleteProviderProfile_released (he : Emptying id h) (hu : h.Unbound id) :
    (send (.deleteProviderProfile id)).Safe (answer check) (profileRely id)
      (fun h c => ProfileAllowed id h (.call c))
      (fun r h' => ∀ outcome, r = .ok outcome → Released id h') h := by
  refine Prog.safe_perform (fun h₁ hr => ?_)
  have he₁ := he.rely hr
  have hallowed : ProfileAllowed id h₁ (.call (.deleteProviderProfile id)) := by
    refine ⟨fun _ hw => hw.elim, fun id' hid' => ?_, fun _ _ hx => by cases hx⟩
    cases hid'
    exact ⟨rfl, he₁.2, he.unbound hu hr⟩
  refine ⟨hallowed, fun f h₂ hr₂ outcome houtcome => Released.rely ?_ hr₂⟩
  refine ⟨⟨he₁.1.react hallowed, (answer_keeps _ f).held he₁.2.1⟩, fun hwritten => ?_⟩
  have hserved : (respond Outage.error (ProfileCluster.serve check) h₁.cluster
      (.call (.deleteProviderProfile id)) f).2 = .ok outcome := houtcome
  obtain ⟨rfl, -⟩ := respond_ok hserved
  have hgone : (ProfileCluster.serve check h₁.cluster
      (.call (.deleteProviderProfile id))).1.profiles[id]? = none := ProfileCluster.serve_delete
  have hthere := hwritten.1
  simp only [respond] at hthere
  rw [hgone] at hthere
  cases hthere

theorem cleanup_released {profile : OpenShellProviderProfile} (now : Time)
    (he : Emptying profile.metadata.name h) :
    (cleanup now profile).Safe (answer check) (profileRely profile.metadata.name)
      (fun h c => ProfileAllowed profile.metadata.name h (.call c))
      (fun r h' => ∀ action, r = .ok action → Released profile.metadata.name h') h := by
  refine Prog.Safe.bind (Prog.Safe.mono (fun _ _ hc => hc) ?_ (countReferencing_unbound he))
  intro r h₁ hcount
  cases r with
  | error err => exact fun _ _ _ hx => by cases hx
  | ok n =>
      show Prog.Safe _ _ _ _ (ite _ _ _) h₁
      split_ifs with hn
      · refine Prog.Safe.bind (Prog.Safe.mono (fun _ _ hc => hc) ?_
          (tends_safe (refuseInUse_tends now profile n) ⟨hcount.1.1, hcount.1.2.1⟩))
        intro r h₂ _
        cases r with
        | error err => exact fun _ _ _ hx => by cases hx
        | ok err => exact fun _ _ _ hx => by cases hx
      · have hzero : n = 0 := Nat.eq_zero_of_not_pos hn
        subst hzero
        refine Prog.Safe.bind (Prog.Safe.mono (fun _ _ hc => hc) ?_
          (deleteProviderProfile_released hcount.1 (hcount.2 rfl)))
        intro r h₂ hr
        cases r with
        | error err => exact fun _ _ _ hx => by cases hx
        | ok outcome => exact fun h₃ hr₃ _ _ => (hr outcome rfl).rely hr₃

/-- A program of the controller, inside its reconcile. -/
theorem inReconcile_safe {α : Type} {p : ProfileOp α}
    {Q : Except Error α → ProfileHistory → Prop}
    (hp : p.Safe (answer check) (profileRely id) (fun h c => ProfileAllowed id h (.call c)) Q h) :
    (inReconcile p).Safe (ProfileHistory.react check) (profileRely id) (ProfileAllowed id) Q h := by
  refine Prog.Safe.mono ?_ (fun _ _ hq => hq)
    (Prog.Safe.via (fun h => h) ?_ ?_ ?_ hp)
  · rintro h' _ ⟨c, rfl, hc⟩
    exact hc
  · exact fun _ _ _ => rfl
  · intro h' c f
    show Except.map _ (answer check h' c f).2 = _
    cases (answer check h' c f).2 <;> rfl
  · exact fun hr => hr

theorem perform_safe {c : ProfileStep} (hc : ∀ h', profileRely id h h' → ProfileAllowed id h' c)
    (g : Error → Error) :
    ((perform c).mapErr g).Safe (ProfileHistory.react check) (profileRely id) (ProfileAllowed id)
      (fun _ _ => True) h :=
  Prog.Safe.mapErr (fun _ _ _ hx _ => hx) (fun _ _ hx => hx)
    (Prog.safe_perform (fun h' hr => ⟨hc h' hr, fun _ _ _ => trivial⟩))

theorem reconcile_allowed {V : ProfileParser} (hV : KeepsId V) {p : ProfileRun Action}
    (hs : h.Sound) (hstart : ProfileStarts V id h p) :
    p.Safe (ProfileHistory.react check) (profileRely id) (ProfileAllowed id) (fun _ _ => True) h := by
  obtain ⟨now, profile, rfl, -, hheld, hdeleting, rfl⟩ := hstart
  unfold reconcile
  dsimp only
  split
  · rename_i hf _
    have ht : Tending profile.metadata.name h := ⟨hs, hheld (by simpa using hf)⟩
    refine Prog.Safe.mapErr (fun _ _ _ hx _ => hx) (fun _ _ hx => hx) ?_
    exact Prog.Safe.mono (fun _ _ hc => hc) (fun _ _ _ => trivial)
      (inReconcile_safe (tends_safe (apply_tends hV now profile) ht))
  · rename_i hf hd
    have he : Emptying profile.metadata.name h := ⟨hs, hheld (by simpa using hf), hdeleting hd⟩
    refine Prog.Safe.bind (Prog.Safe.mono (fun _ _ hc => hc) ?_ (Prog.Safe.mapErr ?_ ?_
      (inReconcile_safe (cleanup_released now he))))
    · intro r h₁ hr
      cases r with
      | error err => exact fun _ _ => trivial
      | ok action =>
          refine Prog.Safe.bind_inv (I := fun _ => True) (perform_safe (fun h₂ hr₂ => ?_) _)
            (fun _ _ _ _ _ => trivial) (fun _ _ _ _ _ => trivial)
          have hreleased := (hr action rfl).rely hr₂
          refine ⟨fun _ hw => hw.elim, fun _ hx => (by cases hx), fun id' finalizer hx => ?_⟩
          cases hx
          exact ⟨rfl, hreleased.2⟩
    · exact fun r h₁ h₂ hr hrely action haction => (hr action haction).rely hrely
    · exact fun _ _ _ _ hx => by cases hx
  · refine Prog.Safe.bind_inv (I := fun _ => True) (perform_safe (fun h₂ _ => ?_) _)
      (fun _ _ _ _ _ => trivial) (fun _ _ _ _ _ => trivial)
    exact ⟨fun _ hw => hw.elim, fun _ hx => (by cases hx), fun _ _ hx => (by cases hx)⟩
  · exact fun _ _ => trivial

end safety
end ProfileController

/-! ### The result -/

/-- **Deleting a profile.**  In every run, every profile that the operator has written and that
is still on the gateway has its resource, with the finalizer; and whenever a reconcile is about
to delete a profile there, the resource is being deleted, and every provider that selects its
type has begun to do so after the deletion was requested. -/
theorem profile_delete_safe (V : ProfileParser) (hV : ProfileController.KeepsId V)
    (check : String → Json → List ProfileDiagnostic) (w : ProfileCluster)
    (s : Conf String ProfileStep.Answer Error Action ProfileHistory)
    (hs : ProfileReach V check (Conf.idle (.start w)) s) :
    (∀ id, s.world.written id → s.world.cluster.Held id) ∧
    ∀ i id k, s.thread i = some (.call (.call (.deleteProviderProfile id)) k) →
      s.world.cluster.Deleting id ∧
        ∀ key, s.world.cluster.Selects id key → ¬ s.world.bound id key := by
  have hsound : (ProfileHistory.start w).Sound := ⟨fun _ hw => hw.elim, fun _ _ hb => hb⟩
  have hreach := Reach.safe (R := profileRely) (G := ProfileAllowed) (Q := fun _ _ _ => True)
    (fun _ _ _ hI hstart => ProfileController.reconcile_allowed hV hI hstart)
    (fun _ _ _ _ hI hc => ProfileHistory.react_allowed hI hc)
    (fun _ _ hI ho => ho.relies hI) hs hsound
  refine ⟨hreach.1.held, fun i id k hthread => ?_⟩
  obtain ⟨hallowed, -⟩ := hreach.2 i _ hthread s.world ((profileRely i).refl _)
  obtain ⟨rfl, hclosing, hunbound⟩ := hallowed.delete id rfl
  exact ⟨hclosing.2, fun key _ => hunbound key⟩

namespace Sample
open ProfileController

theorem anyProfile_keepsId : KeepsId anyProfile := by
  intro name spec parsed hparsed
  cases hparsed
  have hid : (profileDocument name spec).get? "id" = some (.str name) := by
    simp [profileDocument, Json.get?, Json.find_insert, Json.find_insertSome]
  simp only [anyProfile, hid]

/-- The profile resource `widget`, whose deletion has been requested. -/
def goingWidget : OpenShellProviderProfile where
  metadata := { name := "widget", deletionTimestamp := some 0, finalizers := [finalizerName] }
  spec := { displayName := "Widget" }

/-- A provider of another type. -/
def gadgetProvider : OpenShellProvider where
  metadata := { name := "gadget", namespace_ := some "team" }
  spec := { providerType := "gadget", credentialsSecretRef := { name := "gadget-keys" } }

def goingCluster : ProfileCluster where
  profiles := (∅ : StrMap ProviderProfile).insert "widget" ⟨"widget", 1, .null⟩
  resources := (∅ : StrMap OpenShellProviderProfile).insert "widget" goingWidget
  providers := (∅ : KeyMap OpenShellProvider).insert ⟨"team", "gadget"⟩ gadgetProvider

/-- The call deletes the profile `widget`. -/
def deletesWidget : ProfileStep → Bool
  | .call (.deleteProviderProfile id) => id == "widget"
  | _ => false

theorem eq_of_deletesWidget {c : ProfileStep} (h : deletesWidget c) :
    c = .call (.deleteProviderProfile "widget") := by
  unfold deletesWidget at h
  split at h
  · rw [beq_iff_eq.mp h]
  · cases h

/-- A provider that selects `widget`. -/
def lateProvider : OpenShellProvider where
  metadata := { name := "late", namespace_ := some "team" }
  spec := { providerType := "widget", credentialsSecretRef := { name := "widget-keys" } }

/-- The late provider is created. -/
def withLate (w : ProfileCluster) : ProfileCluster :=
  { w with providers := w.providers.insert ⟨"team", "late"⟩ lateProvider }

/-- The cleanup counts no provider of the type; then one is created, and the profile is about to
be deleted all the same: the provider began to select it after the deletion was requested. -/
theorem widget_deleted : ∃ s k,
    ProfileReach anyProfile acceptAll (Conf.idle (.start goingCluster)) s ∧
    s.thread "widget" = some (.call (.call (.deleteProviderProfile "widget")) k) ∧
    s.world.cluster.Selects "widget" ⟨"team", "late"⟩ ∧
    s.world.cluster.Deleting "widget" ∧
      ∀ key, s.world.cluster.Selects "widget" key → ¬ s.world.bound "widget" key := by
  have hstart : ProfileStarts anyProfile "widget" (.start goingCluster)
      (reconcile anyProfile 0 goingWidget) :=
    ⟨0, goingWidget, rfl, ⟨goingWidget, rfl⟩, fun _ => ⟨goingWidget, rfl, by decide⟩,
      fun _ => ⟨goingWidget, rfl, rfl⟩, rfl⟩
  obtain ⟨s, hreach, hthread, -⟩ :
      ∃ s, ProfileReach anyProfile acceptAll (Conf.idle (.start goingCluster)) s ∧ _ ∧ _ :=
    Reach.launch "widget" [Fate.served] rfl hstart
  have hnext : (Prog.exec (ProfileHistory.react acceptAll) [Fate.served]
      (reconcile anyProfile 0 goingWidget) (.start goingCluster)).1.next.any deletesWidget := by
    decide +kernel
  obtain ⟨c, hc, hdeletes⟩ := (Option.any_eq_true _ _).mp hnext
  rw [eq_of_deletesWidget hdeletes] at hc
  obtain ⟨k, hk⟩ := Prog.eq_of_next hc
  have hdelete := hthread.trans (congrArg some hk)
  have hlate : ProfileReach anyProfile acceptAll (Conf.idle (.start goingCluster))
      ⟨s.world.next (fun _ => False) (withLate s.world.cluster), s.thread⟩ :=
    hreach.tail (.env ⟨withLate s.world.cluster, fun _ _ => .of_eq rfl, rfl⟩)
  exact ⟨_, k, hlate, hdelete, ⟨lateProvider, (KeyMap.get?_insert _ _ _ _).trans (if_pos rfl), rfl⟩,
    (profile_delete_safe anyProfile anyProfile_keepsId acceptAll goingCluster _ hlate).2
      "widget" "widget" k hdelete⟩

end Sample
end OpenShell
