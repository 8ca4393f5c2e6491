import OpenShellOperator.Sandbox.Teardown

/-! # The recorded spec hash

The hash on a sandbox resource is written in a call of its own, after the call that creates
the sandbox.  `recorded_hash_true`: in every state of a history in which each creation so far was
answered and has been recorded by its own reconcile, the recorded hash is the one of the spec and
policy the sandbox was created from.  The states between a creation and its status patch are not
among these: there a recreate leaves the old hash beside the new sandbox until the patch is made.
`unrecorded_create_lies` is a history in which the patch is never made, and the next reconcile
adopts the sandbox under the hash of an edited spec. -/

namespace OpenShell
open Wire Effects

namespace SandboxController

/-! ### A truthful hash -/

section truthful
variable (X : Externals) (key : Key) (workspace : String)

/-- The resource is there. -/
def Present (w : World) : Prop := w.cluster.sandboxes[key]?.isSome

/-- The sandbox was created from a spec and policy with this immutable fingerprint. -/
def CreatedFrom (sandbox : GatewaySandbox) (hash : String) : Prop :=
  ∃ spec policy, requestFor X key.name spec policy = .ok sandbox.request ∧
    immutableFingerprint X spec policy = hash

/-- The recorded hash is the one of the spec and policy the sandbox was created from. -/
def HashTrue (w : World) : Prop :=
  ∀ sandbox hash, live key workspace w = some sandbox → recorded key w = some hash →
    CreatedFrom X key sandbox hash

/-- Users edit the spec and the policies, and the gateway may remove the sandbox; nobody else
creates the sandbox or writes the status. -/
def undisturbed : Rely World where
  rel w w' := recorded key w' = recorded key w ∧ (Present key w → Present key w') ∧
    ∀ sandbox', live key workspace w' = some sandbox' →
      ∃ sandbox, live key workspace w = some sandbox ∧ sandbox.request = sandbox'.request
  refl w := ⟨rfl, id, fun sandbox' h => ⟨sandbox', h, rfl⟩⟩
  trans h h' := by
    refine ⟨h'.1.trans h.1, h'.2.1 ∘ h.2.1, fun sandbox' hs => ?_⟩
    obtain ⟨s₁, hs₁, he₁⟩ := h'.2.2 sandbox' hs
    obtain ⟨s₂, hs₂, he₂⟩ := h.2.2 s₁ hs₁
    exact ⟨s₂, hs₂, he₂.trans he₁⟩

/-- A reconcile of the resource as the cluster has it. -/
def Reconciles (w : World) (p : Op Action) (R : Rely World) : Prop :=
  ∃ sandbox now, w.cluster.sandboxes[key]? = some sandbox ∧
    sandbox.metadata.namespace_ = some key.scope ∧ sandbox.metadata.name = key.name ∧
    sandbox.spec.workspaceOf = workspace ∧ p = apply X now sandbox ∧
    R = undisturbed key workspace

/-- A call that creates a sandbox. -/
def isCreate : Call → Bool
  | .rpc (.createSandbox _) => true
  | _ => false

/-- A call that writes the status of the resource. -/
def isStatus : Call → Bool
  | .kube (.patchSandboxStatus ns name _) => ns == key.scope && name == key.name
  | _ => false

/-- The calls a reconcile has made so far have recorded what they created: every create among
them that took effect was answered, and was followed by a status patch that took effect. -/
def CreatesRecorded : List (Call × Fate Outage) → Prop
  | [] => True
  | (c, f) :: tr =>
      (isCreate c ∧ f.effective → f.isServed ∧ ∃ cf ∈ tr, isStatus key cf.1 ∧ cf.2.effective) ∧
        CreatesRecorded tr

instance : ∀ tr, Decidable (CreatesRecorded key tr)
  | [] => inferInstanceAs (Decidable True)
  | (c, f) :: tr =>
      have : Decidable (CreatesRecorded key tr) := instDecidableCreatesRecorded tr
      inferInstanceAs (Decidable ((isCreate c ∧ f.effective → _) ∧ CreatesRecorded key tr))

end truthful

section logs
variable {key : Key} {log : List (Call × Fate Outage)} {c : Call} {f : Fate Outage}

/-- What is recorded was so before a call that writes no status. -/
theorem CreatesRecorded.init (h : CreatesRecorded key (log ++ [(c, f)]))
    (hc : ¬ (isStatus key c ∧ f.effective)) : CreatesRecorded key log := by
  induction log with
  | nil => trivial
  | cons cf log ih =>
      refine ⟨fun hcreate => ?_, ih h.2⟩
      obtain ⟨hserved, cf', hcf', hst⟩ := h.1 hcreate
      refine ⟨hserved, cf', ?_, hst⟩
      rcases List.mem_append.mp hcf' with hcf' | hcf'
      · exact hcf'
      · rw [List.mem_singleton.mp hcf'] at hst
        exact absurd hst hc

/-- A create that has just taken effect is not recorded yet. -/
theorem not_createsRecorded_create (hc : isCreate c) (hf : f.effective) :
    ¬ CreatesRecorded key (log ++ [(c, f)]) := by
  induction log with
  | nil =>
      intro h
      obtain ⟨-, cf, hcf, -⟩ := h.1 ⟨hc, hf⟩
      cases hcf
  | cons cf log ih => exact fun h => ih h.2

/-- The answer to a create that took effect was lost. -/
def Lost (log : List (Call × Fate Outage)) : Prop :=
  ∃ cf ∈ log, isCreate cf.1 ∧ cf.2.effective ∧ ¬ cf.2.isServed

theorem Lost.append (h : Lost log) (l : List (Call × Fate Outage)) : Lost (log ++ l) := by
  obtain ⟨cf, hcf, h⟩ := h
  exact ⟨cf, List.mem_append_left _ hcf, h⟩

theorem Lost.not_createsRecorded (h : Lost log) : ¬ CreatesRecorded key log := by
  induction log with
  | nil =>
      obtain ⟨cf, hcf, -⟩ := h
      cases hcf
  | cons cf log ih =>
      intro hrec
      obtain ⟨cf', hcf', hc, hf, hlost⟩ := h
      rcases List.mem_cons.mp hcf' with rfl | hcf'
      · exact hlost (hrec.1 ⟨hc, hf⟩).1
      · exact ih ⟨cf', hcf', hc, hf, hlost⟩ hrec.2

end logs

/-! ### The hash during a reconcile -/

section reconcile
variable {X : Externals} {key : Key} {workspace : String} {prior : Option String}
  {sandbox : OpenShellSandbox}

/-- A sandbox has its creation recorded. -/
def LiveRecorded (X : Externals) (key : Key) (workspace : String) (w : World) : Prop :=
  ∀ s, live key workspace w = some s → ∃ hash, recorded key w = some hash ∧ CreatedFrom X key s hash

/-- The state of a reconcile that has not created a sandbox; `prior` is the hash it found. -/
structure Clean (X : Externals) (key : Key) (workspace : String) (prior : Option String)
    (w : World) : Prop where
  present : Present key w
  recorded_eq : recorded key w = prior
  truthful : LiveRecorded X key workspace w

/-- The answer to a create was lost in this reconcile. -/
structure Missed (key : Key) (prior : Option String) (s : World × List (Call × Fate Outage)) :
    Prop where
  present : Present key s.1
  recorded_eq : recorded key s.1 = prior
  lost : Lost s.2

/-- The sandbox is the one of `hash`; it has just been created, or was there before. -/
structure Made (X : Externals) (key : Key) (workspace : String) (hash : String)
    (s : World × List (Call × Fate Outage)) : Prop where
  present : Present key s.1
  made : ∀ sb, live key workspace s.1 = some sb → CreatedFrom X key sb hash
  origin : LiveRecorded X key workspace s.1 ∨
    ∃ before c, s.2 = before ++ [(c, .served)] ∧ isCreate c

theorem CreatedFrom.congr {sb sb' : GatewaySandbox} {hash : String}
    (h : CreatedFrom X key sb hash) (hr : sb.request = sb'.request) :
    CreatedFrom X key sb' hash := by
  obtain ⟨spec, policy, hreq, hf⟩ := h
  exact ⟨spec, policy, hreq.trans (congrArg _ hr), hf⟩

theorem LiveRecorded.move {w w' : World} (h : LiveRecorded X key workspace w)
    (hR : undisturbed key workspace w w') : LiveRecorded X key workspace w' := by
  intro sb' hsb'
  obtain ⟨sb, hsb, hreq⟩ := hR.2.2 sb' hsb'
  obtain ⟨hash, hrec, hfrom⟩ := h sb hsb
  exact ⟨hash, hR.1.trans hrec, hfrom.congr hreq⟩

theorem Clean.move {w w' : World} (h : Clean X key workspace prior w)
    (hR : undisturbed key workspace w w') : Clean X key workspace prior w' :=
  ⟨hR.2.1 h.present, hR.1.trans h.recorded_eq, h.truthful.move hR⟩

theorem Missed.move {s s' : World × List (Call × Fate Outage)} (h : Missed key prior s)
    (hR : undisturbed key workspace s.1 s'.1) {l : List (Call × Fate Outage)} (hlog : s'.2 = s.2 ++ l) :
    Missed key prior s' :=
  ⟨hR.2.1 h.present, hR.1.trans h.recorded_eq, hlog ▸ h.lost.append l⟩

theorem Made.move {hash : String} {s s' : World × List (Call × Fate Outage)}
    (h : Made X key workspace hash s) (hR : (undisturbed key workspace).logged s s') :
    Made X key workspace hash s' := by
  obtain ⟨hR, hlog⟩ := hR
  refine ⟨hR.2.1 h.present, fun sb' hsb' => ?_, ?_⟩
  · obtain ⟨sb, hsb, hreq⟩ := hR.2.2 sb' hsb'
    exact (h.made sb hsb).congr hreq
  · rcases h.origin with ho | ⟨before, c, ho, hc⟩
    · exact .inl (ho.move hR)
    · exact .inr ⟨before, c, hlog.trans ho, hc⟩

/-- Upkeep and deletion are nothing that disturbs the resource. -/
theorem upkeep_undisturbed {c : Call} {w : World}
    (hc : Upkeep key.scope sandbox c ∨ c = deleteCall sandbox) (f : Fate Outage) :
    undisturbed key workspace w (World.react X w c f).1 := by
  rw [World.react, respond_of_effective]
  split_ifs
  · have hs : (World.serve X w c).1.cluster.sandboxes = w.cluster.sandboxes := by
      rcases hc with hc | rfl
      · exact (upkeep_frame hc).1
      · rfl
    refine ⟨?_, ?_, fun sb' hsb' => upkeep_request hc hsb'⟩
    · rw [recorded, hs]
      rfl
    · unfold Present
      rw [hs]
      exact id
  · exact (undisturbed key workspace).refl w

/-- A sandbox that is gone stays gone. -/
theorem undisturbed_gone {w w' : World} (hR : undisturbed key workspace w w')
    (hgone : live key workspace w = none) : live key workspace w' = none := by
  cases hl : live key workspace w' with
  | none => rfl
  | some sb =>
      obtain ⟨sb', hsb', -⟩ := hR.2.2 sb hl
      rw [hgone] at hsb'
      cases hsb'

/-- Either a creation of this reconcile is not recorded, or the sandbox has its creation
recorded. -/
def Accounted (X : Externals) (key : Key) (workspace : String)
    (s : World × List (Call × Fate Outage)) : Prop :=
  CreatesRecorded key s.2 → LiveRecorded X key workspace s.1

/-- However the call fares, creations stay accounted for. -/
def Accounts (X : Externals) (key : Key) (workspace : String)
    (s : World × List (Call × Fate Outage)) (c : Call) : Prop :=
  ∀ f, Accounted X key workspace (logged (World.react X) s c f).1

/-- Programs that create nothing stay clean. -/
theorem upkeep_clean {α : Type} {p : Op α}
    (hp : p.Calls (fun c => Upkeep key.scope sandbox c ∨ c = deleteCall sandbox))
    {s : World × List (Call × Fate Outage)} (h : Clean X key workspace prior s.1) :
    p.Safe (logged (World.react X)) (undisturbed key workspace).logged (Accounts X key workspace)
      (fun _ s' => Clean X key workspace prior s'.1) s := by
  have hcall : ∀ s c, Clean X key workspace prior s.1 →
      (Upkeep key.scope sandbox c ∨ c = deleteCall sandbox) →
      ∀ f, Clean X key workspace prior (logged (World.react X) s c f).1.1 :=
    fun s c h hc f => h.move (upkeep_undisturbed hc f)
  exact Prog.Calls.safe_inv (fun _ _ h hR => h.move hR.1)
    (fun s c h hc => ⟨fun f _ => (hcall s c h hc f).truthful, hcall s c h hc⟩) hp h

/-- What a create ends with. -/
def CreateOutcome (X : Externals) (key : Key) (workspace : String) (prior : Option String)
    (hash : String) {α : Type} (r : Except Error α) (s : World × List (Call × Fate Outage)) : Prop :=
  match r with
  | .ok _ => Made X key workspace hash s
  | .error _ => Clean X key workspace prior s.1 ∨ Missed key prior s

theorem create_made (hname : sandbox.metadata.name = key.name)
    (hws : sandbox.spec.workspaceOf = workspace) {policy : Option OpenShellPolicySpec}
    {proto : Option SandboxPolicy} (hp : resolvedProto X policy = .ok proto)
    {s : World × List (Call × Fate Outage)} (h : Clean X key workspace prior s.1)
    (hgone : live key workspace s.1 = none) :
    (create sandbox.metadata.name sandbox proto).Safe (logged (World.react X))
      (undisturbed key workspace).logged (Accounts X key workspace)
      (CreateOutcome X key workspace prior (immutableFingerprint X sandbox.spec policy)) s := by
  have hcreate : isCreate (createCall sandbox proto) := rfl
  refine Prog.Safe.bind (Prog.safe_perform (c := createCall sandbox proto) (fun s₁ hR => ?_))
  have h₁ := h.move hR.1
  have hkey : Gateway.requestKey (createSandboxRequest
      (buildSandboxCreate sandbox.metadata.name sandbox.spec proto)) =
        (workspaceScope workspace).key key.name := by
    rw [← hname]
    exact requestKey_create hws proto
  obtain ⟨hlive, hanswer⟩ := serve_create (X := X) hkey (undisturbed_gone hR.1 hgone)
  have hmade : Made X key workspace (immutableFingerprint X sandbox.spec policy)
      (logged (World.react X) s₁ (createCall sandbox proto) .served).1 := by
    refine ⟨h₁.present, fun sb hsb => ⟨sandbox.spec, policy, ?_, rfl⟩,
      .inr ⟨s₁.2, _, rfl, hcreate⟩⟩
    rw [requestFor, hp, ← Option.some.inj (hlive.symm.trans hsb), ← hname]
    rfl
  constructor
  · intro f hlog
    rw [logged, World.react, respond_of_effective]
    by_cases hf : f.effective
    · exact absurd hlog (not_createsRecorded_create hcreate hf)
    · simp only [hf, Bool.false_eq_true, if_false]
      exact h₁.truthful
  · intro f s₂ hR₂
    cases f with
    | served =>
        show Prog.Then _ _ _ _ _ (World.serve X s₁.1 (.rpc (.createSandbox _))).2 s₂
        rw [hanswer]
        exact fun s₃ hR₃ => (hmade.move hR₂).move hR₃
    | refused e => exact fun s₃ hR₃ => .inl ((h₁.move hR₂.1).move hR₃.1)
    | unheard e =>
        have hlost : Missed key prior
            (logged (World.react X) s₁ (createCall sandbox proto) (.unheard e)).1 :=
          ⟨h₁.present, h₁.recorded_eq,
            ⟨_, List.mem_append_right _ List.mem_cons_self, hcreate, rfl, by simp [Fate.isServed]⟩⟩
        have hlog := fun s₃ (hR₃ : (undisturbed key workspace).logged s₂ s₃) =>
          ((undisturbed key workspace).logged.trans hR₂ hR₃)
        exact fun s₃ hR₃ => .inr (hlost.move (hlog s₃ hR₃).1
          ((hlog s₃ hR₃).2.trans (List.append_nil _).symm))

/-- What a converge ends with: the sandbox of the hash to record, or an error before any
creation or with a lost one. -/
def ConvergeOutcome (X : Externals) (key : Key) (workspace : String) (prior : Option String)
    (r : Except Error Converged) (s : World × List (Call × Fate Outage)) : Prop :=
  match r with
  | .ok converged => Made X key workspace converged.appliedSpecHash s
  | .error _ => Clean X key workspace prior s.1 ∨ Missed key prior s

theorem Clean.failed (err : Error) (s s' : World × List (Call × Fate Outage))
    (h : Clean X key workspace prior s.1) (hR : (undisturbed key workspace).logged s s') :
    ConvergeOutcome X key workspace prior (.error err) s' := .inl (h.move hR.1)

/-- A create, with the hash to record put beside what it returns. -/
theorem converged_of_create {α : Type} {p : Op α} {hash : String} {g : α → Converged}
    {s : World × List (Call × Fate Outage)} (hg : ∀ a, (g a).appliedSpecHash = hash)
    (h : p.Safe (logged (World.react X)) (undisturbed key workspace).logged
      (Accounts X key workspace) (CreateOutcome X key workspace prior hash) s) :
    (p >>= fun a => pure (g a)).Safe (logged (World.react X)) (undisturbed key workspace).logged
      (Accounts X key workspace) (ConvergeOutcome X key workspace prior) s := by
  refine Prog.Safe.bind (Prog.Safe.mono (fun _ _ h => h) ?_ h)
  intro r s hr
  cases r with
  | ok a =>
      intro s' hR
      have hmade := Made.move hr hR
      rw [← hg a] at hmade
      exact hmade
  | error err =>
      intro s' hR
      rcases hr with hr | hr
      · exact .inl (hr.move hR.1)
      · exact .inr (hr.move hR.1 (hR.2.trans (List.append_nil _).symm))

/-- Looking the sandbox up: if the answer is none, it is gone. -/
theorem getSandbox_clean (hname : sandbox.metadata.name = key.name)
    (hws : sandbox.spec.workspaceOf = workspace) {α : Type} {g : Option SandboxState → Op α}
    {Q : Except Error α → World × List (Call × Fate Outage) → Prop}
    {s : World × List (Call × Fate Outage)} (h : Clean X key workspace prior s.1)
    (hg : ∀ found s', Clean X key workspace prior s'.1 →
      (found = none → live key workspace s'.1 = none) →
      (g found).Safe (logged (World.react X)) (undisturbed key workspace).logged
        (Accounts X key workspace) Q s')
    (he : ∀ err s', Clean X key workspace prior s'.1 → Q (.error err) s') :
    (SdkGateway.getSandbox sandbox.metadata.name sandbox.spec.workspaceOf >>= g).Safe
      (logged (World.react X)) (undisturbed key workspace).logged (Accounts X key workspace)
      Q s := by
  refine Prog.Safe.bind (SdkGateway.getSandbox_safe (over_logged _) (fun s₁ hR => ?_))
  have h₁ := h.move hR.1
  have hread : ∀ f, undisturbed key workspace s₁.1 (World.react X s₁.1 (.rpc (.getSandbox
      sandbox.metadata.name (workspaceScope sandbox.spec.workspaceOf))) f).1 :=
    fun f => upkeep_undisturbed (.inl .getSandbox) f
  refine ⟨fun f _ => (h₁.move (hread f)).truthful, fun f s₂ hR₂ r hr => ?_⟩
  have h₂ := (h₁.move (hread f)).move hR₂.1
  cases r with
  | error err => exact fun s₃ hR₃ => he err s₃ (h₂.move hR₃.1)
  | ok found =>
      refine hg found s₂ h₂ (fun hnone => ?_)
      have hobs := hr found rfl
      rw [hnone, SdkGateway.observed, hname, hws, eq_comm, Option.map_eq_none_iff] at hobs
      exact undisturbed_gone ((undisturbed key workspace).trans (hread f) hR₂.1) hobs

theorem awaitGone_made (hname : sandbox.metadata.name = key.name)
    (hws : sandbox.spec.workspaceOf = workspace) {policy : Option OpenShellPolicySpec}
    {proto : Option SandboxPolicy} (hp : resolvedProto X policy = .ok proto) :
    ∀ (attempts : ℕ) (s : World × List (Call × Fate Outage)), Clean X key workspace prior s.1 →
      (awaitGone sandbox.metadata.name sandbox proto attempts).Safe (logged (World.react X))
        (undisturbed key workspace).logged (Accounts X key workspace)
        (CreateOutcome X key workspace prior (immutableFingerprint X sandbox.spec policy)) s
  | 0, s, h => fun s' hR => .inl (h.move hR.1)
  | attempts + 1, s, h => by
      refine getSandbox_clean hname hws h (fun found s₁ h₁ hgone => ?_) (fun _ _ h => .inl h)
      cases found with
      | none => exact create_made hname hws hp h₁ (hgone rfl)
      | some state => exact awaitGone_made hname hws hp attempts s₁ h₁

theorem convergeWith_made (hname : sandbox.metadata.name = key.name)
    (hws : sandbox.spec.workspaceOf = workspace)
    (hprior : prior = sandbox.status.bind (·.appliedSpecHash))
    (existing : Option SandboxState) (resolved : Except Error ResolvedPolicy)
    (hres : ∀ r, resolved = .ok r → resolvedProto X r.spec = .ok r.proto)
    {s : World × List (Call × Fate Outage)} (h : Clean X key workspace prior s.1)
    (hgone : existing = none → live key workspace s.1 = none) :
    (convergeWith X sandbox.metadata.name sandbox existing resolved).Safe
      (logged (World.react X)) (undisturbed key workspace).logged (Accounts X key workspace)
      (ConvergeOutcome X key workspace prior) s := by
  have hup : ∀ {α : Type} {p : Op α}, p.Calls (Upkeep key.scope sandbox) →
      p.Calls (fun c => Upkeep key.scope sandbox c ∨ c = deleteCall sandbox) :=
    fun h => h.mono (fun _ => .inl)
  cases existing with
  | none =>
      cases resolved with
      | error err => exact fun s' hR => h.failed err s s' hR
      | ok resolved =>
          exact converged_of_create (fun _ => rfl)
            (create_made hname hws (hres resolved rfl) h (hgone rfl))
  | some existing =>
      cases resolved with
      | error err =>
          exact Prog.Safe.bind_inv (upkeep_clean (hup (convergeProviders_calls _ existing)) h)
            (fun _ s₁ h₁ s₂ hR => h₁.failed err s₁ s₂ hR) Clean.failed
      | ok resolved =>
          show Prog.Safe _ _ _ _ (ite _ _ _) s
          split_ifs with hdrift
          · refine Prog.Safe.bind_inv (upkeep_clean (hup (recordEvent_calls _)) h)
              (fun _ s₁ h₁ => ?_) Clean.failed
            refine converged_of_create (fun _ => rfl) ?_
            refine Prog.Safe.bind_inv (upkeep_clean
              (Prog.Calls.bind (Prog.calls_perform (.inr rfl)) (fun _ => Prog.calls_pure _)) h₁)
              (fun _ s₂ h₂ => awaitGone_made hname hws (hres resolved rfl) _ s₂ h₂)
              (fun _ s₁ s₂ h hR => .inl (h.move hR.1))
          · have hkept := hashDrifted_eq_false (Bool.eq_false_iff.mpr hdrift)
            refine Prog.Safe.bind_inv (upkeep_clean (hup (convergeProviders_calls _ existing)) h)
              (fun _ s₁ h₁ => ?_) Clean.failed
            refine Prog.Safe.bind_inv
              (upkeep_clean (hup (updatePolicyIfDrifted_calls _ _ _)) h₁)
              (fun _ s₂ h₂ s₃ hR => ?_) Clean.failed
            have h₃ := h₂.move hR.1
            refine ⟨h₃.present, fun sb hsb => ?_, .inl h₃.truthful⟩
            obtain ⟨hash, hrec, hfrom⟩ := h₃.truthful sb hsb
            rw [h₃.recorded_eq, hprior] at hrec
            rw [hkept hash hrec] at hfrom
            exact hfrom

theorem converge_made (hname : sandbox.metadata.name = key.name)
    (hws : sandbox.spec.workspaceOf = workspace)
    (hprior : prior = sandbox.status.bind (·.appliedSpecHash))
    {s : World × List (Call × Fate Outage)} (h : Clean X key workspace prior s.1) :
    (converge X key.scope sandbox.metadata.name sandbox).Safe (logged (World.react X))
      (undisturbed key workspace).logged (Accounts X key workspace)
      (ConvergeOutcome X key workspace prior) s := by
  refine Prog.Safe.bind_inv (I := fun s => Clean X key workspace prior s.1)
    (fun _ hR => h.move hR.1) (fun _ s₁ h₁ => ?_) Clean.failed
  refine Prog.Safe.bind_inv (upkeep_clean (ensurePvcs_calls.mono (fun _ => .inl)) h₁)
    (fun _ s₂ h₂ => ?_) Clean.failed
  refine getSandbox_clean hname hws h₂ (fun existing s₃ h₃ hgone => ?_) (fun _ _ h => .inl h)
  have hpolicy : ∀ w name f, undisturbed key workspace w
      (World.react X w (.kube (.getPolicy key.scope name)) f).1 :=
    fun w name f => upkeep_undisturbed (.inl (.getPolicy name : Upkeep key.scope sandbox _)) f
  refine Prog.Safe.bind (Prog.Safe.attempt (resolve_safe (over_logged _) ?_ ?_))
  · exact fun s₄ name hR f _ => ((h₃.move hR.1).move (hpolicy s₄.1 name f)).truthful
  · intro s₄ s₅ hR hread r hr
    have hmove : undisturbed key workspace s₃.1 s₅.1 := by
      rcases hread with hR' | ⟨name, f, hR'⟩
      · exact (undisturbed key workspace).trans hR.1 hR'.1
      · exact (undisturbed key workspace).trans hR.1
          ((undisturbed key workspace).trans (hpolicy s₄.1 name f) hR'.1)
    exact convergeWith_made hname hws hprior existing r
      (fun r' hr' => resolvedIn_proto (hr r' hr')) (h₃.move hmove)
      (fun hnone => undisturbed_gone hmove (hgone hnone))

/-- A status patch that takes effect records its hash; the sandbox stays as it is. -/
theorem patch_recorded (X : Externals) (workspace : String) (status : OpenShellSandboxStatus)
    {w : World} (hpres : Present key w) (f : Fate Outage) :
    recorded key (World.react X w
        (.kube (.patchSandboxStatus key.scope key.name status)) f).1 =
      (if f.effective then status.appliedSpecHash.or (recorded key w) else recorded key w) ∧
    live key workspace (World.react X w
        (.kube (.patchSandboxStatus key.scope key.name status)) f).1 = live key workspace w := by
  rw [World.react, respond_of_effective]
  split_ifs
  · refine ⟨?_, rfl⟩
    exact (recorded_patch key status).trans (if_pos hpres)
  · exact ⟨rfl, rfl⟩

/-- The success status accounts for the creation. -/
theorem success_accounts {now : Time} {converged : Converged}
    {s : World × List (Call × Fate Outage)}
    (h : Made X key workspace converged.appliedSpecHash s) :
    Accounts X key workspace s
      (.kube (.patchSandboxStatus key.scope key.name (successStatus now sandbox converged))) := by
  intro f hlog sb hsb
  obtain ⟨hrec, hlive⟩ := patch_recorded X workspace (successStatus now sandbox converged)
    h.present f
  by_cases hf : f.effective
  · rw [if_pos hf] at hrec
    exact ⟨converged.appliedSpecHash, hrec, h.made sb (hlive.symm.trans hsb)⟩
  · rw [if_neg hf] at hrec
    have hbefore := CreatesRecorded.init hlog (fun h => hf h.2)
    rcases h.origin with ho | ⟨before, c, ho, hc⟩
    · obtain ⟨hash, hh, hfrom⟩ := ho sb (hlive.symm.trans hsb)
      exact ⟨hash, hrec.trans hh, hfrom⟩
    · rw [ho] at hbefore
      exact absurd hbefore (not_createsRecorded_create hc rfl)

/-- What holds after a failed converge, and while the failure is reported. -/
def Failed (X : Externals) (key : Key) (workspace : String) (prior : Option String)
    (s : World × List (Call × Fate Outage)) : Prop :=
  Clean X key workspace prior s.1 ∨ Missed key prior s

theorem Failed.move {s s' : World × List (Call × Fate Outage)}
    (h : Failed X key workspace prior s) (hR : undisturbed key workspace s.1 s'.1)
    {l : List (Call × Fate Outage)} (hlog : s'.2 = s.2 ++ l) : Failed X key workspace prior s' := by
  rcases h with h | h
  · exact .inl (h.move hR)
  · exact .inr (h.move hR hlog)

theorem Failed.accounted {s : World × List (Call × Fate Outage)}
    (h : Failed X key workspace prior s) : Accounted X key workspace s := by
  intro hlog
  rcases h with h | h
  · exact h.truthful
  · exact absurd hlog h.lost.not_createsRecorded

/-- The failure status keeps the hash that was there. -/
theorem failure_accounts {status : OpenShellSandboxStatus}
    (hst : status.appliedSpecHash = prior) {s : World × List (Call × Fate Outage)}
    (h : Failed X key workspace prior s) :
    Accounts X key workspace s (.kube (.patchSandboxStatus key.scope key.name status)) := by
  intro f hlog sb hsb
  rcases h with h | h
  · obtain ⟨hrec, hlive⟩ := patch_recorded X workspace status h.present f
    obtain ⟨hash, hh, hfrom⟩ := h.truthful sb (hlive.symm.trans hsb)
    refine ⟨hash, ?_, hfrom⟩
    rw [h.recorded_eq] at hh
    refine hrec.trans ?_
    rw [hst, h.recorded_eq, hh]
    split_ifs <;> rfl
  · exact absurd hlog (h.lost.append _).not_createsRecorded

theorem apply_accounts (hns : sandbox.metadata.namespace_ = some key.scope)
    (hname : sandbox.metadata.name = key.name) (hws : sandbox.spec.workspaceOf = workspace)
    (now : Time) {s : World × List (Call × Fate Outage)}
    (h : Clean X key workspace (sandbox.status.bind (·.appliedSpecHash)) s.1) :
    (apply X now sandbox).Safe (logged (World.react X)) (undisturbed key workspace).logged
      (Accounts X key workspace) (fun _ _ => True) s := by
  have hpatch : ∀ {status : OpenShellSandboxStatus} {s₁ : World × List (Call × Fate Outage)},
      (∀ s₂, (undisturbed key workspace).logged s₁ s₂ → Accounts X key workspace s₂
        (.kube (.patchSandboxStatus key.scope key.name status))) →
      (patchStatus key.scope sandbox.metadata.name status).Safe (logged (World.react X))
        (undisturbed key workspace).logged (Accounts X key workspace) (fun _ _ => True) s₁ := by
    intro status s₁ hacc
    rw [hname]
    exact Prog.safe_perform (fun s₂ hR => ⟨hacc s₂ hR, fun _ _ _ => trivial⟩)
  unfold apply
  rw [hns]
  refine Prog.Safe.bind (Prog.Safe.attempt (Prog.Safe.mono (fun _ _ h => h) ?_
    (converge_made hname hws rfl h)))
  intro r s₁ hr
  cases r with
  | ok converged =>
      have hmade : Made X key workspace converged.appliedSpecHash s₁ := hr
      exact Prog.Safe.bind_inv (I := fun _ => True)
        (hpatch (fun s₂ hR => success_accounts (hmade.move hR)))
        (fun _ _ _ _ _ => trivial) (fun _ _ _ _ _ => trivial)
  | error err =>
      have hstay : ∀ s s', Failed X key workspace (sandbox.status.bind (·.appliedSpecHash)) s →
          (undisturbed key workspace).logged s s' →
          Failed X key workspace (sandbox.status.bind (·.appliedSpecHash)) s' :=
        fun s s' h hR => h.move hR.1 (hR.2.trans (List.append_nil _).symm)
      have hcall : ∀ s c, Failed X key workspace (sandbox.status.bind (·.appliedSpecHash)) s →
          Upkeep key.scope sandbox c → ∀ f,
          Failed X key workspace (sandbox.status.bind (·.appliedSpecHash))
            (logged (World.react X) s c f).1 :=
        fun s c h hc f => h.move (upkeep_undisturbed (.inl hc) f) rfl
      refine Prog.Safe.bind_inv (Prog.Calls.safe_inv hstay
        (fun s c h hc => ⟨fun f => (hcall s c h hc f).accounted, hcall s c h hc⟩)
        (recordEvent_calls _) hr) (fun _ s₂ h₂ => ?_) (fun _ _ _ _ _ => trivial)
      have hkeep : (failureStatus now sandbox err).appliedSpecHash =
          sandbox.status.bind (·.appliedSpecHash) := by
        unfold failureStatus
        cases sandbox.status <;> rfl
      exact Prog.Safe.bind_inv (I := fun _ => True) (Prog.Safe.attempt (hpatch
        (fun s₃ hR => failure_accounts hkeep (hstay s₂ s₃ h₂ hR))))
        (fun _ _ _ _ _ => trivial) (fun _ _ _ _ _ => trivial)

end reconcile

namespace Sample

/-- A cluster without policies; fingerprints are the texts of their materials. -/
def externals : Externals where
  toYaml _ := .error "unsupported"
  parseSandboxPolicy _ := .error "unsupported"
  digest := Json.text
  digestBytes bytes := String.ofList (bytes.map (fun b => Char.ofNat b.toNat))
  accepts _ _ := true
  printable c := 0x20 ≤ c.toNat && c.toNat < 0x7F

/-- A sandbox resource with an image and nothing else. -/
def resource (image : String) (status : Option OpenShellSandboxStatus) : OpenShellSandbox where
  metadata := { name := "dev", namespace_ := some "team", finalizers := [finalizerName] }
  spec := { image := some image }
  status := status

/-- The resource is there, the sandbox is not. -/
def fresh (image : String) : World :=
  { cluster := { sandboxes := (∅ : KeyMap OpenShellSandbox).insert key (resource image none) } }

/-- A first reconcile of a new resource: lookup, create and status patch. -/
def firstRun : Prog Call.Answer Error Action × World :=
  Prog.exec (World.react externals) (List.replicate 3 .served)
    (apply externals 0 (resource "a" none)) (fresh "a")

/-- The operator stops between the create and the status patch. -/
def stopped : World :=
  (Prog.exec (World.react externals) (List.replicate 2 .served)
    (apply externals 0 (resource "a" none)) (fresh "a")).2

/-- The image is edited. -/
def edited : World :=
  { stopped with
    cluster := { stopped.cluster with
      sandboxes := stopped.cluster.sandboxes.insert key (resource "b" none) } }

/-- The next reconcile adopts the sandbox and records the hash of the edited spec. -/
def adopted : World :=
  (Prog.exec (World.react externals) (List.replicate 2 .served)
    (apply externals 0 (resource "b" none)) edited).2

/-- The image of a create request. -/
def imageOf (request : CreateSandboxRequest) : Option String :=
  (request.spec.bind (·.template)).map (·.image)

theorem imageOf_requestFor {name image : String} {spec : OpenShellSandboxSpec}
    {policy : Option OpenShellPolicySpec} {request : CreateSandboxRequest}
    (h : requestFor externals name spec policy = .ok request) (hi : spec.image = some image) :
    imageOf request = some image := by
  unfold requestFor at h
  cases hp : resolvedProto externals policy with
  | error err => simp [hp, Except.map] at h
  | ok proto =>
      simp only [hp, Except.map, Except.ok.injEq] at h
      rw [← h]
      simp [imageOf, createSandboxRequest, buildSandboxCreate, SandboxCreate.needsTemplate, hi]

end Sample
end SandboxController
end OpenShell
