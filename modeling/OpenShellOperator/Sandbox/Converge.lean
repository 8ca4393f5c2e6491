import OpenShellOperator.Sandbox.Provision

/-! # Converging and resting

`converged_then_rests`: from a gateway without the sandbox, or with one whose recorded hashes
are those of the inputs it was last created or updated with, a `converge` that succeeds leaves
the sandbox with the desired immutable fields, providers and mutable policy sections, and a
second `converge` on the resulting state, with the returned hashes recorded, only reads.  A
sandbox whose deletion had been accepted before is left to go when its recorded spec hash is the
desired one (`leaving_sandbox_goes`); with any other hash it is made anew.

While a converge runs, the gateway may change the phase of the sandbox and finish a deletion
it has accepted (`settling`).  The results of the single steps are stated with `Held`: what is
known of the sandbox, wherever it is still there. -/

namespace OpenShell
open Wire Effects

namespace SandboxController

/-! ### Interference and what is known of the sandbox -/

section held
variable (key : Key) (workspace : String)

/-- The claims and policies of the cluster are those of `k`. -/
def Same (k : Cluster) (w : World) : Prop :=
  w.cluster.pvcs = k.pvcs ∧ w.cluster.policies = k.policies

/-- The gateway changes the phase of the sandbox, and removes it if its deletion has been
accepted. -/
def Settles (w w' : World) : Prop :=
  (∀ s', live key workspace w' = some s' →
    ∃ s, live key workspace w = some s ∧ s' = { s with phase := s'.phase }) ∧
  ∀ s, live key workspace w = some s → s.deleting = false → (live key workspace w').isSome

theorem Settles.refl (w : World) : Settles key workspace w w :=
  ⟨fun s' h => ⟨s', h, rfl⟩, fun s h _ => by rw [h]; rfl⟩

variable {key workspace} in
theorem Settles.trans {w₁ w₂ w₃ : World} (h : Settles key workspace w₁ w₂)
    (h' : Settles key workspace w₂ w₃) : Settles key workspace w₁ w₃ := by
  refine ⟨fun s' hs' => ?_, fun s hs hd => ?_⟩
  · obtain ⟨t, ht, he⟩ := h'.1 s' hs'
    obtain ⟨u, hu, he'⟩ := h.1 t ht
    refine ⟨u, hu, he.trans ?_⟩
    rw [he']
  · obtain ⟨t, ht⟩ := Option.isSome_iff_exists.mp (h.2 s hs hd)
    obtain ⟨u, hu, he⟩ := h.1 t ht
    rw [hs] at hu
    refine h'.2 t ht ?_
    rw [he, ← Option.some.inj hu]
    exact hd

/-- While a converge runs, the sandbox settles; claims and policies stay. -/
def settling : Rely World where
  rel w w' := Same w.cluster w' ∧ Settles key workspace w w'
  refl w := ⟨⟨rfl, rfl⟩, .refl key workspace w⟩
  trans h h' := ⟨⟨h'.1.1.trans h.1.1, h'.1.2.trans h.1.2⟩, h.2.trans h'.2⟩

/-- What is known of the sandbox: its request, policy and providers; it is gone only if its
deletion had been accepted before (`deleting`). -/
structure Held (k : Cluster) (request : CreateSandboxRequest) (policy : Option SandboxPolicy)
    (deleting : Bool) (providers : List String → Prop) (w : World) : Prop where
  same : Same k w
  sandbox : ∀ s, live key workspace w = some s →
    s.request = request ∧ s.policy = policy ∧ s.deleting = deleting ∧ providers s.providers
  gone : live key workspace w = none → deleting = true

end held

section held
variable {key : Key} {workspace : String} {k : Cluster} {request : CreateSandboxRequest}
  {policy policy' : Option SandboxPolicy} {deleting : Bool} {P P' : List String → Prop} {w w' : World}

theorem Same.move (h : Same k w) (hR : settling key workspace w w') : Same k w' :=
  ⟨hR.1.1.trans h.1, hR.1.2.trans h.2⟩

theorem Held.move (h : Held key workspace k request policy deleting P w)
    (hR : settling key workspace w w') : Held key workspace k request policy deleting P w' := by
  refine ⟨h.same.move hR, fun s' hs' => ?_, fun hnone => ?_⟩
  · obtain ⟨s, hs, he⟩ := hR.2.1 s' hs'
    rw [he]
    exact h.sandbox s hs
  · cases hl : live key workspace w with
    | none => exact h.gone hl
    | some s =>
        cases hd : deleting with
        | true => rfl
        | false =>
            have hlive := hR.2.2 s hl ((h.sandbox s hl).2.2.1.trans hd)
            rw [hnone] at hlive
            cases hlive

theorem Held.mono (h : Held key workspace k request policy deleting P w)
    (hP : ∀ l, P l → P' l) : Held key workspace k request policy deleting P' w := by
  refine ⟨h.same, fun s hs => ?_, h.gone⟩
  obtain ⟨hr, hp, hd, hps⟩ := h.sandbox s hs
  exact ⟨hr, hp, hd, hP s.providers hps⟩

theorem settling_gone (hR : settling key workspace w w') (h : live key workspace w = none) :
    live key workspace w' = none := by
  cases hl : live key workspace w' with
  | none => rfl
  | some s' =>
      obtain ⟨s, hs, -⟩ := hR.2.1 s' hl
      rw [h] at hs
      cases hs

theorem modifySandbox_ok {g : Gateway} {key : Key}
    {f : GatewaySandbox → Except Error GatewaySandbox}
    (h : (g.modifySandbox key f).2 = .ok ()) :
    ∃ s s', g.sandboxes[key]? = some s ∧ f s = .ok s' ∧
      (g.modifySandbox key f).1 = { g with sandboxes := g.sandboxes.insert key s' } := by
  unfold Gateway.modifySandbox at h ⊢
  cases hs : g.sandboxes[key]? with
  | none => simp [hs] at h
  | some s =>
      cases hf : f s with
      | error err => simp [hs, hf] at h
      | ok s' => exact ⟨s, s', rfl, hf, by simp only [hf]⟩

/-- A call that changes the sandbox, if it is answered. -/
theorem Held.modify {f : GatewaySandbox → Except Error GatewaySandbox}
    (h : Held key workspace k request policy deleting P w)
    (hok : (w.gateway.modifySandbox ((workspaceScope workspace).key key.name) f).2 = .ok ())
    (hf : ∀ s s', f s = .ok s' → s.policy = policy → P s.providers →
      s'.request = s.request ∧ s'.policy = policy' ∧ s'.deleting = s.deleting ∧ P' s'.providers) :
    Held key workspace k request policy' deleting P'
      { w with gateway := (w.gateway.modifySandbox ((workspaceScope workspace).key key.name) f).1 } := by
  obtain ⟨s, s', hs, hfs, hgw⟩ := modifySandbox_ok hok
  obtain ⟨hr, hp, hd, hP⟩ := h.sandbox s hs
  obtain ⟨hr', hp', hd', hP'⟩ := hf s s' hfs hp hP
  have hlive : live key workspace { w with
      gateway := (w.gateway.modifySandbox ((workspaceScope workspace).key key.name) f).1 } =
        some s' := by
    show (w.gateway.modifySandbox _ f).1.sandboxes[_]? = some s'
    rw [hgw, KeyMap.get?_insert, if_pos rfl]
  refine ⟨h.same, fun s₁ hs₁ => ?_, fun hnone => ?_⟩
  · rw [hlive] at hs₁
    rw [← Option.some.inj hs₁]
    exact ⟨hr'.trans hr, hp', hd'.trans hd, hP'⟩
  · rw [hlive] at hnone
    cases hnone

end held

/-! ### The steps of a converge -/

section steps
variable {X : Externals} {key : Key} {workspace : String} {k : Cluster}
  {request : CreateSandboxRequest} {policy : Option SandboxPolicy} {deleting : Bool}
  {P P' : List String → Prop} {w : World}

/-- The providers with one more. -/
def withProvider (provider : String) (l : List String) : List String :=
  if l.contains provider then l else l ++ [provider]

theorem mem_withProvider {provider : String} {l : List String} {x : String} :
    x ∈ withProvider provider l ↔ x ∈ l ∨ x = provider := by
  unfold withProvider
  split_ifs with hc
  · have hmem := List.contains_iff_mem.mp hc
    exact ⟨.inl, fun hx => hx.elim id (fun he => he ▸ hmem)⟩
  · simp

theorem attachProvider_yields {provider : String}
    (h : Held key workspace k request policy deleting P w)
    (hP : ∀ l, P l → P' (withProvider provider l)) :
    (SdkGateway.attachProvider key.name provider workspace).Yields (World.react X)
      (settling key workspace) w
      (fun _ w' => Held key workspace k request policy deleting P' w') := by
  refine yields_perform (fun w₁ hw₁ a ha w₂ hw₂ => ?_)
  refine (Held.modify (h.move hw₁) ha (fun s s' hs hp hPs => ?_)).move hw₂
  unfold Gateway.attach at hs
  split at hs <;> cases hs
  exact ⟨rfl, hp, rfl, hP s.providers hPs⟩

theorem detachProvider_yields {provider : String}
    (h : Held key workspace k request policy deleting P w)
    (hP : ∀ l, P l → P' (l.filter (· != provider))) :
    (SdkGateway.detachProvider key.name provider workspace).Yields (World.react X)
      (settling key workspace) w
      (fun _ w' => Held key workspace k request policy deleting P' w') := by
  refine yields_perform (fun w₁ hw₁ a ha w₂ hw₂ => ?_)
  refine (Held.modify (h.move hw₁) ha (fun s s' hs hp hPs => ?_)).move hw₂
  cases hs
  exact ⟨rfl, hp, rfl, hP s.providers hPs⟩

/-- What is known of the providers while `todo` is still to be attached. -/
def Attaching (current attach todo l : List String) : Prop :=
  (∀ x ∈ l, x ∈ current ∨ x ∈ attach) ∧ (∀ x ∈ current, x ∈ l) ∧ ∀ x ∈ attach, x ∈ todo ∨ x ∈ l

/-- What is known of the providers while `todo` is still to be detached. -/
def Detaching (current attach detach todo l : List String) : Prop :=
  (∀ x ∈ l, x ∈ current ∨ x ∈ attach) ∧ (∀ x, x ∈ current ∨ x ∈ attach → x ∉ detach → x ∈ l) ∧
    ∀ x ∈ detach, x ∈ todo ∨ x ∉ l

theorem Attaching.step {current attach todo l : List String} {x : String}
    (hx : x ∈ attach) (h : Attaching current attach (x :: todo) l) :
    Attaching current attach todo (withProvider x l) := by
  obtain ⟨hsub, hcur, hatt⟩ := h
  refine ⟨fun y hy => ?_, fun y hy => mem_withProvider.mpr (.inl (hcur y hy)), fun y hy => ?_⟩
  · rcases mem_withProvider.mp hy with hy | rfl
    · exact hsub y hy
    · exact .inr hx
  · rcases hatt y hy with hy' | hy'
    · rcases List.mem_cons.mp hy' with rfl | hy'
      · exact .inr (mem_withProvider.mpr (.inr rfl))
      · exact .inl hy'
    · exact .inr (mem_withProvider.mpr (.inl hy'))

theorem Detaching.step {current attach detach todo l : List String} {x : String}
    (hx : x ∈ detach) (h : Detaching current attach detach (x :: todo) l) :
    Detaching current attach detach todo (l.filter (· != x)) := by
  obtain ⟨hsub, hkeep, hdet⟩ := h
  have hmem : ∀ y, y ∈ l.filter (· != x) ↔ y ∈ l ∧ y ≠ x := by simp
  refine ⟨fun y hy => hsub y ((hmem y).mp hy).1, fun y hy hd => ?_, fun y hy => ?_⟩
  · refine (hmem y).mpr ⟨hkeep y hy hd, ?_⟩
    rintro rfl
    exact hd hx
  · rcases hdet y hy with hy' | hy'
    · rcases List.mem_cons.mp hy' with rfl | hy'
      · exact .inr (fun h => ((hmem y).mp h).2 rfl)
      · exact .inl hy'
    · exact .inr (fun h => hy' ((hmem y).mp h).1)

/-- Attaching and detaching the delta makes the desired set. -/
theorem providerDelta_set {desired current l : List String}
    (h : Detaching current (providerDelta desired current).1 (providerDelta desired current).2 [] l) :
    ∀ x, x ∈ l ↔ x ∈ desired := by
  have hatt : ∀ x, x ∈ (providerDelta desired current).1 ↔ x ∈ desired ∧ x ∉ current := by
    simp [providerDelta]
  have hdet : ∀ x, x ∈ (providerDelta desired current).2 ↔ x ∈ current ∧ x ∉ desired := by
    simp [providerDelta]
  obtain ⟨hsub, hkeep, hgone⟩ := h
  intro x
  constructor
  · intro hx
    by_contra hnot
    rcases hsub x hx with hc | ha
    · rcases hgone x ((hdet x).mpr ⟨hc, hnot⟩) with h | h
      · cases h
      · exact h hx
    · exact hnot ((hatt x).mp ha).1
  · intro hx
    refine hkeep x ?_ (fun hd => ((hdet x).mp hd).2 hx)
    by_cases hc : x ∈ current
    · exact .inl hc
    · exact .inr ((hatt x).mpr ⟨hx, hc⟩)

/-- `K P`: the providers of the sandbox satisfy `P`.  It is kept by the world's own moves, and
the calls that attach and detach do to the providers what they are meant to. -/
structure Tracks (X : Externals) (R : Rely World) (name workspace : String)
    (K : (List String → Prop) → World → Prop) : Prop where
  move : ∀ {P w w'}, K P w → R w w' → K P w'
  mono : ∀ {P P' : List String → Prop} {w}, K P w → (∀ l, P l → P' l) → K P' w
  attach : ∀ {P P' : List String → Prop} {w provider}, K P w →
    (∀ l, P l → P' (withProvider provider l)) →
    (SdkGateway.attachProvider name provider workspace).Yields (World.react X) R w
      (fun _ w' => K P' w')
  detach : ∀ {P P' : List String → Prop} {w provider}, K P w →
    (∀ l, P l → P' (l.filter (· != provider))) →
    (SdkGateway.detachProvider name provider workspace).Yields (World.react X) R w
      (fun _ w' => K P' w')

/-- **Providers.**  The two loops add up to the desired set. -/
theorem Tracks.convergeProviders {R : Rely World} {name : String}
    {K : (List String → Prop) → World → Prop} (hK : Tracks X R name workspace K)
    {desired : List String} {existing : SandboxState} (h : K (· = existing.providers) w) :
    (convergeProviders name desired existing workspace).Yields (World.react X) R w
      (fun _ w' => K (fun l => ∀ x, x ∈ l ↔ x ∈ desired) w') := by
  -- one loop after the other; what is still to come is a part of the delta
  refine Prog.Yields.bind (Prog.Yields.mono (Prog.Yields.forM
    (J := fun todo w' => (∀ x ∈ todo, x ∈ (providerDelta desired existing.providers).1) ∧
      K (Attaching existing.providers (providerDelta desired existing.providers).1 todo) w')
    (fun hJ hR => ⟨hJ.1, hK.move hJ.2 hR⟩) ?_ _ w ⟨fun _ hx => hx, ?_⟩) ?_)
  · intro x xs w₁ hJ
    refine (hK.attach hJ.2 (fun l hl => hl.step (hJ.1 x List.mem_cons_self))).mono ?_
    exact fun _ w₂ h₂ => ⟨fun y hy => hJ.1 y (List.mem_cons_of_mem x hy), h₂⟩
  · refine hK.mono h ?_
    rintro _ rfl
    exact ⟨fun x hx => .inl hx, fun x hx => hx, fun x hx => .inl hx⟩
  · intro _ w₁ hJ₁
    refine Prog.Yields.mono (Prog.Yields.forM
      (J := fun todo w' => (∀ x ∈ todo, x ∈ (providerDelta desired existing.providers).2) ∧
        K (Detaching existing.providers (providerDelta desired existing.providers).1
          (providerDelta desired existing.providers).2 todo) w')
      (fun hJ hR => ⟨hJ.1, hK.move hJ.2 hR⟩) ?_ _ w₁ ⟨fun _ hx => hx, ?_⟩) ?_
    · intro x xs w₂ hJ
      refine (hK.detach hJ.2 (fun l hl => hl.step (hJ.1 x List.mem_cons_self))).mono ?_
      exact fun _ w₃ h₃ => ⟨fun y hy => hJ.1 y (List.mem_cons_of_mem x hy), h₃⟩
    · refine hK.mono hJ₁.2 ?_
      rintro l ⟨hsub, hcur, hatt⟩
      refine ⟨hsub, fun x hx _ => ?_, fun x hx => .inl hx⟩
      rcases hx with hx | hx
      · exact hcur x hx
      · rcases hatt x hx with h | h
        · cases h
        · exact h
    · exact fun _ w₂ hJ₂ => hK.mono hJ₂.2 (fun l hl => providerDelta_set hl)

theorem convergeProviders_yields {desired : List String} {existing : SandboxState}
    (h : Held key workspace k request policy deleting (· = existing.providers) w) :
    (convergeProviders key.name desired existing workspace).Yields (World.react X)
      (settling key workspace) w
      (fun _ w' => Held key workspace k request policy deleting
        (fun l => ∀ x, x ∈ l ↔ x ∈ desired) w') := by
  have htracks : Tracks X (settling key workspace) key.name workspace
      (Held key workspace k request policy deleting) :=
    { move := Held.move
      mono := fun h hP => h.mono hP
      attach := attachProvider_yields
      detach := detachProvider_yields }
  exact htracks.convergeProviders h

/-- An event changes nothing here. -/
theorem recordEvent_yields {kind : Kind} {object : Key} {event : Event} {I : World → Prop}
    (hI : ∀ w w', I w → settling key workspace w w' → I w') (h : I w) :
    (recordEvent kind object event).Yields (World.react X) (settling key workspace) w
      (fun _ w' => I w') := by
  refine Prog.Yields.bind (yields_attempt (fun w₁ hw₁ => ⟨fun w₂ hw₂ => ?_, fun e w₂ hw₂ => ?_⟩))
  · exact Prog.yields_pure (fun w₃ hw₃ => hI _ _ (hI _ _ (hI _ _ h hw₁) hw₂) hw₃)
  · have hw₂' : settling key workspace w₁ w₂ := hw₂.elim id id
    exact Prog.yields_pure (fun w₃ hw₃ => hI _ _ (hI _ _ (hI _ _ h hw₁) hw₂') hw₃)

theorem updatePolicy_yields {new : SandboxPolicy}
    (h : Held key workspace k request policy deleting P w) :
    (SdkGateway.updatePolicy key.name new workspace).Yields (World.react X)
      (settling key workspace) w
      (fun _ w' => Held key workspace k request (some (Gateway.withMutable policy new)) deleting
        P w') := by
  refine Prog.Yields.bind (yields_attempt (fun w₁ hw₁ => ⟨fun w₂ hw₂ => ?_, fun e w₂ hw₂ => ?_⟩))
  · cases hr : (World.serve X w₁ (.rpc (.updateConfig
        ⟨key.name, some new, some (workspaceScope workspace)⟩))).2 with
    | error err => exact Prog.yields_fail _
    | ok u =>
        refine Prog.yields_pure (fun w₃ hw₃ => ?_)
        refine ((Held.modify (h.move hw₁) hr (fun s s' hs hp hPs => ?_)).move hw₂).move hw₃
        simp only [Gateway.updateConfig] at hs
        split_ifs at hs
        cases hs
        exact ⟨rfl, by rw [hp], rfl, hPs⟩
  · exact Prog.yields_fail _

theorem create_yields {sandbox : OpenShellSandbox} (hws : sandbox.spec.workspaceOf = workspace)
    (hsame : Same k w) (hgone : live key workspace w = none) (proto : Option SandboxPolicy) :
    (create key.name sandbox proto).Yields (World.react X) (settling key workspace) w
      (fun _ w' => Held key workspace k
        (createSandboxRequest (buildSandboxCreate key.name sandbox.spec proto)) proto false
        (· = sandbox.spec.providers) w') := by
  refine Prog.Yields.bind (yields_perform (fun w₁ hw₁ a ha w₂ hw₂ => ?_))
  obtain ⟨hlive, hserved⟩ := serve_create (X := X)
    (requestKey_create hws proto) (settling_gone hw₁ hgone)
  have hheld : Held key workspace k
      (createSandboxRequest (buildSandboxCreate key.name sandbox.spec proto)) proto false
      (· = sandbox.spec.providers) (World.serve X w₁ (.rpc (.createSandbox (createSandboxRequest
        (buildSandboxCreate key.name sandbox.spec proto))))).1 := by
    have hsame₁ := hsame.move hw₁
    refine ⟨⟨hsame₁.1, hsame₁.2⟩, fun s hs => ?_, fun hnone => ?_⟩
    · rw [hlive] at hs
      rw [← Option.some.inj hs]
      exact ⟨rfl, rfl, rfl, rfl⟩
    · rw [hlive] at hnone
      cases hnone
  rw [← Except.ok.inj (hserved.symm.trans ha)]
  exact Prog.yields_pure (fun w₃ hw₃ => (hheld.move hw₂).move hw₃)

theorem getSandbox_observed {Q : Option SandboxState → World → Prop}
    (h : ∀ w₁ w₂, settling key workspace w w₁ → settling key workspace w₁ w₂ →
      Q ((live key workspace w₁).map (fun s => sandboxState (Gateway.report s))) w₂) :
    (SdkGateway.getSandbox key.name workspace).Yields (World.react X) (settling key workspace) w Q :=
  SdkGateway.getSandbox_yields (fun w₁ hw₁ w₂ hw₂ => h w₁ w₂ hw₁ hw₂)

theorem awaitGone_yields {sandbox : OpenShellSandbox} (hws : sandbox.spec.workspaceOf = workspace)
    (proto : Option SandboxPolicy) : ∀ (attempts : ℕ) (w : World), Same k w →
    (awaitGone key.name sandbox proto attempts).Yields (World.react X) (settling key workspace) w
      (fun _ w' => Held key workspace k
        (createSandboxRequest (buildSandboxCreate key.name sandbox.spec proto)) proto false
        (· = sandbox.spec.providers) w')
  | 0, w, _ => Prog.yields_fail _
  | attempts + 1, w, hsame => by
      unfold awaitGone
      rw [hws]
      refine Prog.Yields.bind (getSandbox_observed (fun w₁ w₂ hw₁ hw₂ => ?_))
      have hsame₂ := (hsame.move hw₁).move hw₂
      cases hl : live key workspace w₁ with
      | none => exact create_yields hws hsame₂ (settling_gone hw₂ hl) proto
      | some s => exact awaitGone_yields hws proto attempts w₂ hsame₂

theorem recreate_yields {sandbox : OpenShellSandbox} (hws : sandbox.spec.workspaceOf = workspace)
    (hsame : Same k w) (proto : Option SandboxPolicy) :
    (recreate key.name sandbox proto).Yields (World.react X) (settling key workspace) w
      (fun _ w' => Held key workspace k
        (createSandboxRequest (buildSandboxCreate key.name sandbox.spec proto)) proto false
        (· = sandbox.spec.providers) w') := by
  refine Prog.Yields.bind (Prog.Yields.bind (yields_perform (fun w₁ hw₁ a _ w₂ hw₂ => ?_)))
  refine Prog.yields_pure (fun w₃ hw₃ => awaitGone_yields hws proto _ w₃ ?_)
  have hsame₁ := hsame.move hw₁
  have hcluster : Same k (World.serve X w₁ (.rpc (.deleteSandbox key.name
      (workspaceScope sandbox.spec.workspaceOf)))).1 := ⟨hsame₁.1, hsame₁.2⟩
  exact (hcluster.move hw₂).move hw₃

/-- What is known while the claims of `todo` are still to be ensured: the sandbox has settled
since `w`, the policies are those of `w`, and the other claims are ready. -/
def Ensuring (key : Key) (workspace : String) (volumes : List SandboxVolume) (w : World)
    (todo : List SandboxVolume) (w' : World) : Prop :=
  Settles key workspace w w' ∧ w'.cluster.policies = w.cluster.policies ∧
    ∀ volume ∈ volumes, volume ∈ todo ∨
      ClaimReady workspace ⟨key.scope, Volumes.pvcName key.name volume⟩ w'.cluster

theorem Ensuring.move {volumes todo : List SandboxVolume} {w w₁ w₂ : World}
    (h : Ensuring key workspace volumes w todo w₁) (hR : settling key workspace w₁ w₂) :
    Ensuring key workspace volumes w todo w₂ := by
  refine ⟨h.1.trans hR.2, hR.1.2.trans h.2.1, fun volume hv => ?_⟩
  exact (h.2.2 volume hv).imp_right (fun hready => hready.congr hR.1.1)

/-- A claim that has been written is ready. -/
theorem Ensuring.insert {volumes todo : List SandboxVolume} {volume : SandboxVolume}
    {w w₁ : World} {pvc : PersistentVolumeClaim}
    (h : Ensuring key workspace volumes w (volume :: todo) w₁)
    (hpvc : hasLabels pvc (Volumes.admissionLabels workspace)) :
    Ensuring key workspace volumes w todo { w₁ with cluster := { w₁.cluster with
      pvcs := w₁.cluster.pvcs.insert ⟨key.scope, Volumes.pvcName key.name volume⟩ pvc } } := by
  refine ⟨h.1, h.2.1, fun v hv => ?_⟩
  rcases h.2.2 v hv with hv' | hready
  · rcases List.mem_cons.mp hv' with rfl | hv'
    · exact .inr (claimReady_insert_self hpvc)
    · exact .inl hv'
  · exact .inr (hready.insert hpvc)

theorem ensurePvc_yields {volumes todo : List SandboxVolume} {volume : SandboxVolume}
    {w w₁ : World} (h : Ensuring key workspace volumes w (volume :: todo) w₁) :
    (ensurePvc key.scope key.name workspace volume).Yields (World.react X)
      (settling key workspace) w₁ (fun _ w₂ => Ensuring key workspace volumes w todo w₂) := by
  refine ensurePvc_safe (fun hw => hw.1.1) (fun _ _ => trivial) ?_ ?_
  · intro w₂ c hw₂ _
    refine ⟨trivial, fun w₃ hw₃ => ?_⟩
    exact ((h.move hw₂).insert hasLabels_provisioned).move hw₃
  · intro w₂ hw₂ hnone
    obtain ⟨pvc, hget, hlabels⟩ := writeOf_eq_none.mp hnone
    have h₂ := h.move hw₂
    refine ⟨h₂.1, h₂.2.1, fun v hv => ?_⟩
    rcases h₂.2.2 v hv with hv' | hready
    · rcases List.mem_cons.mp hv' with rfl | hv'
      · exact .inr ⟨pvc, hget, hlabels⟩
      · exact .inl hv'
    · exact .inr hready

theorem ensurePvcs_yields {sandbox : OpenShellSandbox}
    (hws : sandbox.spec.workspaceOf = workspace) (w : World) :
    (ensurePvcs key.scope key.name sandbox.spec).Yields (World.react X)
      (settling key workspace) w
      (fun _ w' => Ensuring key workspace sandbox.spec.volumes w [] w') := by
  unfold ensurePvcs
  rw [hws]
  exact Prog.Yields.forM (J := Ensuring key workspace sandbox.spec.volumes w)
    (fun h hR => h.move hR) (fun volume todo w₁ h => ensurePvc_yields h)
    sandbox.spec.volumes w ⟨.refl key workspace w, rfl, fun _ hv => .inl hv⟩

end steps

/-! ### Converging -/

/-- The gateway's parser reads the mutable sections of a message from the mutable sections of
its source. -/
def SectionWise (X : Externals) : Prop :=
  ∀ p p' q q', toProto X p = .ok q → toProto X p' = .ok q' →
    p.networkPolicies = p'.networkPolicies → p.filesystem = p'.filesystem →
    q.networkPolicies = q'.networkPolicies ∧ q.filesystem = q'.filesystem

/-- The mutable sections of a live policy are those of `q`. -/
def HasSections (live : Option SandboxPolicy) (q : SandboxPolicy) : Prop :=
  ∃ q', live = some q' ∧ q'.networkPolicies = q.networkPolicies ∧ q'.filesystem = q.filesystem

/-- The hashes on the resource are those of the inputs the sandbox was last created or
updated with. -/
structure Tracked (X : Externals) (key : Key) (sandbox : OpenShellSandbox) (s : GatewaySandbox) :
    Prop where
  created : ∃ spec policy, requestFor X key.name spec policy = .ok s.request ∧
    sandbox.status.bind (·.appliedSpecHash) = some (immutableFingerprint X spec policy)
  updated : ∃ policy proto, resolvedProto X policy = .ok proto ∧
    sandbox.status.bind (·.appliedPolicyHash) = some (mutablePolicyFingerprint X policy) ∧
    ∀ q, proto = some q → HasSections s.policy q

/-- The sandbox has the desired immutable fields, providers and mutable policy sections. -/
structure Desired (X : Externals) (key : Key) (spec : OpenShellSandboxSpec)
    (resolved : ResolvedPolicy) (s : GatewaySandbox) : Prop where
  immutable : ∃ spec' policy', requestFor X key.name spec' policy' = .ok s.request ∧
    immutableMaterial spec' policy' = immutableMaterial spec resolved.spec
  providers : ∀ x, x ∈ s.providers ↔ x ∈ spec.providers
  policy : ∀ q, resolved.proto = some q → HasSections s.policy q

section converging
variable {X : Externals} {key : Key} {workspace : String} {k : Cluster} {sandbox : OpenShellSandbox}
  {resolved : ResolvedPolicy} {w : World}

theorem requestFor_ok {name : String} {spec : OpenShellSandboxSpec}
    {policy : Option OpenShellPolicySpec} {request : CreateSandboxRequest}
    (h : requestFor X name spec policy = .ok request) :
    ∃ proto, resolvedProto X policy = .ok proto ∧
      request = createSandboxRequest (buildSandboxCreate name spec proto) := by
  unfold requestFor at h
  cases hp : resolvedProto X policy with
  | error err => simp [hp, Except.map] at h
  | ok proto =>
      simp only [hp, Except.map, Except.ok.injEq] at h
      exact ⟨proto, rfl, h.symm⟩

/-- What a successful converge leaves. -/
structure Settled (X : Externals) (key : Key) (workspace : String) (k : Cluster)
    (spec : OpenShellSandboxSpec) (resolved : ResolvedPolicy) (leaving : Prop)
    (converged : Converged) (w : World) : Prop where
  specHash : converged.appliedSpecHash = immutableFingerprint X spec resolved.spec
  policyHash : converged.appliedPolicyHash = mutablePolicyFingerprint X resolved.spec
  same : Same k w
  desired : ∀ s, live key workspace w = some s → Desired X key spec resolved s
  gone : live key workspace w = none → leaving

/-- A sandbox that has just been created is as desired, and stays. -/
theorem settled_of_created (hproto : resolvedProto X resolved.spec = .ok resolved.proto)
    {state : SandboxState} {leaving : Prop}
    (h : Held key workspace k (createSandboxRequest
      (buildSandboxCreate key.name sandbox.spec resolved.proto)) resolved.proto false
      (· = sandbox.spec.providers) w) :
    Settled X key workspace k sandbox.spec resolved leaving
      ⟨state, immutableFingerprint X sandbox.spec resolved.spec,
        mutablePolicyFingerprint X resolved.spec⟩ w := by
  refine ⟨rfl, rfl, h.same, fun s hs => ?_, fun hnone => absurd (h.gone hnone) (by decide)⟩
  obtain ⟨hr, hp, -, hps⟩ := h.sandbox s hs
  refine ⟨⟨sandbox.spec, resolved.spec, ?_, rfl⟩, fun x => by rw [hps], fun q hq => ?_⟩
  · rw [requestFor, hproto, hr]
    rfl
  · exact ⟨q, hp.trans hq, rfl, rfl⟩

/-- The mutable sections of two policies with one fingerprint are the same on the gateway. -/
theorem hasSections_of_fingerprint (hdigest : Function.Injective X.digest) (hparse : SectionWise X)
    {policy : Option OpenShellPolicySpec} {proto : Option SandboxPolicy}
    (hp : resolvedProto X policy = .ok proto)
    (hproto : resolvedProto X resolved.spec = .ok resolved.proto)
    (heq : mutablePolicyFingerprint X policy = mutablePolicyFingerprint X resolved.spec)
    {live : Option SandboxPolicy} (hlive : ∀ q, proto = some q → HasSections live q) :
    ∀ q, resolved.proto = some q → HasSections live q := by
  intro q hq
  obtain ⟨hn, hf⟩ := mutableMaterial_inj (hdigest heq)
  cases hr : resolved.spec with
  | none =>
      rw [hr, resolvedProto, hq] at hproto
      cases Except.ok.inj hproto
  | some p =>
      rw [hr] at hn hf hproto
      cases policy with
      | none => simp at hn
      | some p' =>
          simp only [Option.map_some, Option.some.injEq, Option.bind_some] at hn hf
          rw [hq] at hproto
          simp only [resolvedProto] at hp hproto
          cases ht : toProto X p with
          | error err => simp [ht, Except.map] at hproto
          | ok t =>
              cases ht' : toProto X p' with
              | error err => simp [ht', Except.map] at hp
              | ok t' =>
                  simp only [ht, ht', Except.map, Except.ok.injEq, Option.some.injEq] at hp hproto
                  obtain ⟨hnet, hfs⟩ := hparse p' p t' t ht' ht hn hf
                  obtain ⟨q', hq', hqn, hqf⟩ := hlive t' hp.symm
                  rw [hproto] at hnet hfs
                  exact ⟨q', hq', hqn.trans hnet, hqf.trans hfs⟩

theorem updatePolicyIfDrifted_yields (hdigest : Function.Injective X.digest)
    (hparse : SectionWise X) (hws : sandbox.spec.workspaceOf = workspace)
    (hproto : resolvedProto X resolved.spec = .ok resolved.proto)
    {request : CreateSandboxRequest} {policy : Option SandboxPolicy} {deleting : Bool}
    {P : List String → Prop} (h : Held key workspace k request policy deleting P w)
    (hupdated : ∃ source proto, resolvedProto X source = .ok proto ∧
      sandbox.status.bind (·.appliedPolicyHash) = some (mutablePolicyFingerprint X source) ∧
      ∀ q, proto = some q → HasSections policy q) :
    (updatePolicyIfDrifted key.name sandbox resolved.proto
        (sandbox.status.bind (·.appliedPolicyHash))
        (mutablePolicyFingerprint X resolved.spec)).Yields (World.react X)
      (settling key workspace) w
      (fun _ w' => ∃ policy', Held key workspace k request policy' deleting P w' ∧
        ∀ q, resolved.proto = some q → HasSections policy' q) := by
  obtain ⟨source, proto, hp, hhash, hsections⟩ := hupdated
  cases hr : resolved.proto with
  | none => exact Prog.yields_pure (fun w' hw => ⟨policy, h.move hw, nofun⟩)
  | some new =>
      show Prog.Yields _ _ (ite _ _ _) w _
      split_ifs with hdrift
      · refine Prog.Yields.bind ((recordEvent_yields (fun _ _ h hR => h.move hR) h).mono
          (fun _ w₁ h₁ => ?_))
        rw [hws]
        refine (updatePolicy_yields h₁).mono (fun _ w₂ h₂ => ⟨_, h₂, fun q hq => ?_⟩)
        rw [← Option.some.inj hq]
        refine ⟨_, rfl, ?_, ?_⟩ <;> cases policy <;> rfl
      · have heq := hashDrifted_eq_false (Bool.eq_false_iff.mpr hdrift) _ hhash
        refine Prog.yields_pure (fun w' hw => ⟨policy, h.move hw, ?_⟩)
        rw [← hr]
        exact hasSections_of_fingerprint hdigest hparse hp hproto heq hsections

theorem convergeExisting_yields (hdigest : Function.Injective X.digest) (hparse : SectionWise X)
    (hws : sandbox.spec.workspaceOf = workspace)
    (hproto : resolvedProto X resolved.spec = .ok resolved.proto) {s₀ : GatewaySandbox}
    (htracked : Tracked X key sandbox s₀)
    (h : Held key workspace k s₀.request s₀.policy s₀.deleting (· = s₀.providers) w)
    {existing : SandboxState} (hex : existing.providers = s₀.providers) :
    (convergeExisting X key.name sandbox existing resolved).Yields (World.react X)
      (settling key workspace) w
      (Settled X key workspace k sandbox.spec resolved (s₀.deleting = true ∧
        sandbox.status.bind (·.appliedSpecHash) =
          some (immutableFingerprint X sandbox.spec resolved.spec))) := by
  obtain ⟨spec', policy', hreq, hhash⟩ := htracked.created
  show Prog.Yields _ _ (ite _ _ _) w _
  split_ifs with hdrift
  · refine Prog.Yields.bind ((recordEvent_yields (I := Same k) (fun _ _ h hR => h.move hR)
      h.same).mono (fun _ w₁ h₁ => ?_))
    refine Prog.Yields.bind ((recreate_yields hws h₁ resolved.proto).mono (fun _ w₂ h₂ => ?_))
    exact Prog.yields_pure (fun w₃ hw₃ => settled_of_created hproto (h₂.move hw₃))
  · have heq := hashDrifted_eq_false (Bool.eq_false_iff.mpr hdrift) _ hhash
    have hmaterial : immutableMaterial spec' policy' = immutableMaterial sandbox.spec resolved.spec :=
      hdigest heq
    rw [← hex] at h
    rw [hws]
    refine Prog.Yields.bind ((convergeProviders_yields h).mono (fun _ w₁ h₁ => ?_))
    refine Prog.Yields.bind ((updatePolicyIfDrifted_yields hdigest hparse hws hproto h₁
      htracked.updated).mono (fun _ w₂ h₂ => ?_))
    obtain ⟨policy₂, h₂, hsections⟩ := h₂
    refine Prog.yields_pure (fun w₃ hw₃ => ?_)
    have h₃ := h₂.move hw₃
    refine ⟨rfl, rfl, h₃.same, fun s hs => ?_,
      fun hnone => ⟨h₃.gone hnone, hhash.trans (congrArg some heq)⟩⟩
    obtain ⟨hr, hp, -, hps⟩ := h₃.sandbox s hs
    refine ⟨⟨spec', policy', hreq.trans (congrArg _ hr.symm), hmaterial⟩, hps, ?_⟩
    rw [hp]
    exact hsections

/-- The world a converge starts from. -/
structure Ready (X : Externals) (key : Key) (workspace : String) (sandbox : OpenShellSandbox)
    (resolved : ResolvedPolicy) (w : World) : Prop where
  resolves : resolvedIn X w.cluster key.scope sandbox.spec = .ok resolved
  tracked : ∀ s, live key workspace w = some s → Tracked X key sandbox s

/-- The sandbox is about to go: its deletion has been accepted, and the recorded hash is the
desired one, so that no new sandbox is due either. -/
def Leaving (X : Externals) (key : Key) (workspace : String) (sandbox : OpenShellSandbox)
    (resolved : ResolvedPolicy) (w : World) : Prop :=
  ∃ s, live key workspace w = some s ∧ s.deleting = true ∧
    sandbox.status.bind (·.appliedSpecHash) =
      some (immutableFingerprint X sandbox.spec resolved.spec)

/-- What is known of the sandbox that was there before. -/
theorem held_of_settles {w₀ : World} {s₀ : GatewaySandbox} (hs₀ : live key workspace w₀ = some s₀)
    (h : Settles key workspace w₀ w) :
    Held key workspace w.cluster s₀.request s₀.policy s₀.deleting (· = s₀.providers) w := by
  refine ⟨⟨rfl, rfl⟩, fun s hs => ?_, fun hnone => ?_⟩
  · obtain ⟨s₁, hs₁, he⟩ := h.1 s hs
    rw [hs₀] at hs₁
    rw [he, Option.some.inj hs₁]
    exact ⟨rfl, rfl, rfl, rfl⟩
  · cases hd : s₀.deleting with
    | true => rfl
    | false =>
        have hlive := h.2 s₀ hs₀ hd
        rw [hnone] at hlive
        cases hlive

theorem observed_providers {s : GatewaySandbox} {name : String} {spec : OpenShellSandboxSpec}
    {policy : Option OpenShellPolicySpec} (h : requestFor X name spec policy = .ok s.request) :
    (sandboxState (Gateway.report s)).providers = s.providers := by
  obtain ⟨proto, -, hr⟩ := requestFor_ok h
  simp only [sandboxState, Gateway.report, hr]
  rfl

/-- **Converging.**  A converge that succeeds leaves the sandbox as desired. -/
theorem converge_yields (hdigest : Function.Injective X.digest) (hparse : SectionWise X)
    (hws : sandbox.spec.workspaceOf = workspace) (h : Ready X key workspace sandbox resolved w) :
    (converge X key.scope key.name sandbox).Yields (World.react X) (settling key workspace) w
      (fun converged w' => ∃ k, ClaimsReady key workspace sandbox.spec.volumes k ∧
        k.policies = w.cluster.policies ∧
        Settled X key workspace k sandbox.spec resolved
          (Leaving X key workspace sandbox resolved w) converged w') := by
  refine Prog.Yields.bind (Prog.yields_done (fun _ _ w₁ hw₁ => ?_))
  refine Prog.Yields.bind ((ensurePvcs_yields hws w₁).mono (fun _ w₂ h₂ => ?_))
  obtain ⟨hset, hpol, hclaims⟩ := h₂
  have hset₂ : Settles key workspace w w₂ := hw₁.2.trans hset
  have hpol₂ : w₂.cluster.policies = w.cluster.policies := hpol.trans hw₁.1.2
  have hready : ClaimsReady key workspace sandbox.spec.volumes w₂.cluster :=
    fun volume hv => (hclaims volume hv).resolve_left (by simp)
  rw [hws]
  refine Prog.Yields.bind (getSandbox_observed (fun w₃ w₄ hw₃ hw₄ => ?_))
  refine Prog.Yields.bind (Prog.Safe.attempt (resolve_safe (Over.refl _)
    (fun _ _ _ => trivial) ?_))
  intro w₅ w₆ hw₅ hread r hr a ha
  have hw₆ : settling key workspace w₅ w₆ := by
    rcases hread with hR | ⟨name, f, hR⟩
    · exact hR
    · have hread : (World.react X w₅ (.kube (.getPolicy key.scope name)) f).1 = w₅ :=
        respond_of_serve_eq rfl
      rw [hread] at hR
      exact hR
  have hw₄₆ := (settling key workspace).trans hw₄ ((settling key workspace).trans hw₅ hw₆)
  have hw₂₆ := (settling key workspace).trans hw₃ hw₄₆
  have hres : ∀ res, r = .ok res → res = resolved := by
    intro res hres
    have hpol₅ : w₅.cluster.policies = w.cluster.policies :=
      (hw₅.1.2.trans (hw₄.1.2.trans hw₃.1.2)).trans hpol₂
    have hin := (resolvedIn_congr hpol₅ _ _).symm.trans (hr res hres)
    exact Except.ok.inj (hin.symm.trans h.resolves)
  have hproto := resolvedIn_proto h.resolves
  cases ha
  cases hl : live key workspace w₃ with
  | none =>
      cases r with
      | error err => exact Prog.yields_fail _
      | ok res =>
          rw [hres res rfl]
          refine Prog.Yields.bind ((create_yields hws (Same.move ⟨rfl, rfl⟩ hw₂₆)
            (settling_gone hw₄₆ hl) resolved.proto).mono (fun _ w₇ h₇ => ?_))
          exact Prog.yields_pure (fun w₈ hw₈ =>
            ⟨w₂.cluster, hready, hpol₂, settled_of_created hproto (h₇.move hw₈)⟩)
  | some s₃ =>
      obtain ⟨s₂, hs₂, he₂⟩ := hw₃.2.1 s₃ hl
      obtain ⟨s₀, hs₀, he₀⟩ := hset₂.1 s₂ hs₂
      have htracked := h.tracked s₀ hs₀
      obtain ⟨spec', policy', hreq, -⟩ := htracked.created
      have hex : (sandboxState (Gateway.report s₃)).providers = s₀.providers := by
        rw [he₂, he₀]
        exact observed_providers hreq
      have hheld := (held_of_settles hs₀ hset₂).move hw₂₆
      cases r with
      | error err =>
          rw [← hex] at hheld
          show Prog.Yields _ _ (convergeProviders key.name sandbox.spec.providers _
            sandbox.spec.workspaceOf >>= fun _ => Prog.fail err) w₆ _
          rw [hws]
          exact Prog.Yields.bind ((convergeProviders_yields hheld).mono
            (fun _ _ _ => Prog.yields_fail err))
      | ok res =>
          rw [hres res rfl]
          refine (convergeExisting_yields hdigest hparse hws hproto htracked hheld hex).mono ?_
          exact fun converged w₇ h₇ => ⟨w₂.cluster, hready, hpol₂,
            { h₇ with gone := fun hnone => ⟨s₀, hs₀, h₇.gone hnone⟩ }⟩

/-! ### Resting -/

/-- The calls that only read. -/
inductive Reads : Call → Prop
  | getPvc (ns name : String) : Reads (.kube (.getPvc ns name))
  | getPolicy (ns name : String) : Reads (.kube (.getPolicy ns name))
  | getSandbox (name : String) (scope : WorkspaceSelector) : Reads (.rpc (.getSandbox name scope))

/-- A read leaves the world alone. -/
theorem Reads.react {c : Call} (hc : Reads c) (f : Fate Outage) :
    (World.react X w c f).1 = w := by
  refine respond_of_serve_eq ?_
  cases hc <;> rfl

theorem ensurePvcs_rests (hws : sandbox.spec.workspaceOf = workspace)
    (hready : ClaimsReady key workspace sandbox.spec.volumes w.cluster) :
    (ensurePvcs key.scope key.name sandbox.spec).Safe (World.react X) Rely.none
      (fun _ => Reads) (fun _ w' => w' = w) w := by
  let J : List SandboxVolume → World → Prop := fun todo w' =>
    w' = w ∧ ∀ volume ∈ todo, volume ∈ sandbox.spec.volumes
  have hround : ∀ volume todo w', J (volume :: todo) w' →
      (ensurePvc key.scope key.name workspace volume).Safe (World.react X) Rely.none
        (fun _ => Reads) (fun r w'' => ∀ a, r = .ok a → J todo w'') w' := by
    rintro volume todo w' ⟨hw', htodo⟩
    have hnone : writeOf key.scope key.name workspace volume
        (w.cluster.pvcs[claimKey key.scope key.name volume]?) = none :=
      writeOf_eq_none.mpr (hready volume (htodo volume List.mem_cons_self))
    rw [hw']
    refine ensurePvc_safe (fun hw => congrArg (·.cluster.pvcs) hw.symm) (fun _ _ => .getPvc _ _) ?_ ?_
    · -- no write is due
      rintro _ c rfl hdue
      rw [hnone] at hdue
      cases hdue
    · rintro _ rfl _
      exact ⟨rfl, fun v hv => htodo v (List.mem_cons_of_mem volume hv)⟩
  have hsafe := Prog.Safe.forM_ok (R := Rely.none) (J := J) (fun h hw => Eq.subst hw h) hround
    sandbox.spec.volumes w ⟨rfl, fun _ hv => hv⟩
  unfold ensurePvcs
  rw [hws]
  refine Prog.Safe.mono (fun _ _ hc => hc) (fun _ _ h => h.2) (Prog.Safe.with_inv (I := (· = w))
    (fun w' w'' h hw => Eq.trans (Eq.symm hw) h) (fun w' c h hc => ⟨hc, fun f => ?_⟩) hsafe rfl)
  rw [hc.react f]
  exact h

theorem providerDelta_rests {desired current : List String}
    (h : ∀ x, x ∈ current ↔ x ∈ desired) : providerDelta desired current = ([], []) := by
  simp [providerDelta, List.filter_eq_nil_iff, h]

theorem hashDrifted_rests {hash : String} : hashDrifted (some hash) hash = false := by
  simp [hashDrifted]

/-- A sandbox whose providers are the desired ones needs no provider calls. -/
theorem convergeProviders_rests {existing : SandboxState} {name workspace : String}
    {desired : List String} (h : ∀ x, x ∈ existing.providers ↔ x ∈ desired) :
    convergeProviders name desired existing workspace = pure ⟨⟩ := by
  unfold convergeProviders
  rw [providerDelta_rests h]
  rfl

/-- A policy whose hash is recorded is not updated. -/
theorem updatePolicyIfDrifted_rests (name : String) (sandbox : OpenShellSandbox)
    (proto : Option SandboxPolicy) (hash : String) :
    updatePolicyIfDrifted name sandbox proto (some hash) hash = pure () := by
  cases proto with
  | none => rfl
  | some policy => simp only [updatePolicyIfDrifted, hashDrifted_rests, Bool.false_eq_true, if_false]

/-- **Resting.**  A converge of a sandbox that is as desired, with the desired hashes
recorded, only reads. -/
theorem converge_rests (hws : sandbox.spec.workspaceOf = workspace)
    (hresolves : resolvedIn X w.cluster key.scope sandbox.spec = .ok resolved)
    (hready : ClaimsReady key workspace sandbox.spec.volumes w.cluster)
    {s : GatewaySandbox} (hs : live key workspace w = some s)
    (hdesired : Desired X key sandbox.spec resolved s)
    (hspec : sandbox.status.bind (·.appliedSpecHash) =
      some (immutableFingerprint X sandbox.spec resolved.spec))
    (hpolicy : sandbox.status.bind (·.appliedPolicyHash) =
      some (mutablePolicyFingerprint X resolved.spec)) :
    (converge X key.scope key.name sandbox).Safe (World.react X) Rely.none
      (fun _ => Reads) (fun _ _ => True) w := by
  have hend : ∀ r : Except Error Converged, ∀ w' w'', w' = w → Rely.none.rel w' w'' → True :=
    fun _ _ _ _ _ => trivial
  have hI : ∀ {w₁ w₂ : World}, w₁ = w → Rely.none.rel w₁ w₂ → w₂ = w := fun h hR => hR ▸ h
  obtain ⟨spec', policy', hreq, -⟩ := hdesired.immutable
  have hproviders : ∀ x, x ∈ (sandboxState (Gateway.report s)).providers ↔
      x ∈ sandbox.spec.providers := by
    rw [observed_providers hreq]
    exact hdesired.providers
  refine Prog.Safe.bind_inv (I := fun w' => w' = w) (fun _ hR => hI rfl hR)
    (fun _ w₁ h₁ => ?_) (fun err => hend (.error err))
  subst h₁
  refine Prog.Safe.bind_inv (ensurePvcs_rests hws hready) (fun _ w₂ h₂ => ?_)
    (fun err => hend (.error err))
  subst h₂
  rw [hws]
  refine Prog.Safe.bind (SdkGateway.getSandbox_safe (Over.refl _) ?_)
  rintro w₃ rfl
  refine ⟨.getSandbox _ _, ?_⟩
  rintro f w₄ rfl r hr
  rw [Reads.react (.getSandbox _ _)]
  cases r with
  | error err => exact fun _ _ => trivial
  | ok found =>
      have hfound : found = some (sandboxState (Gateway.report s)) := by
        have hl : live key workspace w₂ = some s := hs
        rw [hr found rfl]
        show (live key workspace w₂).map _ = _
        rw [hl]
        rfl
      rw [hfound]
      refine Prog.Safe.bind (Prog.Safe.attempt (resolve_safe (Over.refl _)
        (fun _ name _ => .getPolicy _ name) ?_))
      rintro w₅ w₆ rfl - r hr
      cases r with
      | error err =>
          show Prog.Safe _ _ _ _ (convergeProviders _ _ _ _ >>= fun _ => Prog.fail err) w₆
          rw [convergeProviders_rests hproviders]
          exact fun _ _ => trivial
      | ok res =>
          have hres : res = resolved := Except.ok.inj ((hr res rfl).symm.trans hresolves)
          rw [hres]
          show Prog.Safe _ _ _ _ (convergeExisting _ _ _ _ _) w₆
          unfold convergeExisting
          simp only [hspec, hashDrifted_rests, Bool.false_eq_true, if_false]
          rw [convergeProviders_rests hproviders, hpolicy]
          simp only [Prog.pure_bind', updatePolicyIfDrifted_rests]
          exact fun _ _ => trivial

end converging

/-- **Converging, then resting.**  From a state in which the policy resolves and the sandbox is
absent or tracked by the recorded hashes, a converge that returns successfully returns the
hashes of the desired spec and policy and leaves the sandbox with the desired immutable fields,
providers and mutable policy sections; and a second converge on the resulting gateway, claims and
policies, with the returned hashes recorded, makes no call but reads.  The one sandbox that may be
gone in the end is one that was leaving: its deletion had been accepted before, and its recorded
spec hash is the desired one, so that converge does not make a new one. -/
theorem converged_then_rests (X : Externals) (hdigest : Function.Injective X.digest)
    (hparse : SectionWise X) (key : Key) (sandbox : OpenShellSandbox) (resolved : ResolvedPolicy)
    {w w' : World} {tr : List (Call × Fate Outage)} {converged : Converged}
    (h : Ready X key sandbox.spec.workspaceOf sandbox resolved w)
    (hrun : Prog.Steps (World.react X) (settling key sandbox.spec.workspaceOf)
      (converge X key.scope key.name sandbox) w tr (.done (.ok converged)) w') :
    converged.appliedSpecHash = immutableFingerprint X sandbox.spec resolved.spec ∧
    converged.appliedPolicyHash = mutablePolicyFingerprint X resolved.spec ∧
    (¬ Leaving X key sandbox.spec.workspaceOf sandbox resolved w →
      (live key sandbox.spec.workspaceOf w').isSome) ∧
    ∀ s, live key sandbox.spec.workspaceOf w' = some s →
      Desired X key sandbox.spec resolved s ∧
      ∀ (sandbox' : OpenShellSandbox) (w₁ : World), sandbox'.spec = sandbox.spec →
        sandbox'.status.bind (·.appliedSpecHash) = some converged.appliedSpecHash →
        sandbox'.status.bind (·.appliedPolicyHash) = some converged.appliedPolicyHash →
        w₁.gateway = w'.gateway → w₁.cluster.pvcs = w'.cluster.pvcs →
        w₁.cluster.policies = w'.cluster.policies →
        ∀ tr₁ p₁ w₂, Prog.Steps (World.react X) Rely.none
          (converge X key.scope key.name sandbox') w₁ tr₁ p₁ w₂ → ∀ cf ∈ tr₁, Reads cf.1 := by
  obtain ⟨k, hready, hpol, hset⟩ := (converge_yields hdigest hparse rfl h).steps hrun
  refine ⟨hset.specHash, hset.policyHash, fun hstays => ?_, fun s hs => ⟨hset.desired s hs, ?_⟩⟩
  · rw [Option.isSome_iff_ne_none]
    exact fun hnone => hstays (hset.gone hnone)
  intro sandbox' w₁ hspec hsh hph hgw hpvcs hpols tr₁ p₁ w₂ hsteps cf hcf
  have hready₁ : ClaimsReady key sandbox'.spec.workspaceOf sandbox'.spec.volumes w₁.cluster := by
    rw [hspec]
    exact fun v hv => (hready v hv).congr (hpvcs.trans hset.same.1)
  have hresolves₁ : resolvedIn X w₁.cluster key.scope sandbox'.spec = .ok resolved := by
    rw [hspec, resolvedIn_congr (hpols.trans (hset.same.2.trans hpol))]
    exact h.resolves
  have hlive₁ : live key sandbox'.spec.workspaceOf w₁ = some s := by
    rw [hspec, live, hgw]
    exact hs
  rw [hset.specHash, ← hspec] at hsh
  rw [hset.policyHash] at hph
  have hsafe := converge_rests rfl hresolves₁ hready₁ hlive₁ (hspec ▸ hset.desired s hs) hsh hph
  obtain ⟨-, htr⟩ := Prog.Safe.steps_inv (I := fun _ => True) (fun _ _ _ _ => trivial)
    (fun _ _ _ _ _ => trivial) hsteps hsafe trivial
  obtain ⟨-, -, hread⟩ := htr cf hcf
  exact hread

namespace Sample

theorem versionExternals_sectionWise : SectionWise versionExternals := by
  have hsections : ∀ p q, toProto versionExternals p = .ok q →
      q.networkPolicies = ∅ ∧ q.filesystem = none := by
    intro p q h
    unfold toProto at h
    split at h
    · cases h
    · split at h
      · cases h
      · rename_i hparse
        cases h
        simp only [versionExternals] at hparse
        split at hparse
        · cases hparse
          exact ⟨rfl, rfl⟩
        · cases hparse
  intro p p' q q' h h' _ _
  rw [(hsections p q h).1, (hsections p q h).2, (hsections p' q' h').1, (hsections p' q' h').2]
  exact ⟨rfl, rfl⟩

/-- A resource with a policy, a volume and a provider. -/
def volumeResource : OpenShellSandbox where
  metadata := { name := "dev", namespace_ := some "team" }
  spec :=
    { policy := some {}
      volumes := [⟨"data", "/data", none, false, {}⟩]
      providers := ["openai"] }

/-- A converge on an empty cluster and gateway: claim, lookup and create. -/
def converging : Prog Call.Answer Error Converged × World :=
  Prog.exec (World.react versionExternals) (List.replicate 4 .served)
    (converge versionExternals "team" "dev" volumeResource) {}

/-- It ends with the sandbox as desired. -/
theorem created_as_desired :
    converging.1.returned.isSome ∧ (live ⟨"team", "dev"⟩ "" converging.2).isSome ∧
      ∀ s, live ⟨"team", "dev"⟩ "" converging.2 = some s →
        Desired versionExternals ⟨"team", "dev"⟩ volumeResource.spec
          ⟨some {}, some ⟨1, none, none, none, ∅⟩⟩ s := by
  have hreturned : converging.1.returned.isSome := by decide +kernel
  obtain ⟨converged, hc⟩ := Option.isSome_iff_exists.mp hreturned
  have hsteps := Prog.steps_exec (World.react versionExternals)
    (settling ⟨"team", "dev"⟩ volumeResource.spec.workspaceOf) (List.replicate 4 .served)
    (converge versionExternals "team" "dev" volumeResource) {}
  rw [show (Prog.exec (World.react versionExternals) (List.replicate 4 .served)
    (converge versionExternals "team" "dev" volumeResource) {}).1 = _ from
      Prog.eq_of_returned hc] at hsteps
  have hready : Ready versionExternals ⟨"team", "dev"⟩ volumeResource.spec.workspaceOf
      volumeResource ⟨some {}, some ⟨1, none, none, none, ∅⟩⟩ {} :=
    ⟨rfl, fun s hs => by cases hs⟩
  obtain ⟨-, -, hstays, hdesired⟩ := converged_then_rests versionExternals Json.text_injective
    versionExternals_sectionWise ⟨"team", "dev"⟩ volumeResource
    ⟨some {}, some ⟨1, none, none, none, ∅⟩⟩ hready hsteps
  refine ⟨hreturned, hstays ?_, fun s hs => (hdesired s hs).1⟩
  rintro ⟨s, hs, -⟩
  cases hs

/-- A resource whose recorded hashes are those of its spec. -/
def imageResource : OpenShellSandbox where
  metadata := { name := "dev", namespace_ := some "team" }
  spec := { image := some "a" }
  status := some
    { appliedSpecHash := some (immutableFingerprint versionExternals { image := some "a" } none)
      appliedPolicyHash := some (mutablePolicyFingerprint versionExternals none) }

/-- Its sandbox, made from this spec; the gateway has accepted its deletion, as after a recreate
that timed out and an edit that was taken back. -/
def leaving : GatewaySandbox :=
  { Gateway.newSandbox "sb-0" (createSandboxRequest
      (buildSandboxCreate "dev" imageResource.spec none)) with deleting := true }

def leavingWorld : World :=
  { gateway :=
      { sandboxes := (∅ : KeyMap GatewaySandbox).insert ⟨"default", "dev"⟩ leaving, nextId := 1 } }

/-- The gateway has finished the deletion. -/
def leftWorld : World := { gateway := { nextId := 1 } }

theorem live_leavingWorld : live ⟨"team", "dev"⟩ "" leavingWorld = some leaving :=
  (KeyMap.get?_insert _ _ _ _).trans (if_pos rfl)

theorem leavingWorld_ready :
    Ready versionExternals ⟨"team", "dev"⟩ "" imageResource ⟨none, none⟩ leavingWorld := by
  refine ⟨rfl, fun s hs => ?_⟩
  rw [live_leavingWorld, Option.some.injEq] at hs
  subst hs
  exact ⟨⟨imageResource.spec, none, rfl, rfl⟩, ⟨none, none, rfl, rfl, fun q hq => by cases hq⟩⟩

/-- A sandbox that is leaving is adopted: the converge succeeds, the gateway finishes the deletion,
and the next converge, with the same hashes recorded, creates a sandbox. -/
theorem leaving_sandbox_goes :
    Function.Injective versionExternals.digest ∧ SectionWise versionExternals ∧
    Ready versionExternals ⟨"team", "dev"⟩ "" imageResource ⟨none, none⟩ leavingWorld ∧
    (∃ tr converged, Prog.Steps (World.react versionExternals) (settling ⟨"team", "dev"⟩ "")
        (converge versionExternals "team" "dev" imageResource) leavingWorld tr
        (.done (.ok converged)) leftWorld ∧
      imageResource.status.bind (·.appliedSpecHash) = some converged.appliedSpecHash ∧
      imageResource.status.bind (·.appliedPolicyHash) = some converged.appliedPolicyHash) ∧
    live ⟨"team", "dev"⟩ "" leftWorld = none ∧
    ∃ cf ∈ Prog.trace (World.react versionExternals) (List.replicate 2 .served)
      (converge versionExternals "team" "dev" imageResource) leftWorld, ¬ Reads cf.1 := by
  refine ⟨Json.text_injective, versionExternals_sectionWise, leavingWorld_ready, ?_, rfl, ?_⟩
  · -- one lookup, and then the gateway removes the sandbox
    have hlookup := Prog.steps_exec (World.react versionExternals) (settling ⟨"team", "dev"⟩ "")
      [.served] (converge versionExternals "team" "dev" imageResource) leavingWorld
    have hgoes : settling ⟨"team", "dev"⟩ "" leavingWorld leftWorld := by
      refine ⟨⟨rfl, rfl⟩, fun s hs => (by cases hs), fun s hs hdeleting => ?_⟩
      rw [live_leavingWorld, Option.some.injEq] at hs
      subst hs
      cases hdeleting
    have hend : Prog.exec (World.react versionExternals) [.served]
        (converge versionExternals "team" "dev" imageResource) leavingWorld =
          (.done (.ok ⟨sandboxState (Gateway.report leaving),
            immutableFingerprint versionExternals imageResource.spec none,
            mutablePolicyFingerprint versionExternals none⟩), leavingWorld) := by
      rfl
    rw [hend] at hlookup
    exact ⟨_, _, hlookup.trans (.move hgoes (.refl _ _)), rfl, rfl⟩
  · refine ⟨_, List.mem_cons_of_mem _ List.mem_cons_self, ?_⟩
    intro hreads
    cases hreads

end Sample
end SandboxController
end OpenShell
