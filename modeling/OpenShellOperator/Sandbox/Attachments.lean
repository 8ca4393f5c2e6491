import OpenShellOperator.Sandbox.Converge

/-! # Provider attachments converge

`convergeProviders` attaches the desired providers that the gateway does not report and then
detaches the reported ones that are not desired, one call each; an attempt may stop after any of
them and the next one starts from a fresh report.

Whatever is reported, every call is aimed at the desired set (`Aimed`), so no attempt undoes what
another has reached.  From a report of what is attached, the calls of an attempt that returns add
up to the desired set (`attachments_converge`). -/

namespace OpenShell
open Wire Effects

namespace SandboxController

/-! ### What is attached -/

section attached
variable (key : Key) (workspace : String)

/-- The providers attached to the sandbox; none without a sandbox. -/
def attached (w : World) : List String :=
  ((live key workspace w).map (·.providers)).getD []

/-- The same providers stay attached; anything else may change. -/
def keepingProviders : Rely World :=
  ⟨fun w w' => ∀ x, x ∈ attached key workspace w' ↔ x ∈ attached key workspace w,
    fun _ _ => Iff.rfl, fun h h' x => (h' x).trans (h x)⟩

/-- A report of the sandbox lists what is attached, in any order and any number of times. -/
def Reports (existing : SandboxState) (w : World) : Prop :=
  ∀ x, x ∈ existing.providers ↔ x ∈ attached key workspace w

variable {workspace} {X : Externals} {w : World} {provider : String}

/-- A call that changes the sandbox changes what is attached to it, or nothing. -/
theorem attached_modify {f : GatewaySandbox → Except Error GatewaySandbox}
    {g : List String → List String} (hf : ∀ s s', f s = .ok s' → s'.providers = g s.providers)
    {w' : World} (hw' : w' = { w with
      gateway := (w.gateway.modifySandbox ((workspaceScope workspace).key key.name) f).1 }) :
    ((w.gateway.modifySandbox ((workspaceScope workspace).key key.name) f).2 = .ok () →
      attached key workspace w' = g (attached key workspace w)) ∧
    (attached key workspace w' = attached key workspace w ∨
      attached key workspace w' = g (attached key workspace w)) := by
  subst hw'
  unfold Gateway.modifySandbox
  cases hs : w.gateway.sandboxes[(workspaceScope workspace).key key.name]? with
  | none => simp [attached, live]
  | some s =>
      cases hfs : f s with
      | error err => simp [attached, live, hfs]
      | ok s' => simp [attached, live, hfs, hs, hf s s' hfs]

/-- The call that attaches a provider. -/
abbrev attachCall (name provider workspace : String) : Call :=
  .rpc (.attachSandboxProvider name provider (workspaceScope workspace))

/-- The call that detaches a provider. -/
abbrev detachCall (name provider workspace : String) : Call :=
  .rpc (.detachSandboxProvider name provider (workspaceScope workspace))

theorem attached_attach {w' : World}
    (hw' : w' = (World.serve X w (attachCall key.name provider workspace)).1) :
    ((World.serve X w (attachCall key.name provider workspace)).2 = .ok () →
      attached key workspace w' = withProvider provider (attached key workspace w)) ∧
    (attached key workspace w' = attached key workspace w ∨
      attached key workspace w' = withProvider provider (attached key workspace w)) := by
  refine attached_modify key (w := w) (fun s s' hs => ?_) hw'
  unfold Gateway.attach at hs
  split at hs <;> cases hs
  rfl

theorem attached_detach {w' : World}
    (hw' : w' = (World.serve X w (detachCall key.name provider workspace)).1) :
    ((World.serve X w (detachCall key.name provider workspace)).2 = .ok () →
      attached key workspace w' = (attached key workspace w).filter (· != provider)) ∧
    (attached key workspace w' = attached key workspace w ∨
      attached key workspace w' = (attached key workspace w).filter (· != provider)) := by
  refine attached_modify key (w := w) (g := fun l => l.filter (· != provider)) (fun s s' hs => ?_) hw'
  cases hs
  rfl

end attached

/-! ### What the calls are aimed at -/

section aimed
variable {key : Key} {name workspace : String} {desired : List String} {X : Externals} {w : World}

/-- Attach a desired provider, or detach one that is not desired. -/
inductive Aimed (name : String) (desired : List String) (workspace : String) : Call → Prop
  | attach {provider : String} (h : provider ∈ desired) :
      Aimed name desired workspace (attachCall name provider workspace)
  | detach {provider : String} (h : provider ∉ desired) :
      Aimed name desired workspace (detachCall name provider workspace)

/-- Whatever is reported, every call is aimed at the desired set. -/
theorem convergeProviders_aimed (existing : SandboxState) :
    (convergeProviders name desired existing workspace).Calls (Aimed name desired workspace) := by
  refine Prog.Calls.bind (Prog.Calls.forM _ (fun provider hp => ?_)) (fun _ =>
    Prog.Calls.forM _ (fun provider hp => ?_))
  · exact Prog.calls_perform (.attach (List.mem_filter.mp hp).1)
  · refine Prog.calls_perform (.detach (fun hd => ?_))
    have hnot := (List.mem_filter.mp hp).2
    rw [List.contains_iff_mem.mpr hd] at hnot
    cases hnot

/-- An aimed call, however it fares, leaves a desired provider attached. -/
theorem Aimed.react {c : Call} (h : Aimed key.name desired workspace c) (f : Fate Outage)
    {x : String} (hx : x ∈ desired) (hw : x ∈ attached key workspace w) :
    x ∈ attached key workspace (World.react X w c f).1 := by
  rcases respond_world Outage.error (World.serve X) w c f with hr | hr
  · rw [World.react, hr]
    exact hw
  · rw [World.react, hr]
    cases h with
    | attach hp =>
        rcases (attached_attach key rfl).2 with h | h
        · rw [h]
          exact hw
        · rw [h]
          exact mem_withProvider.mpr (.inl hw)
    | @detach provider hp =>
        rcases (attached_detach key rfl).2 with h | h
        · rw [h]
          exact hw
        · rw [h]
          refine List.mem_filter.mpr ⟨hw, ?_⟩
          simp only [bne_iff_ne]
          rintro rfl
          exact hp hx

end aimed

/-! ### One attempt -/

section attempt
variable {key : Key} {workspace : String} {desired : List String} {existing : SandboxState}
  {X : Externals} {w : World}

/-- What is known of the attached providers, up to order and repetition. -/
def Members (key : Key) (workspace : String) (P : List String → Prop) (w : World) : Prop :=
  ∃ l : List String, (∀ x, x ∈ l ↔ x ∈ attached key workspace w) ∧ P l

theorem tracks_members :
    Tracks X (keepingProviders key workspace) key.name workspace (Members key workspace) where
  move := by
    rintro P w w' ⟨l, hl, hP⟩ hR
    exact ⟨l, fun x => (hl x).trans (hR x).symm, hP⟩
  mono := by
    rintro P P' w ⟨l, hl, hP⟩ h
    exact ⟨l, hl, h l hP⟩
  attach := by
    rintro P P' w provider ⟨l, hl, hP⟩ h
    refine yields_perform (fun w₁ hw₁ a ha w₂ hw₂ => ⟨_, fun x => ?_, h l hP⟩)
    rw [hw₂ x, (attached_attach key rfl).1 ha, mem_withProvider, mem_withProvider, hl x, hw₁ x]
  detach := by
    rintro P P' w provider ⟨l, hl, hP⟩ h
    refine yields_perform (fun w₁ hw₁ a ha w₂ hw₂ => ⟨_, fun x => ?_, h l hP⟩)
    rw [hw₂ x, (attached_detach key rfl).1 ha, List.mem_filter, List.mem_filter, hl x, hw₁ x]

/-- An attempt from a report of what is attached that returns has reached the desired set. -/
theorem convergeProviders_reaches (hreport : Reports key workspace existing w) {w' : World}
    {tr : List (Call × Fate Outage)}
    (hs : Prog.Steps (World.react X) (keepingProviders key workspace)
      (convergeProviders key.name desired existing workspace) w tr (.done (.ok ⟨⟩)) w') :
    ∀ x, x ∈ attached key workspace w' ↔ x ∈ desired := by
  have hstart : Members key workspace (· = existing.providers) w := ⟨_, hreport, rfl⟩
  obtain ⟨l, hl, hdesired⟩ := (tracks_members.convergeProviders hstart).steps hs
  exact fun x => (hl x).symm.trans (hdesired x)

/-- The sandbox is there, and the gateway knows the desired providers. -/
def Attachable (key : Key) (workspace : String) (desired : List String) (w : World) : Prop :=
  (live key workspace w).isSome ∧
    ∀ provider ∈ desired, (w.gateway.providers[(workspaceScope workspace).key provider]?).isSome

/-- A change of the sandbox that succeeds is answered, and the sandbox is still there. -/
theorem attachable_modify {f : GatewaySandbox → Except Error GatewaySandbox}
    (h : Attachable key workspace desired w) (hf : ∀ s, ∃ s', f s = .ok s') :
    (w.gateway.modifySandbox ((workspaceScope workspace).key key.name) f).2 = .ok () ∧
      Attachable key workspace desired { w with
        gateway := (w.gateway.modifySandbox ((workspaceScope workspace).key key.name) f).1 } := by
  obtain ⟨s, hs⟩ := Option.isSome_iff_exists.mp h.1
  have hget : w.gateway.sandboxes[(workspaceScope workspace).key key.name]? = some s := hs
  obtain ⟨s', hs'⟩ := hf s
  simp only [Gateway.modifySandbox, hget, hs']
  refine ⟨trivial, ?_, h.2⟩
  simp [live]

theorem Attachable.attach {provider : String} (h : Attachable key workspace desired w)
    (hp : provider ∈ desired) :
    ∃ w', (SdkGateway.attachProvider key.name provider workspace).outcome (World.serve X) w =
      (w', .ok ()) ∧ Attachable key workspace desired w' := by
  obtain ⟨stored, hstored⟩ := Option.isSome_iff_exists.mp (h.2 provider hp)
  have hknown : ∀ s, ∃ s', w.gateway.attach (workspaceScope workspace) provider s = .ok s' := by
    intro s
    rw [Gateway.attach, hstored]
    exact ⟨_, rfl⟩
  obtain ⟨hok, hnext⟩ := attachable_modify h hknown
  exact ⟨_, Prod.ext rfl hok, hnext⟩

theorem Attachable.detach {provider : String} (h : Attachable key workspace desired w) :
    ∃ w', (SdkGateway.detachProvider key.name provider workspace).outcome (World.serve X) w =
      (w', .ok ()) ∧ Attachable key workspace desired w' := by
  obtain ⟨hok, hnext⟩ := attachable_modify (f := Gateway.detach provider) h (fun s => ⟨_, rfl⟩)
  exact ⟨_, Prod.ext rfl hok, hnext⟩

/-- With its calls served, an attempt returns. -/
theorem convergeProviders_outcome (h : Attachable key workspace desired w) :
    ((convergeProviders key.name desired existing workspace).outcome (World.serve X) w).2 =
      .ok ⟨⟩ := by
  let J : List String → World → Prop := fun todo w' =>
    (∀ x ∈ todo, x ∈ desired) ∧ Attachable key workspace desired w'
  have hround : ∀ x xs w', J (x :: xs) w' → ∃ w'',
      (SdkGateway.attachProvider key.name x workspace).outcome (World.serve X) w' = (w'', .ok ⟨⟩) ∧
        J xs w'' := by
    intro x xs w' hJ
    obtain ⟨w'', hw'', hnext⟩ := hJ.2.attach (X := X) (hJ.1 x List.mem_cons_self)
    exact ⟨w'', hw'', fun y hy => hJ.1 y (List.mem_cons_of_mem x hy), hnext⟩
  obtain ⟨w₁, hattach, h₁⟩ := Prog.outcome_forM hround (providerDelta desired existing.providers).1 w
    ⟨fun x hx => (List.mem_filter.mp hx).1, h⟩
  obtain ⟨w₂, hdetach, -⟩ := Prog.outcome_forM
    (J := fun _ w' => Attachable key workspace desired w') (fun x _ w' hJ => hJ.detach (X := X))
    (providerDelta desired existing.providers).2 w₁ h₁.2
  unfold convergeProviders
  rw [Prog.outcome_bind, hattach]
  exact congrArg Prod.snd hdetach

end attempt

/-! ### Attempts -/

section attempts
variable {X : Externals} {key : Key} {workspace : String} {desired : List String} {w w₁ : World}
  {tr : List (Call × Fate Outage)}

/-- Attempts to converge the providers of a sandbox, each from a report of what is attached then
and each cut off or failing anywhere, while nothing else attaches or detaches. -/
def ProviderAttempts (X : Externals) (key : Key) (workspace : String) (desired : List String) :
    World → List (Call × Fate Outage) → World → Prop :=
  Session (World.react X) (fun w p R => ∃ existing, Reports key workspace existing w ∧
      p = convergeProviders key.name desired existing workspace ∧
      R = keepingProviders key workspace)
    (keepingProviders key workspace) (fun _ => True)

/-- What is desired and attached stays attached, and every call is aimed at the desired set. -/
theorem ProviderAttempts.keeps (h : ProviderAttempts X key workspace desired w tr w₁) :
    (∀ x ∈ desired, x ∈ attached key workspace w → x ∈ attached key workspace w₁) ∧
      ∀ cf ∈ tr, Aimed key.name desired workspace cf.1 := by
  let I : World → Prop := fun w' =>
    ∀ x ∈ desired, x ∈ attached key workspace w → x ∈ attached key workspace w'
  have hmove : ∀ w' w'', I w' → keepingProviders key workspace w' w'' → I w'' :=
    fun w' w'' hI hw x hx hxw => (hw x).mpr (hI x hx hxw)
  refine Session.inv (I := I) hmove ?_ h (fun _ _ hx => hx)
  rintro w' p R tr' p' w'' hI ⟨existing, -, rfl, rfl⟩ hs -
  obtain ⟨hI', htr⟩ := Prog.Safe.steps_inv hmove (fun w c f hI hc x hx hxw =>
    hc.react f hx (hI x hx hxw)) hs ((convergeProviders_aimed existing).safe w') hI
  refine ⟨hI', fun cf hcf => ?_⟩
  obtain ⟨-, -, hc⟩ := htr cf hcf
  exact hc

/-- **Provider attachments converge.**  In any sequence of attempts, each stopped anywhere, every
call attaches a desired provider or detaches one that is not desired, and what is desired and
attached at the start stays attached.  An attempt that returns, whatever came before it, leaves
exactly the desired providers attached, so that the delta of every later report is empty.  It does
return if its calls are served, the sandbox is there and the gateway knows the providers. -/
theorem attachments_converge (X : Externals) (key : Key) (workspace : String)
    (desired : List String) {w w₁ : World} {tr : List (Call × Fate Outage)}
    (h : ProviderAttempts X key workspace desired w tr w₁) :
    (∀ cf ∈ tr, Aimed key.name desired workspace cf.1) ∧
    (∀ x ∈ desired, x ∈ attached key workspace w → x ∈ attached key workspace w₁) ∧
    ∀ existing, Reports key workspace existing w₁ →
      (∀ tr' w₂, Prog.Steps (World.react X) (keepingProviders key workspace)
          (convergeProviders key.name desired existing workspace) w₁ tr' (.done (.ok ⟨⟩)) w₂ →
        (∀ x, x ∈ attached key workspace w₂ ↔ x ∈ desired) ∧
        ∀ existing', Reports key workspace existing' w₂ →
          providerDelta desired existing'.providers = ([], [])) ∧
      (Attachable key workspace desired w₁ →
        ((convergeProviders key.name desired existing workspace).outcome (World.serve X) w₁).2 =
          .ok ⟨⟩) := by
  refine ⟨h.keeps.2, h.keeps.1, fun existing hreport => ⟨fun tr' w₂ hs => ?_,
    convergeProviders_outcome⟩⟩
  have hreached := convergeProviders_reaches hreport hs
  refine ⟨hreached, fun existing' hreport' => ?_⟩
  exact providerDelta_rests (fun x => (hreport' x).trans (hreached x))

end attempts

/-- What the gateway reports of a sandbox is a report of what is attached. -/
theorem reports_listed {key : Key} {workspace : String} {w : World} {s : GatewaySandbox}
    (hlive : live key workspace w = some s) (hspec : s.request.spec.isSome) :
    Reports key workspace (sandboxState (Gateway.report s)) w := by
  obtain ⟨spec, hspec⟩ := Option.isSome_iff_exists.mp hspec
  intro x
  simp only [sandboxState, Gateway.report, attached, hlive, hspec, Option.map_some,
    Option.getD_some]

namespace Sample

/-- A sandbox created with two providers. -/
def withTwo : GatewaySandbox :=
  Gateway.newSandbox "sb-0"
    (createSandboxRequest (buildSandboxCreate "dev" { providers := ["a", "b"] } none))

/-- The gateway has the sandbox and knows two providers. -/
def twoAttached : World :=
  { gateway :=
    { sandboxes := (∅ : KeyMap GatewaySandbox).insert ((workspaceScope "").key "dev") withTwo
      providers := ((∅ : KeyMap GatewayProvider).insert ((workspaceScope "").key "a")
        ⟨"pr-0", 1, "openai", ∅, ∅, ∅⟩).insert ((workspaceScope "").key "c")
        ⟨"pr-1", 1, "openai", ∅, ∅, ∅⟩ } }

/-- The missing provider is attached, then a repeated attach fails and nothing is detached. -/
def halfway : Op PUnit × World :=
  Prog.exec (World.react versionExternals) [.served, .unheard (.client "reset")]
    (convergeProviders "dev" ["c", "a", "c"] (sandboxState (Gateway.report withTwo)) "") twoAttached

/-- The next attempt reaches the desired set. -/
theorem converged_after_failure :
    halfway.1.returned = none ∧ attached ⟨"team", "dev"⟩ "" halfway.2 = ["a", "b", "c"] ∧
      ∀ x, x ∈ attached ⟨"team", "dev"⟩ "" ((convergeProviders "dev" ["c", "a", "c"]
          ⟨"sb-0", .ready, ["c", "b", "a", "b"]⟩ "").outcome (World.serve versionExternals)
        halfway.2).1 ↔ x ∈ ["c", "a", "c"] := by
  have hattached : attached ⟨"team", "dev"⟩ "" halfway.2 = ["a", "b", "c"] := by decide +kernel
  refine ⟨by decide +kernel, hattached, ?_⟩
  have hlisted : Reports ⟨"team", "dev"⟩ "" (sandboxState (Gateway.report withTwo)) twoAttached :=
    reports_listed ((KeyMap.get?_insert _ _ _ _).trans (if_pos rfl)) rfl
  have hattempts : ProviderAttempts versionExternals ⟨"team", "dev"⟩ "" ["c", "a", "c"] twoAttached _
      halfway.2 :=
    Session.run (.nil twoAttached) ⟨_, hlisted, rfl, rfl⟩
      (Prog.steps_exec (World.react versionExternals) _ _ _ twoAttached) trivial
  have hreport : Reports ⟨"team", "dev"⟩ "" ⟨"sb-0", .ready, ["c", "b", "a", "b"]⟩ halfway.2 := by
    intro x
    rw [hattached]
    simp only [List.mem_cons, List.not_mem_nil, or_false]
    tauto
  obtain ⟨hruns, hreturns⟩ := (attachments_converge versionExternals ⟨"team", "dev"⟩ ""
    ["c", "a", "c"] hattempts).2.2 _ hreport
  obtain ⟨tr, hs⟩ := Prog.steps_outcome Outage.error (World.serve versionExternals)
    (keepingProviders ⟨"team", "dev"⟩ "")
    (convergeProviders "dev" ["c", "a", "c"] ⟨"sb-0", .ready, ["c", "b", "a", "b"]⟩ "") halfway.2
  rw [hreturns ⟨by decide +kernel, by decide +kernel⟩] at hs
  exact (hruns tr _ hs).1

end Sample
end SandboxController
end OpenShell
