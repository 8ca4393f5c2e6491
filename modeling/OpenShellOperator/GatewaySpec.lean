import OpenShellOperator.Effects.Session
import OpenShellOperator.World

/-! # What the gateway client's methods yield

One lemma for each method of the gateway client that the results below use: if it returns a
value, then the gateway was in some state when the call was made, the value is what that state
answers, and the state afterwards is the one the call leaves, each up to the interference `R`
in between.  The lemmas on safety are about any reaction that is instrumented over the
world's. -/

namespace OpenShell
open Wire Effects

namespace SdkGateway

section safety
variable {X : Externals} {W : Type}
  {react : W → (c : Call) → Fate Outage → W × Except Error c.Answer} {view : W → World}
  {R : Rely W} {G : W → Call → Prop} {w : W}

theorem notFoundIsNone_safe {α : Type} {p : Op (Option α)} {Q : Except Error (Option α) → W → Prop}
    (h : p.Safe react R G (fun r w' => ∀ w'', R w' w'' →
      match r with
      | .ok found => Q (.ok found) w''
      | .error err => Q (if err.hasCode .notFound then .ok none else .error err) w'') w) :
    (notFoundIsNone p).Safe react R G Q w := by
  refine Prog.Safe.bind (Prog.Safe.attempt (Prog.Safe.mono (fun _ _ h => h) ?_ h))
  intro r w' hr
  cases r with
  | ok found => exact hr
  | error err =>
      simp only [Prog.Then]
      by_cases hc : err.hasCode .notFound
      · simp only [hc, if_true] at hr ⊢
        exact hr
      · simp only [hc, Bool.false_eq_true, if_false] at hr ⊢
        exact hr

/-- The state of a sandbox as the client reports it. -/
def observed (w : World) (name workspace : String) : Option SandboxState :=
  w.gateway.sandboxes[(workspaceScope workspace).key name]?.map
    (fun sandbox => sandboxState (Gateway.report sandbox))

/-- A lookup that returns something returns what the gateway had. -/
theorem lookup_safe (hO : Over (World.react X) react view) {α : Type} (c : Call)
    (get : World → Option α) (message : String) {k : Except Error c.Answer → Op (Option α)}
    (hserved : ∀ v, k (World.serve X v c).2 = .done (match get v with
      | some found => .ok (some found)
      | none => .error (rpcError .notFound message)))
    (hfailed : ∀ err, k (.error err) = .done (.error err))
    {Q : Except Error (Option α) → W → Prop}
    (h : ∀ w', R w w' → G w' c ∧ ∀ f w'', R (react w' c f).1 w'' →
      ∀ r, (∀ found, r = .ok found → found = get (view w')) → Q r w'') :
    (notFoundIsNone (.call c k)).Safe react R G Q w := by
  refine notFoundIsNone_safe (fun w' hw => ⟨(h w' hw).1, fun f => ?_⟩)
  have hQ := fun r hr w'' hw'' => (h w' hw).2 f w'' hw'' r hr
  have hfault : ∀ e : Outage, (react w' c f).2 = .error e.error →
      (k (react w' c f).2).Safe react R G (fun r w' => ∀ w'', R w' w'' →
        match r with
        | .ok found => Q (.ok found) w''
        | .error err => Q (if err.hasCode .notFound then .ok none else .error err) w'')
        (react w' c f).1 := by
    intro e he
    rw [he, hfailed]
    intro w₁ hw₁ w₂ hw₂
    simp only [(Outage.error_hasCode e).1, Bool.false_eq_true, if_false]
    exact hQ (.error e.error) nofun w₂ (R.trans hw₁ hw₂)
  cases f with
  | served =>
      have hanswer : (react w' c .served).2 = (World.serve X (view w') c).2 := hO.answer w' c .served
      rw [hanswer, hserved]
      intro w₁ hw₁ w₂ hw₂
      cases hg : get (view w') with
      | some found =>
          exact hQ (.ok (some found)) (fun _ h => (Except.ok.inj h).symm.trans hg.symm) w₂
            (R.trans hw₁ hw₂)
      | none =>
          exact hQ (.ok none) (fun _ h => (Except.ok.inj h).symm.trans hg.symm) w₂
            (R.trans hw₁ hw₂)
  | refused e => exact hfault e (hO.answer w' c (.refused e))
  | unheard e => exact hfault e (hO.answer w' c (.unheard e))

theorem getSandbox_safe (hO : Over (World.react X) react view) {name workspace : String}
    {Q : Except Error (Option SandboxState) → W → Prop}
    (h : ∀ w', R w w' → G w' (.rpc (.getSandbox name (workspaceScope workspace))) ∧
      ∀ f w'', R (react w' (.rpc (.getSandbox name (workspaceScope workspace))) f).1 w'' →
        ∀ r, (∀ o, r = .ok o → o = observed (view w') name workspace) → Q r w'') :
    (getSandbox name workspace).Safe react R G Q w := by
  refine Prog.Safe.bind (lookup_safe hO (.rpc (.getSandbox name (workspaceScope workspace)))
    (fun v => v.gateway.sandboxes[(workspaceScope workspace).key name]?.map Gateway.report)
    "sandbox not found" ?_ (fun _ => rfl) ?_)
  · intro v
    show Prog.done (v.gateway.getSandbox _) = _
    unfold Gateway.getSandbox
    split <;> rename_i hs <;> rw [hs] <;> rfl
  · intro w' hw
    refine ⟨(h w' hw).1, fun f w₁ hw₁ r hr => ?_⟩
    have hQ := fun r hr w₂ hw₂ => (h w' hw).2 f w₂ (R.trans hw₁ hw₂) r hr
    cases r with
    | error err => exact hQ (.error err) nofun
    | ok found =>
        refine hQ (.ok (found.map sandboxState)) (fun o ho => ?_)
        rw [← Except.ok.inj ho, hr found rfl, Option.map_map]
        rfl

/-- The provider message the gateway has under a name. -/
def storedProvider (w : World) (name workspace : String) : Option Provider :=
  w.gateway.providers[(workspaceScope workspace).key name]?.map (Gateway.providerMessage name)

theorem existingProvider_safe (hO : Over (World.react X) react view) {name workspace : String}
    {Q : Except Error (Option Provider) → W → Prop}
    (h : ∀ w', R w w' → G w' (.rpc (.getProvider name (workspaceScope workspace))) ∧
      ∀ f w'', R (react w' (.rpc (.getProvider name (workspaceScope workspace))) f).1 w'' →
        ∀ r, (∀ o, r = .ok o → o = storedProvider (view w') name workspace) → Q r w'') :
    (existingProvider name workspace).Safe react R G Q w := by
  refine lookup_safe hO (.rpc (.getProvider name (workspaceScope workspace)))
    (storedProvider · name workspace) "provider not found" ?_ (fun _ => rfl) h
  intro v
  show Prog.done (v.gateway.getProvider _) = _
  unfold Gateway.getProvider storedProvider
  split <;> rename_i hs <;> rw [hs] <;> rfl

end safety

section yields
variable {X : Externals} {R : Rely World} {w : World} {name workspace : String}

theorem getSandbox_yields {Q : Option SandboxState → World → Prop}
    (h : ∀ w', R w w' → ∀ w'', R w' w'' → Q (observed w' name workspace) w'') :
    (getSandbox name workspace).Yields (World.react X) R w Q := by
  refine getSandbox_safe (Over.refl _) (fun w' hw => ⟨trivial, ?_⟩)
  intro f w'' hw'' r hr o ho
  have hread : (World.react X w' (.rpc (.getSandbox name (workspaceScope workspace))) f).1 = w' :=
    respond_of_serve_eq rfl
  rw [hread] at hw''
  rw [hr o ho]
  exact h w' hw w'' hw''

theorem existingProvider_yields {Q : Option Provider → World → Prop}
    (h : ∀ w', R w w' → ∀ w'', R w' w'' → Q (storedProvider w' name workspace) w'') :
    (existingProvider name workspace).Yields (World.react X) R w Q := by
  refine existingProvider_safe (Over.refl _) (fun w' hw => ⟨trivial, ?_⟩)
  intro f w'' hw'' r hr o ho
  have hread : (World.react X w' (.rpc (.getProvider name (workspaceScope workspace))) f).1 = w' :=
    respond_of_serve_eq rfl
  rw [hread] at hw''
  rw [hr o ho]
  exact h w' hw w'' hw''

theorem listProviderProfiles_yields {Q : List ProviderProfileView → World → Prop}
    (h : ∀ w', R w w' → ∀ w'', R w' w'' → Q (w'.gateway.profiles.map providerProfileView) w'') :
    listProviderProfiles.Yields (World.react X) R w Q := by
  refine Prog.Yields.bind (yields_perform ?_)
  intro w' hw a ha w₁ hw₁
  cases ha
  exact Prog.yields_pure (fun w₂ hw₂ => h w' hw w₂ (R.trans hw₁ hw₂))

end yields
end SdkGateway
end OpenShell
