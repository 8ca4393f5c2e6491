import OpenShellOperator.Effects.Prog

/-! # Programs one after another

A session starts programs (`Prog`) one after the other on one world; each of them may be
stopped after any of its calls, and between them the world moves on its own.

`Session.inv` is the invariant rule for sessions, `Safe.steps_inv` the one for a single run
of a safe program, and `Calls.safe_inv` turns a footprint whose calls keep an invariant into
safety.

A reaction may be *instrumented*: it does what a plain reaction does on a view of its world
and keeps track of more (`Over`).  `logged` keeps the calls made so far.

`Trace` is a run of events of any kind.  `Trace.settles` is how progress is shown: what one event
brings about, and no event undoes, holds at the end of every run with that event. -/

namespace Effects

variable {Call : Type} {Ans : Call → Type} {ε α β W F : Type}

namespace Prog
variable {react : W → (c : Call) → F → W × Except ε (Ans c)} {R : Rely W}
  {G : W → Call → Prop} {I : W → Prop}

/-! ### Invariants of one run -/

/-- An invariant that the world's own moves and every call under the guarantee keep holds
wherever a run of a safe program ends, and each call was made under invariant and
guarantee. -/
theorem Safe.steps_inv {Q : Except ε α → W → Prop} {p p' : Prog Ans ε α} {w w' : W}
    {tr : List (Call × F)} (hR : ∀ w w', I w → R w w' → I w')
    (hG : ∀ w c f, I w → G w c → I (react w c f).1) (hs : Steps react R p w tr p' w')
    (h : p.Safe react R G Q w) (hI : I w) : I w' ∧ ∀ cf ∈ tr, ∃ w₁, I w₁ ∧ G w₁ cf.1 := by
  induction hs with
  | refl p w => exact ⟨hI, by simp⟩
  | move hw _ ih => exact ih (h.rely hw) (hR _ _ hI hw)
  | @call c k p' w w' tr f _ ih =>
      obtain ⟨hc, hk⟩ := h w (R.refl w)
      obtain ⟨hI', htr⟩ := ih (hk f) (hG w c f hI hc)
      refine ⟨hI', ?_⟩
      intro cf hcf
      rcases List.mem_cons.mp hcf with rfl | hcf
      · exact ⟨w, hI, hc⟩
      · exact htr cf hcf

/-- A safe program whose calls keep an invariant stays safe under every guarantee that
invariant and calls give, and ends with the invariant. -/
theorem Safe.with_inv {G' : W → Call → Prop} {Q : Except ε α → W → Prop} {p : Prog Ans ε α} {w : W}
    (hR : ∀ w w', I w → R w w' → I w')
    (hG : ∀ w c, I w → G' w c → G w c ∧ ∀ f, I (react w c f).1)
    (h : p.Safe react R G' Q w) (hI : I w) : p.Safe react R G (fun r w' => Q r w' ∧ I w') w := by
  induction p generalizing w with
  | done r => exact fun w' hw => ⟨h w' hw, hR w w' hI hw⟩
  | call c k ih =>
      intro w' hw
      obtain ⟨hc, hk⟩ := h w' hw
      obtain ⟨hG', hI'⟩ := hG w' c (hR w w' hI hw) hc
      exact ⟨hG', fun f => ih _ (hk f) (hI' f)⟩

/-- A program inside a footprint whose calls are made under the guarantee and keep an
invariant is safe, and ends with the invariant. -/
theorem Calls.safe_inv {P : Call → Prop} {p : Prog Ans ε α} {w : W}
    (hR : ∀ w w', I w → R w w' → I w')
    (hP : ∀ w c, I w → P c → G w c ∧ ∀ f, I (react w c f).1) (h : p.Calls P) (hI : I w) :
    p.Safe react R G (fun _ w' => I w') w :=
  Safe.mono (fun _ _ hc => hc) (fun _ _ h => h.2) (Safe.with_inv hR hP (h.safe w) hI)

/-- Sequencing after a program of which only an invariant is known. -/
theorem Safe.bind_inv {Q : Except ε β → W → Prop} {p : Prog Ans ε α} {g : α → Prog Ans ε β}
    {w : W} (hp : p.Safe react R G (fun _ w' => I w') w)
    (hg : ∀ a w', I w' → (g a).Safe react R G Q w')
    (he : ∀ e w' w'', I w' → R w' w'' → Q (.error e) w'') : (p >>= g).Safe react R G Q w := by
  refine Safe.bind (Safe.mono (fun _ _ h => h) ?_ hp)
  intro r w' hr
  cases r with
  | ok a => exact hg a w' hr
  | error e => exact fun w'' hw => he e w' w'' hr hw

end Prog

/-! ### Sessions -/

section sessions
variable (react : W → (c : Call) → F → W × Except ε (Ans c))
  (start : W → Prog Ans ε α → Rely W → Prop) (env : W → W → Prop)
  (keep : List (Call × F) → Prop)

/-- `Session react start env keep w tr w'`: from `w`, the calls `tr` lead to `w'`.  In world
`w₁` any program with `start w₁ p R` may be run while the world moves along `R`; `keep` is
what the calls of each such run satisfy. -/
inductive Session : W → List (Call × F) → W → Prop
  | nil (w : W) : Session w [] w
  | move {w w₁ w₂ : W} {tr : List (Call × F)} :
      Session w tr w₁ → env w₁ w₂ → Session w tr w₂
  | run {w w₁ w₂ : W} {tr tr' : List (Call × F)} {p p' : Prog Ans ε α} {R : Rely W} :
      Session w tr w₁ → start w₁ p R → Prog.Steps react R p w₁ tr' p' w₂ → keep tr' →
      Session w (tr ++ tr') w₂

variable {react start env keep}

/-- **Invariant rule.**  What the world's own moves and every kept run preserve holds at the
end of every session, and `A` of each call that the runs make of it. -/
theorem Session.inv {I : W → Prop} {A : Call → Prop} (henv : ∀ w w', I w → env w w' → I w')
    (hrun : ∀ w p R tr p' w', I w → start w p R → Prog.Steps react R p w tr p' w' → keep tr →
      I w' ∧ ∀ cf ∈ tr, A cf.1)
    {w w' : W} {tr : List (Call × F)} (h : Session react start env keep w tr w') (hI : I w) :
    I w' ∧ ∀ cf ∈ tr, A cf.1 := by
  induction h with
  | nil => exact ⟨hI, by simp⟩
  | move _ hm ih =>
      obtain ⟨hI', htr⟩ := ih
      exact ⟨henv _ _ hI' hm, htr⟩
  | run _ hp hs hk ih =>
      obtain ⟨hI', htr⟩ := ih
      obtain ⟨hI'', htr'⟩ := hrun _ _ _ _ _ _ hI' hp hs hk
      refine ⟨hI'', fun cf hcf => ?_⟩
      rcases List.mem_append.mp hcf with hcf | hcf
      · exact htr cf hcf
      · exact htr' cf hcf

end sessions

/-! ### Events -/

section events
variable {E : Type} (step : E → W → W → Prop)

/-- The events `es` lead from one world to another. -/
inductive Trace : W → List E → W → Prop
  | nil (w : W) : Trace w [] w
  | cons {e : E} {es : List E} {w w₁ w₂ : W} : step e w w₁ → Trace w₁ es w₂ → Trace w (e :: es) w₂

variable {step} {I : W → Prop} {R : Rely W} {w w' : W} {es : List E}

/-- What every event keeps, and the order that every event respects. -/
theorem Trace.keeps (hstep : ∀ e w w', I w → step e w w' → I w' ∧ R w w')
    (h : Trace step w es w') (hI : I w) : I w' ∧ R w w' := by
  induction h with
  | nil w => exact ⟨hI, R.refl w⟩
  | cons he _ ih =>
      obtain ⟨hI₁, hR₁⟩ := hstep _ _ _ hI he
      obtain ⟨hI₂, hR₂⟩ := ih hI₁
      exact ⟨hI₂, R.trans hR₁ hR₂⟩

/-- **Progress.**  If the event `e` brings `P` about and `P` holds on along the order that every
event respects, then `P` holds at the end of every run with the event `e`. -/
theorem Trace.settles {P : W → Prop} {e : E} (hstep : ∀ e w w', I w → step e w w' → I w' ∧ R w w')
    (hP : ∀ w w', I w → step e w w' → P w') (hkeep : ∀ w w', P w → R w w' → P w')
    (h : Trace step w es w') (hI : I w) (he : e ∈ es) : P w' := by
  induction h with
  | nil => cases he
  | @cons e' es w w₁ w₂ hfirst hrest ih =>
      have hI₁ := (hstep _ _ _ hI hfirst).1
      rcases List.mem_cons.mp he with rfl | he
      · exact hkeep _ _ (hP _ _ hI hfirst) (hrest.keeps hstep hI₁).2
      · exact ih hI₁ he

end events

/-! ### Two runs -/

/-- A program whose calls see only a view of the world runs the same way on two worlds that
look the same: it makes the same calls and ends the same, and the worlds still look the
same. -/
theorem Prog.Calls.exec_congr {V : Type} {react : W → (c : Call) → F → W × Except ε (Ans c)}
    {view : W → V} {P : Call → Prop}
    (hP : ∀ c f w w', P c → view w = view w' →
      (react w c f).2 = (react w' c f).2 ∧ view (react w c f).1 = view (react w' c f).1)
    (fs : List F) {p : Prog Ans ε α} (hp : p.Calls P) {w w' : W} (hw : view w = view w') :
    Prog.trace react fs p w = Prog.trace react fs p w' ∧
      (Prog.exec react fs p w).1 = (Prog.exec react fs p w').1 ∧
      view (Prog.exec react fs p w).2 = view (Prog.exec react fs p w').2 := by
  induction fs generalizing p w w' with
  | nil => exact ⟨rfl, rfl, hw⟩
  | cons f fs ih =>
      cases p with
      | done r => exact ⟨rfl, rfl, hw⟩
      | call c k =>
          obtain ⟨hanswer, hview⟩ := hP c f w w' hp.1 hw
          obtain ⟨htrace, hprog, hworld⟩ := ih (hp.2 (react w c f).2) hview
          simp only [Prog.trace, Prog.exec, ← hanswer]
          exact ⟨congrArg _ htrace, hprog, hworld⟩

/-! ### Instrumented reactions -/

/-- The reaction `react` does and answers what `base` does on the view of its world. -/
structure Over {V : Type} (base : V → (c : Call) → F → V × Except ε (Ans c))
    (react : W → (c : Call) → F → W × Except ε (Ans c)) (view : W → V) : Prop where
  world : ∀ w c f, view (react w c f).1 = (base (view w) c f).1
  answer : ∀ w c f, (react w c f).2 = (base (view w) c f).2

theorem Over.refl (react : W → (c : Call) → F → W × Except ε (Ans c)) : Over react react id :=
  ⟨fun _ _ _ => rfl, fun _ _ _ => rfl⟩

/-- The reaction that also keeps the calls made so far. -/
def logged (react : W → (c : Call) → F → W × Except ε (Ans c)) (s : W × List (Call × F))
    (c : Call) (f : F) : (W × List (Call × F)) × Except ε (Ans c) :=
  (((react s.1 c f).1, s.2 ++ [(c, f)]), (react s.1 c f).2)

/-- The world moves, the log stays. -/
def Rely.logged {γ : Type} (R : Rely W) : Rely (W × γ) :=
  ⟨fun s s' => R s.1 s'.1 ∧ s'.2 = s.2, fun s => ⟨R.refl s.1, rfl⟩,
    fun h h' => ⟨R.trans h.1 h'.1, h'.2.trans h.2⟩⟩

theorem over_logged (react : W → (c : Call) → F → W × Except ε (Ans c)) :
    Over react (logged react) Prod.fst := ⟨fun _ _ _ => rfl, fun _ _ _ => rfl⟩

/-- A run is a logged run that adds its calls to the log. -/
theorem Prog.Steps.logged {react : W → (c : Call) → F → W × Except ε (Ans c)} {R : Rely W}
    {p p' : Prog Ans ε α} {w w' : W} {tr : List (Call × F)} (h : Prog.Steps react R p w tr p' w')
    (log : List (Call × F)) :
    Prog.Steps (logged react) R.logged p (w, log) tr p' (w', log ++ tr) := by
  induction h generalizing log with
  | refl p w => simpa using Prog.Steps.refl p (w, log)
  | @move p p' w w₁ w' tr hw _ ih =>
      have hmove : R.logged (w, log) (w₁, log) := ⟨hw, rfl⟩
      exact .move hmove (ih log)
  | @call c k p' w w' tr f _ ih =>
      have hrest := ih (log ++ [(c, f)])
      rw [List.append_assoc] at hrest
      exact .call f hrest

end Effects
