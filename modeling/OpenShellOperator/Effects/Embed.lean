import OpenShellOperator.Effects.Session

/-! # Programs inside larger systems

A program over one set of calls is a program over every larger set (`via`).  What was proved of
it on its own world holds on every world of which that world is a view, as long as the larger
reaction does on the view what the smaller one does (`Safe.via`), and under every interference
that moves the view as the smaller one may move.

`mapErr` wraps the error a program ends with.  `loop` runs a round again and again, at most a
given number of times.  A loop of the source that never ends is the family of its bounded
loops: each of its finite runs is a run of one of them. -/

namespace Effects.Prog

variable {Call Call' : Type} {Ans : Call → Type} {Ans' : Call' → Type} {ε α β W W' F : Type}

/-! ### A larger set of calls -/

/-- The program with its calls made as calls of a larger set. -/
def via (inj : Call → Call') (back : ∀ c, Ans' (inj c) → Ans c) :
    Prog Ans ε α → Prog Ans' ε α
  | done r => done r
  | call c k => call (inj c) (fun r => (k (r.map (back c))).via inj back)

section safety
variable {react : W → (c : Call) → F → W × Except ε (Ans c)}
  {react' : W' → (c : Call') → F → W' × Except ε (Ans' c)} {R : Rely W} {R' : Rely W'}
  {G : W → Call → Prop} {Q : Except ε α → W → Prop} {inj : Call → Call'}
  {back : ∀ c, Ans' (inj c) → Ans c}

/-- A safe program is safe inside a larger system. -/
theorem Safe.via (view : W' → W)
    (hworld : ∀ w c f, view (react' w (inj c) f).1 = (react (view w) c f).1)
    (hanswer : ∀ w c f, (react' w (inj c) f).2.map (back c) = (react (view w) c f).2)
    (hR : ∀ {w w'}, R' w w' → R (view w) (view w')) {p : Prog Ans ε α} {w : W'}
    (h : p.Safe react R G Q (view w)) :
    (p.via inj back).Safe react' R' (fun w c' => ∃ c, inj c = c' ∧ G (view w) c)
      (fun r w => Q r (view w)) w := by
  induction p generalizing w with
  | done r => exact fun w' hw => h (view w') (hR hw)
  | call c k ih =>
      intro w' hw
      obtain ⟨hc, hk⟩ := h (view w') (hR hw)
      refine ⟨⟨c, rfl, hc⟩, fun f => ih _ ?_⟩
      rw [hworld, hanswer]
      exact hk f

end safety

/-- When all calls are served, the program inside a larger system comes to what it comes to by
itself, and changes only the part of the world it sees. -/
theorem outcome_via {serve : W → (c : Call) → W × Except ε (Ans c)}
    {serve' : W' → (c : Call') → W' × Except ε (Ans' c)} {inj : Call → Call'}
    {back : ∀ c, Ans' (inj c) → Ans c} (view : W' → W) (put : W' → W → W')
    (hview : ∀ w x, view (put w x) = x) (hput : ∀ w x y, put (put w x) y = put w y)
    (hself : ∀ w, put w (view w) = w)
    (hworld : ∀ w c, (serve' w (inj c)).1 = put w (serve (view w) c).1)
    (hanswer : ∀ w c, (serve' w (inj c)).2.map (back c) = (serve (view w) c).2)
    (p : Prog Ans ε α) (w : W') :
    (p.via inj back).outcome serve' w =
      (put w (p.outcome serve (view w)).1, (p.outcome serve (view w)).2) := by
  induction p generalizing w with
  | done r => exact Prod.ext (hself w).symm rfl
  | call c k ih =>
      show ((k _).via inj back).outcome serve' _ = (put w ((k _).outcome serve _).1, _)
      rw [ih, hanswer, hworld, hview, hput]
      rfl

/-! ### Values known from elsewhere -/

/-- A safe program whose values are known to satisfy `Q'` whatever it is safe for. -/
theorem Safe.also {react : W → (c : Call) → F → W × Except ε (Ans c)} {R : Rely W}
    {G : W → Call → Prop} {Q Q' : α → W → Prop} {p : Prog Ans ε α} {w : W}
    (h : p.Safe react R G (fun r w' => ∀ a, r = .ok a → Q a w') w) (h' : p.Yields react R w Q') :
    p.Safe react R G (fun r w' => ∀ a, r = .ok a → Q a w' ∧ Q' a w') w := by
  induction p generalizing w with
  | done r => exact fun w' hw a ha => ⟨h w' hw a ha, h' w' hw a ha⟩
  | call c k ih => exact fun w' hw => ⟨(h w' hw).1, fun f => ih _ ((h w' hw).2 f) ((h' w' hw).2 f)⟩

/-- A program that is safe for two guarantees, under less interference than either allows. -/
theorem Safe.both {react : W → (c : Call) → F → W × Except ε (Ans c)} {R R₁ R₂ : Rely W}
    {G₁ G₂ : W → Call → Prop} {Q₁ Q₂ : Except ε α → W → Prop} (hR₁ : ∀ {w w'}, R w w' → R₁ w w')
    (hR₂ : ∀ {w w'}, R w w' → R₂ w w') {p : Prog Ans ε α} {w : W} (h₁ : p.Safe react R₁ G₁ Q₁ w)
    (h₂ : p.Safe react R₂ G₂ Q₂ w) :
    p.Safe react R (fun w c => G₁ w c ∧ G₂ w c) (fun r w => Q₁ r w ∧ Q₂ r w) w := by
  induction p generalizing w with
  | done r => exact fun w' hw => ⟨h₁ w' (hR₁ hw), h₂ w' (hR₂ hw)⟩
  | call c k ih =>
      intro w' hw
      obtain ⟨hc₁, hk₁⟩ := h₁ w' (hR₁ hw)
      obtain ⟨hc₂, hk₂⟩ := h₂ w' (hR₂ hw)
      exact ⟨⟨hc₁, hc₂⟩, fun f => ih _ (hk₁ f) (hk₂ f)⟩

/-! ### Wrapped errors -/

/-- Run a program and wrap its error. -/
def mapErr (g : ε → ε) (p : Prog Ans ε α) : Prog Ans ε α := do
  match ← p.attempt with
  | .ok a => pure a
  | .error err => fail (g err)

section wrapping
variable {react : W → (c : Call) → F → W × Except ε (Ans c)} {R : Rely W} {G : W → Call → Prop}
  {Q : Except ε α → W → Prop} {w : W}

theorem Safe.mapErr {g : ε → ε} {p : Prog Ans ε α} (hQ : ∀ r w w', Q r w → R w w' → Q r w')
    (he : ∀ err w, Q (.error err) w → Q (.error (g err)) w) (h : p.Safe react R G Q w) :
    (p.mapErr g).Safe react R G Q w := by
  refine Safe.bind (Safe.attempt (Safe.mono (fun _ _ hc => hc) ?_ h))
  intro r w' hr
  cases r with
  | ok a => exact fun w'' hw => hQ _ w' w'' hr hw
  | error err => exact fun w'' hw => he err w'' (hQ _ w' w'' hr hw)

end wrapping

/-! ### Loops -/

/-- Run `round` until it returns a value, at most `n` times. -/
def loop (round : Prog Ans ε (Option α)) : ℕ → Prog Ans ε (Option α)
  | 0 => pure none
  | n + 1 => do
      match ← round with
      | some a => pure (some a)
      | none => loop round n

section loops
variable {react : W → (c : Call) → F → W × Except ε (Ans c)} {R : Rely W}
  {G : W → Call → Prop} {Q : Except ε (Option α) → W → Prop} {I : W → Prop}
  {round : Prog Ans ε (Option α)}

/-- What has to hold after a round of a loop: `I` if the loop goes on, `Q` if it ends. -/
def Round (R : Rely W) (I : W → Prop) (Q : Except ε (Option α) → W → Prop) :
    Except ε (Option α) → W → Prop
  | .ok none, w => I w
  | .ok (some a), w => ∀ w', R w w' → Q (.ok (some a)) w'
  | .error e, w => ∀ w', R w w' → Q (.error e) w'

/-- **Loops.**  If every round that starts with `I` either goes on with `I` or ends the loop with
`Q`, then so does the loop. -/
theorem Safe.loop (hI : ∀ {w w'}, I w → R w w' → I w') (hQ : ∀ w, I w → Q (.ok none) w)
    (hround : ∀ w, I w → round.Safe react R G (Round R I Q) w) :
    ∀ (n : ℕ) (w : W), I w → (round.loop n).Safe react R G Q w
  | 0, _, hw => fun w' hw' => hQ w' (hI hw hw')
  | n + 1, w, hw => by
      refine Safe.bind (Safe.mono (fun _ _ h => h) ?_ (hround w hw))
      intro r w' hr
      match r with
      | .ok none => exact Safe.loop hI hQ hround n w' hr
      | .ok (some a) => exact hr
      | .error e => exact hr

end loops

/-! ### Programs that are served -/

section returning
variable {serve : W → (c : Call) → W × Except ε (Ans c)} {p : Prog Ans ε α} {w : W}

/-- When all calls are served, the program comes to a value, with `Q`. -/
def Returns (serve : W → (c : Call) → W × Except ε (Ans c)) (p : Prog Ans ε α) (w : W)
    (Q : α → W → Prop) : Prop :=
  ∃ w' a, p.outcome serve w = (w', .ok a) ∧ Q a w'

theorem returns_pure {a : α} {Q : α → W → Prop} (h : Q a w) :
    (pure a : Prog Ans ε α).Returns serve w Q := ⟨w, a, rfl, h⟩

theorem returns_perform {c : Call} {a : Ans c} {Q : Ans c → W → Prop} (hc : (serve w c).2 = .ok a)
    (h : Q a (serve w c).1) : (perform c : Prog Ans ε (Ans c)).Returns serve w Q :=
  ⟨(serve w c).1, a, Prod.ext rfl hc, h⟩

theorem Returns.mono {Q Q' : α → W → Prop} (h : p.Returns serve w Q)
    (hQ : ∀ a w', Q a w' → Q' a w') : p.Returns serve w Q' := by
  obtain ⟨w', a, hp, ha⟩ := h
  exact ⟨w', a, hp, hQ a w' ha⟩

theorem Returns.bind {g : α → Prog Ans ε β} {Q : β → W → Prop}
    (h : p.Returns serve w (fun a w' => (g a).Returns serve w' Q)) :
    (p >>= g).Returns serve w Q := by
  obtain ⟨w₁, a, hp, w₂, b, hg, hb⟩ := h
  refine ⟨w₂, b, ?_, hb⟩
  rw [outcome_bind, hp]
  exact hg

theorem Returns.attempt {Q : Except ε α → W → Prop}
    (h : p.Returns serve w (fun a w' => Q (.ok a) w')) : p.attempt.Returns serve w Q := by
  obtain ⟨w', a, hp, ha⟩ := h
  refine ⟨w', .ok a, ?_, ha⟩
  rw [outcome_attempt, hp]

end returning

/-- A run to the end in which every call fares the same way comes to the outcome. -/
theorem Steps.outcome_eq {react : W → (c : Call) → F → W × Except ε (Ans c)} {f : F}
    {p : Prog Ans ε α} {r : Except ε α} {w w' : W} {tr : List (Call × F)}
    (h : Steps react Rely.none p w tr (.done r) w') (hf : ∀ cf ∈ tr, cf.2 = f) :
    p.outcome (fun w c => react w c f) w = (w', r) := by
  generalize hend : (done r : Prog Ans ε α) = q at h
  induction h with
  | refl p w =>
      subst hend
      rfl
  | move hw _ ih =>
      cases hw
      exact ih hf hend
  | @call c k p' w w' tr g _ ih =>
      have hg : g = f := hf (c, g) List.mem_cons_self
      subst hg
      exact ih (fun cf hcf => hf cf (List.mem_cons_of_mem _ hcf)) hend

/-- There is such a run. -/
theorem exists_steps_outcome (react : W → (c : Call) → F → W × Except ε (Ans c)) (R : Rely W) (f : F)
    (p : Prog Ans ε α) (w : W) :
    ∃ tr, Steps react R p w tr (.done (p.outcome (fun w c => react w c f) w).2)
      (p.outcome (fun w c => react w c f) w).1 ∧ ∀ cf ∈ tr, cf.2 = f := by
  induction p generalizing w with
  | done r => exact ⟨[], .refl _ _, fun _ hcf => by cases hcf⟩
  | call c k ih =>
      obtain ⟨tr, hs, hf⟩ := ih (react w c f).2 (react w c f).1
      refine ⟨(c, f) :: tr, .call f hs, fun cf hcf => ?_⟩
      rcases List.mem_cons.mp hcf with rfl | hcf
      · rfl
      · exact hf cf hcf

/-- What an instrumented reaction comes to, seen through the view. -/
theorem outcome_over {V : Type} {base : V → (c : Call) → F → V × Except ε (Ans c)}
    {react : W → (c : Call) → F → W × Except ε (Ans c)} {view : W → V} (h : Over base react view)
    (f : F) (p : Prog Ans ε α) (w : W) :
    (p.outcome (fun v c => base v c f) (view w)).1 = view (p.outcome (fun w c => react w c f) w).1 := by
  induction p generalizing w with
  | done r => rfl
  | call c k ih =>
      show ((k (base (view w) c f).2).outcome _ (base (view w) c f).1).1 = _
      rw [← h.world, ← h.answer]
      exact ih _ _

/-! ### Loops that are served -/

section served
variable {serve : W → (c : Call) → W × Except ε (Ans c)} {round : Prog Ans ε (Option α)}

/-- A loop whose rounds all go on with `I`. -/
theorem outcome_loop_none {I : W → Prop}
    (hround : ∀ w, I w → ∃ w', round.outcome serve w = (w', .ok none) ∧ I w') :
    ∀ (n : ℕ) (w : W), I w → ∃ w', (round.loop n).outcome serve w = (w', .ok none) ∧ I w'
  | 0, w, hw => ⟨w, rfl, hw⟩
  | n + 1, w, hw => by
      obtain ⟨w₁, hfirst, hw₁⟩ := hround w hw
      obtain ⟨w₂, hrest, hw₂⟩ := outcome_loop_none hround n w₁ hw₁
      refine ⟨w₂, ?_, hw₂⟩
      rw [loop, outcome_bind, hfirst]
      exact hrest

/-- A loop that ends: with `J k` it ends within `k` more rounds after the next. -/
theorem outcome_loop_some {J : ℕ → W → Prop} {Q : α → W → Prop}
    (hround : ∀ k w, J k w → ∃ w', (∃ a, round.outcome serve w = (w', .ok (some a)) ∧ Q a w') ∨
      round.outcome serve w = (w', .ok none) ∧ ∃ k', k = k' + 1 ∧ J k' w') :
    ∀ (n k : ℕ) (w : W), J k w → k < n →
      ∃ w' a, (round.loop n).outcome serve w = (w', .ok (some a)) ∧ Q a w'
  | 0, _, _, _, hn => absurd hn (Nat.not_lt_zero _)
  | n + 1, k, w, hw, hn => by
      obtain ⟨w₁, ⟨a, hlast, ha⟩ | ⟨hfirst, k', rfl, hw₁⟩⟩ := hround k w hw
      · refine ⟨w₁, a, ?_, ha⟩
        rw [loop, outcome_bind, hlast]
        rfl
      · obtain ⟨w₂, a, hrest, ha⟩ :=
          outcome_loop_some hround n k' w₁ hw₁ (Nat.lt_of_succ_lt_succ hn)
        refine ⟨w₂, a, ?_, ha⟩
        rw [loop, outcome_bind, hfirst]
        exact hrest

end served

end Effects.Prog
