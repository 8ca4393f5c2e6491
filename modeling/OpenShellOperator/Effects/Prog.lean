import Mathlib.Order.Basic

/-! # Programs that talk to the outside by calls

A `Prog Ans ε α` is a sequential program whose only effects are *calls*: it makes a call
`c`, receives either an answer of type `Ans c` or an error of type `ε`, and goes on; when it
is `done` it has a value of type `α` or an error.  Calls are not interpreted here.

* **Sequencing.**  `Prog Ans ε` is a monad in which an error ends the program (`bind`);
  `perform c` makes one call and passes its error on, `attempt p` runs `p` and hands its
  error to the caller as a value.
* **The outside.**  A reaction `react w c f` says what the call `c` does to the world `w`
  and what it answers, where `f` is a choice made by the outside (that the call is served,
  that it fails before or after taking effect, …).  Between two calls the world may move
  along a relation `R` (other clients, users, background work).
* **Runs.**  `Steps react R p w tr p' w'`: started as `p` in world `w`, the program is `p'`
  in world `w'` after the calls `tr`.  A run may end anywhere, so a program that is stopped
  between two calls is a run too.
* **Footprints.**  `Calls P p`: every call that `p` can ever make satisfies `P`, whatever
  the answers are.
* **Safety.**  `Safe react R G Q p w`: run from `w` with interference `R`, every call is
  made in a world where `G` holds of it, and if the program ends with `r` then `Q r` holds
  (and keeps holding under `R`).  `Safe.steps` says that `Safe` is kept by every run. -/

namespace Effects

/-- Interference: what the world may do between two calls of a program. -/
structure Rely (W : Type) where
  rel : W → W → Prop
  refl : ∀ w, rel w w
  trans : ∀ {a b c}, rel a b → rel b c → rel a c

namespace Rely
variable {W : Type}

instance : CoeFun (Rely W) (fun _ => W → W → Prop) := ⟨Rely.rel⟩

/-- No interference. -/
def none : Rely W := ⟨Eq, fun _ => rfl, Eq.trans⟩

/-- Any interference. -/
def any : Rely W := ⟨fun _ _ => True, fun _ => trivial, fun _ _ => trivial⟩

end Rely

/-- A program over calls: finished with a value or an error, or about to make a call. -/
inductive Prog {Call : Type} (Ans : Call → Type) (ε α : Type) : Type
  | done (r : Except ε α)
  | call (c : Call) (k : Except ε (Ans c) → Prog Ans ε α)

namespace Prog

variable {Call : Type} {Ans : Call → Type} {ε α β : Type}

/-! ### Sequencing -/

/-- Run the program, then `f` on its value; an error ends the whole program. -/
def bind : Prog Ans ε α → (α → Prog Ans ε β) → Prog Ans ε β
  | done (.ok a), f => f a
  | done (.error e), _ => done (.error e)
  | call c k, f => call c (fun r => (k r).bind f)

instance : Monad (Prog Ans ε) where
  pure a := done (.ok a)
  bind := Prog.bind

/-- Make one call; its error is the program's error. -/
def perform (c : Call) : Prog Ans ε (Ans c) := call c done

/-- End with an error. -/
def fail (e : ε) : Prog Ans ε α := done (.error e)

/-- Run the program and hand its outcome, error included, to the caller. -/
def attempt : Prog Ans ε α → Prog Ans ε (Except ε α)
  | done r => done (.ok r)
  | call c k => call c (fun r => (k r).attempt)

/-- The value of a program that has ended with one. -/
def returned : Prog Ans ε α → Option α
  | done (.ok a) => some a
  | _ => none

theorem eq_of_returned {p : Prog Ans ε α} {a : α} (h : p.returned = some a) :
    p = done (.ok a) := by
  match p with
  | done (.ok b) => rw [Option.some.inj h]
  | done (.error e) => cases h
  | call c k => cases h

/-- The next call of a program that has not ended. -/
def next : Prog Ans ε α → Option Call
  | done _ => none
  | call c _ => some c

theorem eq_of_next {p : Prog Ans ε α} {c : Call} (h : p.next = some c) : ∃ k, p = call c k := by
  match p with
  | done r => cases h
  | call c' k =>
      cases h
      exact ⟨k, rfl⟩

@[simp] theorem done_ok_bind (a : α) (f : α → Prog Ans ε β) :
    (done (.ok a) : Prog Ans ε α) >>= f = f a := rfl

@[simp] theorem done_error_bind (e : ε) (f : α → Prog Ans ε β) :
    (done (.error e) : Prog Ans ε α) >>= f = done (.error e) := rfl

@[simp] theorem pure_bind' (a : α) (f : α → Prog Ans ε β) :
    (pure a : Prog Ans ε α) >>= f = f a := rfl

/-! ### Footprints -/

/-- Every call the program can make satisfies `P`, whatever the answers are. -/
def Calls (P : Call → Prop) : Prog Ans ε α → Prop
  | done _ => True
  | call c k => P c ∧ ∀ r, (k r).Calls P

section footprints
variable {P : Call → Prop}

@[simp] theorem calls_done (r : Except ε α) : (done r : Prog Ans ε α).Calls P := trivial

@[simp] theorem calls_pure (a : α) : (pure a : Prog Ans ε α).Calls P := trivial

@[simp] theorem calls_fail (e : ε) : (fail e : Prog Ans ε α).Calls P := trivial

theorem calls_perform {c : Call} (h : P c) : (perform c : Prog Ans ε (Ans c)).Calls P :=
  ⟨h, fun _ => trivial⟩

theorem Calls.bind {p : Prog Ans ε α} {f : α → Prog Ans ε β} (hp : p.Calls P)
    (hf : ∀ a, (f a).Calls P) : (p >>= f).Calls P := by
  induction p with
  | done r =>
      cases r with
      | ok a => exact hf a
      | error e => trivial
  | call c k ih => exact ⟨hp.1, fun r => ih r (hp.2 r)⟩

theorem Calls.attempt {p : Prog Ans ε α} (hp : p.Calls P) : p.attempt.Calls P := by
  induction p with
  | done r => trivial
  | call c k ih => exact ⟨hp.1, fun r => ih r (hp.2 r)⟩

theorem Calls.mono {P' : Call → Prop} (h : ∀ c, P c → P' c) {p : Prog Ans ε α}
    (hp : p.Calls P) : p.Calls P' := by
  induction p with
  | done r => trivial
  | call c k ih => exact ⟨h c hp.1, fun r => ih r (hp.2 r)⟩

theorem Calls.forM {γ : Type} {f : γ → Prog Ans ε PUnit} :
    ∀ (xs : List γ), (∀ x ∈ xs, (f x).Calls P) → (xs.forM f).Calls P
  | [], _ => trivial
  | x :: xs, h =>
      Calls.bind (h x List.mem_cons_self)
        (fun _ => Calls.forM xs (fun y hy => h y (List.mem_cons_of_mem x hy)))

end footprints

/-! ### Runs -/

section runs
variable {W F : Type} (react : W → (c : Call) → F → W × Except ε (Ans c)) (R : Rely W)

/-- `Steps react R p w tr p' w'`: the program `p` in world `w` can become `p'` in `w'` by
making the calls `tr` (each with the choice the outside made), the world moving along `R`
in between. -/
inductive Steps : Prog Ans ε α → W → List (Call × F) → Prog Ans ε α → W → Prop
  | refl (p : Prog Ans ε α) (w : W) : Steps p w [] p w
  | move {p p' : Prog Ans ε α} {w w₁ w' : W} {tr : List (Call × F)} :
      R w w₁ → Steps p w₁ tr p' w' → Steps p w tr p' w'
  | call {c : Call} {k : Except ε (Ans c) → Prog Ans ε α} {p' : Prog Ans ε α} {w w' : W}
      {tr : List (Call × F)} (f : F) :
      Steps (k (react w c f).2) (react w c f).1 tr p' w' →
      Steps (.call c k) w ((c, f) :: tr) p' w'

/-- Run with the given choices and no interference; a program that still has a call to make
when the choices are used up is stopped there. -/
def exec : List F → Prog Ans ε α → W → Prog Ans ε α × W
  | [], p, w => (p, w)
  | _ :: _, done r, w => (done r, w)
  | f :: fs, call c k, w => exec fs (k (react w c f).2) (react w c f).1

/-- The calls made by `exec`. -/
def trace : List F → Prog Ans ε α → W → List (Call × F)
  | [], _, _ => []
  | _ :: _, done _, _ => []
  | f :: fs, call c k, w => (c, f) :: trace fs (k (react w c f).2) (react w c f).1

theorem steps_exec : ∀ (fs : List F) (p : Prog Ans ε α) (w : W),
    Steps react R p w (trace react fs p w) (exec react fs p w).1 (exec react fs p w).2
  | [], p, w => .refl p w
  | _ :: _, done r, w => .refl (done r) w
  | f :: fs, call c k, w => .call f (steps_exec fs (k (react w c f).2) (react w c f).1)

variable {react R} in
theorem Steps.trans {p p' p'' : Prog Ans ε α} {w w' w'' : W} {tr tr' : List (Call × F)}
    (h : Steps react R p w tr p' w') (h' : Steps react R p' w' tr' p'' w'') :
    Steps react R p w (tr ++ tr') p'' w'' := by
  induction h with
  | refl p w => exact h'
  | move hw _ ih => exact .move hw (ih h')
  | call f _ ih => exact .call f (ih h')

end runs

/-! ### Safety under interference -/

section safety
variable {W F : Type} (react : W → (c : Call) → F → W × Except ε (Ans c))
  (R : Rely W) (G : W → Call → Prop)

/-- Run from `w` with interference `R`, the program makes each call in a world where `G`
holds of it, and whatever it ends with satisfies `Q`. -/
def Safe (Q : Except ε α → W → Prop) : Prog Ans ε α → W → Prop
  | done r, w => ∀ w', R w w' → Q r w'
  | call c k, w => ∀ w', R w w' →
      G w' c ∧ ∀ f, (k (react w' c f).2).Safe Q (react w' c f).1

variable {react R G} {Q : Except ε α → W → Prop}

theorem Safe.rely {p : Prog Ans ε α} {w w' : W} (h : p.Safe react R G Q w) (hw : R w w') :
    p.Safe react R G Q w' := by
  cases p with
  | done r => exact fun w'' h'' => h w'' (R.trans hw h'')
  | call c k => exact fun w'' h'' => h w'' (R.trans hw h'')

theorem Safe.mono {G' : W → Call → Prop} {Q' : Except ε α → W → Prop}
    (hG : ∀ w c, G w c → G' w c) (hQ : ∀ r w, Q r w → Q' r w) {p : Prog Ans ε α} {w : W}
    (h : p.Safe react R G Q w) : p.Safe react R G' Q' w := by
  induction p generalizing w with
  | done r => exact fun w' hw => hQ r w' (h w' hw)
  | call c k ih => exact fun w' hw => ⟨hG w' c (h w' hw).1, fun f => ih _ ((h w' hw).2 f)⟩

/-- One call: it is made where `G` holds of it, and each of its answers satisfies `Q`. -/
theorem safe_perform {c : Call} {w : W} {Q : Except ε (Ans c) → W → Prop}
    (h : ∀ w', R w w' → G w' c ∧
      ∀ f w'', R (react w' c f).1 w'' → Q (react w' c f).2 w'') :
    (perform c : Prog Ans ε (Ans c)).Safe react R G Q w :=
  fun w' hw => ⟨(h w' hw).1, fun f => (h w' hw).2 f⟩

/-- What has to hold after the first half of a `bind`. -/
def Then (react : W → (c : Call) → F → W × Except ε (Ans c)) (R : Rely W)
    (G : W → Call → Prop) (f : α → Prog Ans ε β) (Q : Except ε β → W → Prop) :
    Except ε α → W → Prop
  | .ok a, w => (f a).Safe react R G Q w
  | .error e, w => ∀ w', R w w' → Q (.error e) w'

/-- **Sequencing.** -/
theorem Safe.bind {f : α → Prog Ans ε β} {Q : Except ε β → W → Prop}
    {p : Prog Ans ε α} {w : W} (h : p.Safe react R G (Then react R G f Q) w) :
    (p >>= f).Safe react R G Q w := by
  induction p generalizing w with
  | done r =>
      cases r with
      | ok a => exact h w (R.refl w)
      | error e => exact h w (R.refl w)
  | call c k ih => exact fun w' hw => ⟨(h w' hw).1, fun g => ih _ ((h w' hw).2 g)⟩

/-- Sequencing when only values matter. -/
theorem Safe.bind_ok {f : α → Prog Ans ε β} {Q : β → W → Prop} {p : Prog Ans ε α} {w : W}
    (h : p.Safe react R G (fun r w' => ∀ a, r = .ok a →
      (f a).Safe react R G (fun r w'' => ∀ b, r = .ok b → Q b w'') w') w) :
    (p >>= f).Safe react R G (fun r w' => ∀ b, r = .ok b → Q b w') w := by
  refine Safe.bind (Safe.mono (fun _ _ h => h) ?_ h)
  intro r w' hr
  cases r with
  | ok a => exact hr a rfl
  | error e =>
      intro w'' _ b hb
      cases hb

theorem Safe.attempt {Q : Except ε (Except ε α) → W → Prop} {p : Prog Ans ε α} {w : W}
    (h : p.Safe react R G (fun r => Q (.ok r)) w) : p.attempt.Safe react R G Q w := by
  induction p generalizing w with
  | done r => exact h
  | call c k ih => exact fun w' hw => ⟨(h w' hw).1, fun g => ih _ ((h w' hw).2 g)⟩

/-- **Loops.**  If every round keeps `I` (or ends the loop with an error satisfying `Q`),
the loop keeps `I`. -/
theorem Safe.forM {γ : Type} {I : W → Prop} (hI : ∀ {w w'}, I w → R w w' → I w')
    {g : γ → Prog Ans ε PUnit} {Q : Except ε PUnit → W → Prop} (hQ : ∀ w, I w → Q (.ok ⟨⟩) w) :
    ∀ (xs : List γ), (∀ x ∈ xs, ∀ w, I w → (g x).Safe react R G
        (fun r w => match r with | .ok _ => I w | .error e => ∀ w', R w w' → Q (.error e) w') w) →
      ∀ w, I w → (xs.forM g).Safe react R G Q w
  | [], _, w, hw => fun w' hw' => hQ w' (hI hw hw')
  | x :: xs, h, w, hw => by
      refine Safe.bind (f := fun _ => xs.forM g) (Safe.mono (fun _ _ h => h) ?_
        (h x List.mem_cons_self w hw))
      intro r w' hr
      cases r with
      | ok u =>
          exact Safe.forM hI hQ xs (fun y hy => h y (List.mem_cons_of_mem x hy)) w' hr
      | error e => exact hr

/-- Loops when only values matter: `J xs` is what holds when the rounds `xs` are still to come. -/
theorem Safe.forM_ok {γ : Type} {g : γ → Prog Ans ε PUnit} {J : List γ → W → Prop}
    (hR : ∀ {w w'}, J [] w → R w w' → J [] w')
    (hg : ∀ x xs w, J (x :: xs) w →
      (g x).Safe react R G (fun r w' => ∀ a, r = .ok a → J xs w') w) :
    ∀ (xs : List γ) (w : W), J xs w →
      (xs.forM g).Safe react R G (fun r w' => ∀ a, r = .ok a → J [] w') w
  | [], _, hw => fun _ hw' _ _ => hR hw hw'
  | x :: xs, w, hw => by
      refine Safe.bind_ok (f := fun _ => xs.forM g) (Safe.mono (fun _ _ h => h) ?_ (hg x xs w hw))
      intro r w' hr a ha
      exact Safe.forM_ok hR hg xs w' (hr a ha)

/-- **A run keeps safety**, wherever it ends. -/
theorem Safe.steps {p p' : Prog Ans ε α} {w w' : W} {tr : List (Call × F)}
    (hs : Steps react R p w tr p' w') (h : p.Safe react R G Q w) : p'.Safe react R G Q w' := by
  induction hs with
  | refl p w => exact h
  | move hw _ ih => exact ih (h.rely hw)
  | call f _ ih => exact ih ((h _ (R.refl _)).2 f)

/-- A footprint is safety that looks at no world. -/
theorem Calls.safe {P : Call → Prop} {p : Prog Ans ε α} (h : p.Calls P) (w : W) :
    p.Safe react R (fun _ c => P c) (fun _ _ => True) w := by
  induction p generalizing w with
  | done r => exact fun _ _ => trivial
  | call c k ih => exact fun w' _ => ⟨h.1, fun f => ih _ (h.2 _) _⟩

end safety

/-! ### Results -/

section results
variable {W F : Type} (react : W → (c : Call) → F → W × Except ε (Ans c)) (R : Rely W)

/-- Run from `w`, if the program ends with a value then `Q` holds of it. -/
def Yields (p : Prog Ans ε α) (w : W) (Q : α → W → Prop) : Prop :=
  p.Safe react R (fun _ _ => True) (fun r w' => ∀ a, r = .ok a → Q a w') w

variable {react R} {p : Prog Ans ε α} {w : W} {Q : α → W → Prop}

theorem yields_pure {a : α} (h : ∀ w', R w w' → Q a w') : (pure a : Prog Ans ε α).Yields react R w Q := by
  intro w' hw b hb
  cases hb
  exact h w' hw

theorem yields_fail (e : ε) : (fail e : Prog Ans ε α).Yields react R w Q := by
  intro w' _ a ha
  cases ha

theorem yields_done {r : Except ε α} (h : ∀ a, r = .ok a → ∀ w', R w w' → Q a w') :
    (done r : Prog Ans ε α).Yields react R w Q := fun w' hw a ha => h a ha w' hw

theorem Yields.mono {Q' : α → W → Prop} (h : p.Yields react R w Q)
    (hQ : ∀ a w', Q a w' → Q' a w') : p.Yields react R w Q' :=
  Safe.mono (fun _ _ h => h) (fun _ w' hr a ha => hQ a w' (hr a ha)) h

theorem Yields.bind {f : α → Prog Ans ε β} {Q : β → W → Prop}
    (h : p.Yields react R w (fun a w' => (f a).Yields react R w' Q)) :
    (p >>= f).Yields react R w Q := Safe.bind_ok h

/-- Nothing is asked of the value. -/
theorem yields_trivial (p : Prog Ans ε α) (w : W) : p.Yields react R w (fun _ _ => True) := by
  induction p generalizing w with
  | done r => exact fun _ _ _ _ => trivial
  | call c k ih => exact fun w' _ => ⟨trivial, fun f => ih _ _⟩

/-- The outcome handed on: a value is what the program yields. -/
theorem Yields.attempt (h : p.Yields react R w Q) :
    p.attempt.Yields react R w (fun r w' => ∀ a, r = .ok a → Q a w') := by
  refine Safe.attempt (Safe.mono (fun _ _ h => h) ?_ h)
  intro r w' hr r' hr' a ha
  cases hr'
  exact hr a ha

/-- **Loops.**  `J xs` is what holds when the rounds `xs` are still to come. -/
theorem Yields.forM {γ : Type} {g : γ → Prog Ans ε PUnit} {J : List γ → W → Prop}
    (hR : ∀ {w w'}, J [] w → R w w' → J [] w')
    (hg : ∀ x xs w, J (x :: xs) w → (g x).Yields react R w (fun _ w' => J xs w'))
    (xs : List γ) (w : W) (hw : J xs w) : (xs.forM g).Yields react R w (fun _ w' => J [] w') :=
  Safe.forM_ok hR hg xs w hw

/-- A run that has ended with a value has the value the program yields. -/
theorem Yields.steps {a : α} {w' : W} {tr : List (Call × F)} (h : p.Yields react R w Q)
    (hs : Steps react R p w tr (done (.ok a)) w') : Q a w' :=
  Safe.steps hs h w' (R.refl w') a rfl

end results

end Prog

/-! ### Services that may fail -/

/-- How one call fares: it is served; it fails and has no effect; or it takes effect but
only a failure comes back. -/
inductive Fate (κ : Type) where
  | served
  | refused (e : κ)
  | unheard (e : κ)
deriving DecidableEq, Repr

/-- The call takes effect. -/
def Fate.effective {κ : Type} : Fate κ → Bool
  | served | unheard _ => true
  | refused _ => false

/-- The call is answered. -/
def Fate.isServed {κ : Type} : Fate κ → Bool
  | served => true
  | refused _ | unheard _ => false

section service
variable {Call : Type} {Ans : Call → Type} {ε κ W : Type}

/-- The reaction of a service `serve` whose calls may fail; `fault` is how the program sees
a failure. -/
def respond (fault : κ → ε) (serve : W → (c : Call) → W × Except ε (Ans c)) (w : W) (c : Call) :
    Fate κ → W × Except ε (Ans c)
  | .served => serve w c
  | .refused e => (w, .error (fault e))
  | .unheard e => ((serve w c).1, .error (fault e))

variable {fault : κ → ε} {serve : W → (c : Call) → W × Except ε (Ans c)} {w : W} {c : Call}
  {f : Fate κ}

/-- A call has its full effect or none. -/
theorem respond_world (fault : κ → ε) (serve : W → (c : Call) → W × Except ε (Ans c)) (w : W)
    (c : Call) (f : Fate κ) :
    (respond fault serve w c f).1 = w ∨ (respond fault serve w c f).1 = (serve w c).1 := by
  cases f with
  | served => exact .inr rfl
  | refused e => exact .inl rfl
  | unheard e => exact .inr rfl

theorem respond_of_effective (fault : κ → ε) (serve : W → (c : Call) → W × Except ε (Ans c)) (w : W)
    (c : Call) (f : Fate κ) :
    (respond fault serve w c f).1 = if f.effective then (serve w c).1 else w := by
  cases f <;> rfl

/-- Only a served call is answered. -/
theorem respond_ok {a : Ans c} (h : (respond fault serve w c f).2 = .ok a) :
    f = .served ∧ (serve w c).2 = .ok a := by
  cases f with
  | served => exact ⟨rfl, h⟩
  | refused e => cases h
  | unheard e => cases h

/-- A call without effect leaves the world alone, however it fares. -/
theorem respond_of_serve_eq (h : (serve w c).1 = w) : (respond fault serve w c f).1 = w := by
  rcases respond_world fault serve w c f with h' | h'
  · exact h'
  · rw [h', h]

/-- The outcome when every call is served and nothing interferes. -/
def Prog.outcome {α : Type} (serve : W → (c : Call) → W × Except ε (Ans c)) :
    Prog Ans ε α → W → W × Except ε α
  | .done r, w => (w, r)
  | .call c k, w => (k (serve w c).2).outcome serve (serve w c).1

theorem Prog.outcome_bind {α β : Type} (p : Prog Ans ε α) (g : α → Prog Ans ε β) (w : W) :
    (p >>= g).outcome serve w =
      match (p.outcome serve w).2 with
      | .ok a => (g a).outcome serve (p.outcome serve w).1
      | .error e => ((p.outcome serve w).1, .error e) := by
  induction p generalizing w with
  | done r => cases r <;> rfl
  | call c k ih => exact ih _ _

theorem Prog.outcome_attempt {α : Type} (p : Prog Ans ε α) (w : W) :
    p.attempt.outcome serve w = ((p.outcome serve w).1, .ok (p.outcome serve w).2) := by
  induction p generalizing w with
  | done r => rfl
  | call c k ih => exact ih _ _

/-- Loops whose rounds all return: `J xs` is what holds when the rounds `xs` are still to come. -/
theorem Prog.outcome_forM {γ : Type} {g : γ → Prog Ans ε PUnit} {J : List γ → W → Prop}
    (hg : ∀ x xs w, J (x :: xs) w → ∃ w', (g x).outcome serve w = (w', .ok ⟨⟩) ∧ J xs w') :
    ∀ (xs : List γ) (w : W), J xs w →
      ∃ w', (xs.forM g).outcome serve w = (w', .ok ⟨⟩) ∧ J [] w'
  | [], w, hw => ⟨w, rfl, hw⟩
  | x :: xs, w, hw => by
      obtain ⟨w₁, hround, hw₁⟩ := hg x xs w hw
      obtain ⟨w₂, hrest, hw₂⟩ := Prog.outcome_forM hg xs w₁ hw₁
      refine ⟨w₂, ?_, hw₂⟩
      show (g x >>= fun _ => xs.forM g).outcome serve w = _
      rw [Prog.outcome_bind, hround]
      exact hrest

/-- The outcome is reached by a run. -/
theorem Prog.steps_outcome {α : Type} (fault : κ → ε)
    (serve : W → (c : Call) → W × Except ε (Ans c)) (R : Rely W) (p : Prog Ans ε α) (w : W) :
    ∃ tr, Prog.Steps (respond fault serve) R p w tr (.done (p.outcome serve w).2)
      (p.outcome serve w).1 := by
  induction p generalizing w with
  | done r => exact ⟨[], .refl _ _⟩
  | call c k ih =>
      obtain ⟨tr, h⟩ := ih (serve w c).2 (serve w c).1
      exact ⟨(c, .served) :: tr, Prog.Steps.call Fate.served h⟩

/-- A call made under a guarantee, with its answer if it is served. -/
theorem safe_respond {R : Rely W} {G : W → Call → Prop} {Q : Ans c → W → Prop}
    (h : ∀ w', R w w' → G w' c ∧
      ∀ a, (serve w' c).2 = .ok a → ∀ w'', R (serve w' c).1 w'' → Q a w'') :
    (Prog.perform c : Prog Ans ε (Ans c)).Safe (respond fault serve) R G
      (fun r w' => ∀ a, r = .ok a → Q a w') w := by
  refine Prog.safe_perform (fun w' hw => ⟨(h w' hw).1, fun f w'' hw'' a ha => ?_⟩)
  obtain ⟨rfl, hs⟩ := respond_ok ha
  exact (h w' hw).2 a hs w'' hw''

/-- A call, with its answer if it is served. -/
theorem yields_perform {R : Rely W} {Q : Ans c → W → Prop}
    (h : ∀ w', R w w' → ∀ a, (serve w' c).2 = .ok a → ∀ w'', R (serve w' c).1 w'' → Q a w'') :
    (Prog.perform c : Prog Ans ε (Ans c)).Yields (respond fault serve) R w Q :=
  safe_respond (fun w' hw => ⟨trivial, h w' hw⟩)

/-- A call whose failure is handed on: it is answered, or fails with or without effect. -/
theorem yields_attempt {R : Rely W} {Q : Except ε (Ans c) → W → Prop}
    (h : ∀ w', R w w' → (∀ w'', R (serve w' c).1 w'' → Q (serve w' c).2 w'') ∧
      ∀ e w'', (R w' w'' ∨ R (serve w' c).1 w'') → Q (.error (fault e)) w'') :
    (Prog.perform c : Prog Ans ε (Ans c)).attempt.Yields (respond fault serve) R w Q := by
  intro w' hw
  refine ⟨trivial, fun f w'' hw'' a ha => ?_⟩
  cases ha
  obtain ⟨hs, he⟩ := h w' hw
  cases f with
  | served => exact hs w'' hw''
  | refused e => exact he e w'' (.inl hw'')
  | unheard e => exact he e w'' (.inr hw'')

end service
end Effects
