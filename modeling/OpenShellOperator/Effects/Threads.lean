import OpenShellOperator.Effects.Prog
import Mathlib.Logic.Function.Basic
import Mathlib.Logic.Relation

/-! # Interleaved programs

Programs (`Prog`) that run side by side on one world.  Each thread `i` runs at most one
program at a time; a step of the system starts a program, makes the next call of a running
one, removes a finished one, drops a running one (its host stops), or lets the outside move
the world.  Calls are atomic, so the interleavings of the steps are all the schedules.

`Reach` is reachability by steps.  `Reach.inv` is the invariant rule: a world invariant and
one invariant per running program, kept by every step.  `Reach.footprint` and `Reach.safe`
are its two instances used in practice: every running program stays inside its footprint,
and every running program stays `Safe` when the calls of each thread are interference that
the other threads rely on. -/

namespace Effects

variable {ι Call : Type} {Ans : Call → Type} {ε α W F : Type}

/-- The world and what each thread is running. -/
structure Conf (ι : Type) {Call : Type} (Ans : Call → Type) (ε α W : Type) where
  world : W
  thread : ι → Option (Prog Ans ε α)

section steps
variable [DecidableEq ι] (react : ι → W → (c : Call) → F → W × Except ε (Ans c))
  (start : ι → W → Prog Ans ε α → Prop) (env : W → W → Prop)

/-- One step of the system. -/
inductive Step : Conf ι Ans ε α W → Conf ι Ans ε α W → Prop
  | start {s : Conf ι Ans ε α W} (i : ι) (p : Prog Ans ε α) :
      s.thread i = none → start i s.world p →
      Step s ⟨s.world, Function.update s.thread i (some p)⟩
  | call {s : Conf ι Ans ε α W} (i : ι) {c : Call} {k : Except ε (Ans c) → Prog Ans ε α}
      (f : F) : s.thread i = some (.call c k) →
      Step s ⟨(react i s.world c f).1,
        Function.update s.thread i (some (k (react i s.world c f).2))⟩
  | finish {s : Conf ι Ans ε α W} (i : ι) {r : Except ε α} : s.thread i = some (.done r) →
      Step s ⟨s.world, Function.update s.thread i none⟩
  | stop {s : Conf ι Ans ε α W} (i : ι) : Step s ⟨s.world, Function.update s.thread i none⟩
  | env {s : Conf ι Ans ε α W} {w' : W} : env s.world w' → Step s ⟨w', s.thread⟩

/-- Reachability by any number of steps. -/
abbrev Reach : Conf ι Ans ε α W → Conf ι Ans ε α W → Prop :=
  Relation.ReflTransGen (Step react start env)

/-- The system at the start of a run: nothing is running. -/
def Conf.idle (w : W) : Conf ι Ans ε α W := ⟨w, fun _ => none⟩

variable {react start env}

theorem forall_update {β : Type} {th : ι → Option β} {i : ι} {t : Option β}
    {P : ι → β → Prop} (hi : ∀ q, some q = t → P i q)
    (hj : ∀ j, j ≠ i → ∀ q, th j = some q → P j q) :
    ∀ j q, Function.update th i t j = some q → P j q := by
  intro j q hq
  rcases eq_or_ne j i with rfl | hne
  · rw [Function.update_self] at hq
    exact hi q hq.symm
  · rw [Function.update_of_ne hne] at hq
    exact hj j hne q hq

/-- **Invariant rule.**  `I` of the world and `T i` of the program of thread `i` hold in every
reachable configuration if they hold at first, when a program starts, after a call of its
own or of another thread, and after a move of the outside. -/
theorem Reach.inv {I : W → Prop} {T : ι → Prog Ans ε α → W → Prop}
    (hstart : ∀ i w p, I w → start i w p → T i p w)
    (hcall : ∀ i c k f w, I w → T i (.call c k) w →
      I (react i w c f).1 ∧ T i (k (react i w c f).2) (react i w c f).1 ∧
      ∀ j, j ≠ i → ∀ q, T j q w → T j q (react i w c f).1)
    (henv : ∀ w w', I w → env w w' → I w' ∧ ∀ j q, T j q w → T j q w')
    {s s' : Conf ι Ans ε α W} (h : Reach react start env s s') (hI : I s.world)
    (hT : ∀ i p, s.thread i = some p → T i p s.world) :
    I s'.world ∧ ∀ i p, s'.thread i = some p → T i p s'.world := by
  induction h with
  | refl => exact ⟨hI, hT⟩
  | tail _ hs ih =>
      obtain ⟨hI, hT⟩ := ih
      cases hs with
      | start i p _ hp =>
          refine ⟨hI, forall_update ?_ (fun j _ q hq => hT j q hq)⟩
          rintro _ ⟨rfl⟩
          exact hstart i _ p hI hp
      | call i f hi =>
          obtain ⟨hI', hTi, hTj⟩ := hcall i _ _ f _ hI (hT i _ hi)
          refine ⟨hI', forall_update ?_ (fun j hj q hq => hTj j hj q (hT j q hq))⟩
          rintro _ ⟨rfl⟩
          exact hTi
      | finish i _ => exact ⟨hI, forall_update nofun (fun j _ q hq => hT j q hq)⟩
      | stop i => exact ⟨hI, forall_update nofun (fun j _ q hq => hT j q hq)⟩
      | env hw =>
          obtain ⟨hI', hTj⟩ := henv _ _ hI hw
          exact ⟨hI', fun j q hq => hTj j q (hT j q hq)⟩

/-- Every running program stays inside the footprint of its thread, and a world invariant
that calls inside the footprints keep holds throughout. -/
theorem Reach.footprint {I : W → Prop} {P : ι → Call → Prop}
    (hstart : ∀ i w p, I w → start i w p → p.Calls (P i))
    (hcall : ∀ i c f w, I w → P i c → I (react i w c f).1)
    (henv : ∀ w w', I w → env w w' → I w')
    {w : W} {s : Conf ι Ans ε α W} (h : Reach react start env (Conf.idle w) s) (hI : I w) :
    I s.world ∧ ∀ i p, s.thread i = some p → p.Calls (P i) := by
  refine Reach.inv (I := I) (T := fun i p _ => p.Calls (P i)) hstart ?_ ?_ h hI nofun
  · intro i c k f w hw hk
    exact ⟨hcall i c f w hw hk.1, hk.2 _, fun _ _ _ hq => hq⟩
  · intro w w' hw hm
    exact ⟨henv w w' hw hm, fun _ _ hq => hq⟩

/-- **Rely–guarantee.**  If each thread's program is safe when started, and every call that a
thread makes under its guarantee `G i` keeps the invariant and is interference that the
other threads rely on, then all running programs stay safe. -/
theorem Reach.safe {I : W → Prop} {R : ι → Rely W} {G : ι → W → Call → Prop}
    {Q : ι → Except ε α → W → Prop}
    (hstart : ∀ i w p, I w → start i w p → p.Safe (react i) (R i) (G i) (Q i) w)
    (hcall : ∀ i c f w, I w → G i w c → I (react i w c f).1 ∧
      ∀ j, j ≠ i → R j w (react i w c f).1)
    (henv : ∀ w w', I w → env w w' → I w' ∧ ∀ j, R j w w')
    {w : W} {s : Conf ι Ans ε α W} (h : Reach react start env (Conf.idle w) s) (hI : I w) :
    I s.world ∧ ∀ i p, s.thread i = some p → p.Safe (react i) (R i) (G i) (Q i) s.world := by
  refine Reach.inv (I := I) (T := fun i p w => p.Safe (react i) (R i) (G i) (Q i) w) hstart
    ?_ ?_ h hI nofun
  · intro i c k f w hw hk
    obtain ⟨hG, hk⟩ := hk w ((R i).refl w)
    obtain ⟨hI', hR⟩ := hcall i c f w hw hG
    exact ⟨hI', hk f, fun j hj q hq => hq.rely (hR j hj)⟩
  · intro w w' hw hm
    obtain ⟨hI', hR⟩ := henv w w' hw hm
    exact ⟨hI', fun j q hq => hq.rely (hR j)⟩

/-! ### Reaching configurations -/

/-- A running program can be run by any list of choices. -/
theorem Reach.exec (i : ι) (fs : List F) : ∀ (p : Prog Ans ε α) (s : Conf ι Ans ε α W),
    s.thread i = some p → Reach react start env s
      ⟨(Prog.exec (react i) fs p s.world).2,
        Function.update s.thread i (some (Prog.exec (react i) fs p s.world).1)⟩ := by
  have hrefl : ∀ (p : Prog Ans ε α) (s : Conf ι Ans ε α W), s.thread i = some p →
      Reach react start env s ⟨s.world, Function.update s.thread i (some p)⟩ := by
    intro p s h
    rw [← h, Function.update_eq_self]
  induction fs with
  | nil => exact hrefl
  | cons f fs ih =>
      intro p s h
      cases p with
      | done r => exact hrefl _ s h
      | call c k =>
          have hstep : Step react start env s _ := .call i f h
          have hrest := ih (k (react i s.world c f).2) ⟨(react i s.world c f).1,
            Function.update s.thread i (some (k (react i s.world c f).2))⟩ (Function.update_self ..)
          rw [Function.update_idem] at hrest
          exact .head hstep hrest

theorem Reach.start_exec (i : ι) (fs : List F) {p : Prog Ans ε α} {s : Conf ι Ans ε α W}
    (hi : s.thread i = none) (hp : start i s.world p) : Reach react start env s
      ⟨(Prog.exec (react i) fs p s.world).2,
        Function.update s.thread i (some (Prog.exec (react i) fs p s.world).1)⟩ := by
  have hrun : Reach react start env ⟨s.world, Function.update s.thread i (some p)⟩ _ :=
    .exec i fs p _ (Function.update_self ..)
  rw [Function.update_idem] at hrun
  exact .head (.start i p hi hp) hrun

/-- A program can be started on an idle thread and run by any list of choices. -/
theorem Reach.launch (i : ι) (fs : List F) {p : Prog Ans ε α} {s : Conf ι Ans ε α W}
    (hi : s.thread i = none) (hp : start i s.world p) : ∃ s', Reach react start env s s' ∧
      s'.thread i = some (Prog.exec (react i) fs p s.world).1 ∧
      s'.world = (Prog.exec (react i) fs p s.world).2 :=
  ⟨_, .start_exec i fs hi hp, Function.update_self .., rfl⟩

/-- A program can be started on an idle thread, run and stopped. -/
theorem Reach.job (i : ι) (fs : List F) {p : Prog Ans ε α} {s : Conf ι Ans ε α W}
    (hi : s.thread i = none) (hp : start i s.world p) : Reach react start env s
      ⟨(Prog.exec (react i) fs p s.world).2, s.thread⟩ := by
  have hrun : Reach react start env s _ := .start_exec i fs hi hp
  have hstop := hrun.tail (.stop i)
  rw [Function.update_idem, ← hi, Function.update_eq_self] at hstop
  exact hstop

end steps
end Effects
