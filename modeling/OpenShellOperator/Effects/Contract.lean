import OpenShellOperator.Effects.Prog

/-! # Contracts

What can be said of a program whatever the world does: which calls it makes, whose answers it does
not look at, and how it ends (`Conforms`), as long as the errors of its calls are of a given kind.

A contract is proved along the program (`Conforms.bind`, `Conforms.attempt`, `Conforms.forM`) and
holds along every run (`Conforms.steps`).  Calls whose answers are ignored and that leave the world
alone may fare in any way: the same run is there with other choices (`Conforms.rechoose`). -/

namespace Effects

variable {Call : Type} {Ans : Call → Type} {ε α β W F : Type}

/-- The calls a program may make, those whose answers it ignores, and the errors of calls. -/
structure Contract (Call ε : Type) where
  calls : Call → Prop
  ignored : Call → Prop
  errors : ε → Prop

namespace Prog
variable {K : Contract Call ε} {Q : Except ε α → Prop}

/-- The program keeps the contract, and whatever it ends with satisfies `Q`. -/
def Conforms (K : Contract Call ε) (Q : Except ε α → Prop) : Prog Ans ε α → Prop
  | done r => Q r
  | call c k => K.calls c ∧ (K.ignored c → ∀ r r', k r = k r') ∧
      ∀ r, (∀ e, r = .error e → K.errors e) → (k r).Conforms K Q

theorem Conforms.mono {Q' : Except ε α → Prop} (hQ : ∀ r, Q r → Q' r) {p : Prog Ans ε α}
    (h : p.Conforms K Q) : p.Conforms K Q' := by
  induction p with
  | done r => exact hQ r h
  | call c k ih => exact ⟨h.1, h.2.1, fun r hr => ih r (h.2.2 r hr)⟩

/-- A call whose answer counts. -/
theorem conforms_perform {c : Call} {Q : Except ε (Ans c) → Prop} (hc : K.calls c)
    (hi : ¬ K.ignored c) (hok : ∀ a, Q (.ok a)) (herror : ∀ e, K.errors e → Q (.error e)) :
    (perform c : Prog Ans ε (Ans c)).Conforms K Q := by
  refine ⟨hc, fun h => absurd h hi, fun r hr => ?_⟩
  cases r with
  | ok a => exact hok a
  | error e => exact herror e (hr e rfl)

/-- What has to be said of the first half of a `bind`. -/
def Next (K : Contract Call ε) (f : α → Prog Ans ε β) (Q : Except ε β → Prop) : Except ε α → Prop
  | .ok a => (f a).Conforms K Q
  | .error e => Q (.error e)

/-- **Sequencing.** -/
theorem Conforms.bind {f : α → Prog Ans ε β} {Q : Except ε β → Prop} {p : Prog Ans ε α}
    (h : p.Conforms K (Next K f Q)) : (p >>= f).Conforms K Q := by
  induction p with
  | done r =>
      cases r with
      | ok a => exact h
      | error e => exact h
  | call c k ih =>
      refine ⟨h.1, fun hc r r' => ?_, fun r hr => ih r (h.2.2 r hr)⟩
      show (k r).bind f = (k r').bind f
      rw [h.2.1 hc r r']

theorem Conforms.attempt {Q : Except ε (Except ε α) → Prop} {p : Prog Ans ε α}
    (h : p.Conforms K (fun r => Q (.ok r))) : p.attempt.Conforms K Q := by
  induction p with
  | done r => exact h
  | call c k ih =>
      refine ⟨h.1, fun hc r r' => ?_, fun r hr => ih r (h.2.2 r hr)⟩
      show (k r).attempt = (k r').attempt
      rw [h.2.1 hc r r']

/-- A call whose outcome is dropped. -/
theorem conforms_ignored {c : Call} {Q : Except ε Unit → Prop} (hc : K.calls c) (hQ : Q (.ok ())) :
    ((perform c : Prog Ans ε (Ans c)).attempt >>= fun _ => pure ()).Conforms K Q :=
  ⟨hc, fun _ _ _ => rfl, fun _ _ => hQ⟩

/-- **Loops.** -/
theorem Conforms.forM {γ : Type} {f : γ → Prog Ans ε PUnit} {Q : Except ε PUnit → Prop}
    (hok : Q (.ok ⟨⟩)) :
    ∀ (xs : List γ), (∀ x ∈ xs, (f x).Conforms K (fun r => ∀ e, r = .error e → Q (.error e))) →
      (xs.forM f).Conforms K Q
  | [], _ => hok
  | x :: xs, h => by
      refine Conforms.bind (Conforms.mono ?_ (h x List.mem_cons_self))
      intro r hr
      cases r with
      | ok a => exact Conforms.forM hok xs (fun y hy => h y (List.mem_cons_of_mem x hy))
      | error e => exact hr e rfl

section runs
variable {react : W → (c : Call) → F → W × Except ε (Ans c)} {R : Rely W} {p p' : Prog Ans ε α}
  {w w' : W} {tr : List (Call × F)}

/-- **A run keeps the contract**, wherever it ends. -/
theorem Conforms.steps (hreact : ∀ w c f e, (react w c f).2 = .error e → K.errors e)
    (hs : Steps react R p w tr p' w') (h : p.Conforms K Q) :
    p'.Conforms K Q ∧ ∀ cf ∈ tr, K.calls cf.1 := by
  induction hs with
  | refl p w => exact ⟨h, by simp⟩
  | move _ _ ih => exact ih h
  | @call c k p' w w' tr f _ ih =>
      obtain ⟨hend, htr⟩ := ih (h.2.2 _ (hreact w c f))
      refine ⟨hend, fun cf hcf => ?_⟩
      rcases List.mem_cons.mp hcf with rfl | hcf
      · exact h.1
      · exact htr cf hcf

/-- The choices of a run, with those of some calls made anew. -/
def rechoose (P : Call → Prop) [DecidablePred P] (choose : Call → F → F)
    (tr : List (Call × F)) : List (Call × F) :=
  tr.map (fun cf => if P cf.1 then (cf.1, choose cf.1 cf.2) else cf)

/-- **Ignored calls may fare in any way.**  If they leave the world alone, then every run is there
with any other choices for them, and ends the same. -/
theorem Conforms.rechoose {P : Call → Prop} [DecidablePred P] (hP : ∀ c, P c → K.ignored c)
    (hreact : ∀ w c f e, (react w c f).2 = .error e → K.errors e)
    (hworld : ∀ w c f f', P c → (react w c f).1 = (react w c f').1) (choose : Call → F → F)
    (hs : Steps react R p w tr p' w') (h : p.Conforms K Q) :
    Steps react R p w (rechoose P choose tr) p' w' := by
  induction hs with
  | refl p w => exact .refl p w
  | move hw _ ih => exact .move hw (ih h)
  | @call c k p' w w' tr f _ ih =>
      have hrest := ih (h.2.2 _ (hreact w c f))
      show Steps react R (.call c k) w ((if P c then (c, choose c f) else (c, f)) :: _) p' w'
      split_ifs with hc
      · rw [hworld w c f (choose c f) hc, h.2.1 (hP c hc) _ (react w c (choose c f)).2] at hrest
        exact .call _ hrest
      · exact .call f hrest

end runs

end Prog
end Effects
