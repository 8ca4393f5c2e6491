import Std.Data.ExtTreeMap
import Mathlib.Data.List.Basic

/-! # Stores keyed by a scope and a name

`Key` is a name inside a scope (a namespace, a workspace); `KeyMap` a finite map from keys.
`get?_insert`, `get?_erase` and `get?_filter` say what a lookup sees after an update,
`mem_values` what a listing holds, and `any_eq_false` when a search fails. -/

namespace Wire

/-- A name inside a scope. -/
structure Key where
  scope : String
  name : String
deriving DecidableEq, Repr

namespace Key

instance : Ord Key := ⟨compareLex (compareOn Key.scope) (compareOn Key.name)⟩

instance : Std.TransCmp (compare : Key → Key → Ordering) :=
  inferInstanceAs (Std.TransCmp (compareLex (compareOn Key.scope) (compareOn Key.name)))

theorem compare_def (a b : Key) :
    compare a b = (compare a.scope b.scope).then (compare a.name b.name) := rfl

instance : Std.LawfulEqCmp (compare : Key → Key → Ordering) where
  eq_of_compare {a b} h := by
    rw [compare_def, Ordering.then_eq_eq] at h
    obtain ⟨hs, hn⟩ := h
    cases a
    cases b
    simp_all

end Key

/-- A finite map from keys. -/
abbrev KeyMap (β : Type) := Std.ExtTreeMap Key β compare

namespace KeyMap
variable {β : Type} (m : KeyMap β) (k k' : Key)

/-- Everything stored, in key order. -/
def values : List β := m.toList.map Prod.snd

theorem get?_insert (v : β) : (m.insert k v)[k']? = if k = k' then some v else m[k']? := by
  rw [Std.ExtTreeMap.getElem?_insert]
  simp

theorem get?_erase : (m.erase k)[k']? = if k = k' then none else m[k']? := by
  rw [Std.ExtTreeMap.getElem?_erase]
  simp

theorem get?_filter (f : Key → β → Bool) : (m.filter f)[k]? = m[k]?.filter (f k) := by
  rw [Std.ExtTreeMap.getElem?_filter]
  simp [Option.pfilter_eq_filter]

theorem mem_values {v : β} : v ∈ m.values ↔ ∃ k : Key, m[k]? = some v := by
  simp only [values, List.mem_map, Prod.exists, exists_eq_right,
    Std.ExtTreeMap.mem_toList_iff_getElem?_eq_some]

theorem mem_toList {v : β} {m : KeyMap β} {k : Key} (h : m[k]? = some v) : (k, v) ∈ m.toList :=
  Std.ExtTreeMap.mem_toList_iff_getElem?_eq_some.mpr h

/-- The loop of `any`, over a list. -/
theorem run_any {α : Type} (p : α → Bool) (l : List α) :
    (ForIn.forIn (m := Id) l ((none, ()) : Option Bool × Unit) fun a _ =>
      if p a = true then pure (ForInStep.done (some true, ()))
      else pure (ForInStep.yield (none, ()))).run.1 = if l.any p then some true else none := by
  induction l with
  | nil => rfl
  | cons a l ih =>
      rw [List.forIn_cons, List.any_cons]
      by_cases h : p a
      · simp [h]
      · simp only [h] at ih ⊢
        exact ih

theorem any_eq_loop (p : Key → β → Bool) :
    m.any p = ((ForIn.forIn (m := Id) m ((none, ()) : Option Bool × Unit) fun e _ =>
      if p e.1 e.2 = true then pure (ForInStep.done (some true, ()))
      else pure (ForInStep.yield (none, ()))).run.1).getD false := by
  obtain ⟨⟨q⟩⟩ := m
  induction q using Quotient.ind with
  | _ t =>
      show Std.DTreeMap.Internal.Impl.any t.inner p = Option.getD (Id.run (ForIn.forIn t.inner
        ((none, ()) : Option Bool × Unit) (fun e _ =>
          if p e.1 e.2 = true then pure (ForInStep.done (some true, ()))
          else pure (ForInStep.yield (none, ()))))).1 false
      unfold Std.DTreeMap.Internal.Impl.any
      rw [Id.run_bind]
      generalize (forIn t.inner ((none, ()) : Option Bool × Unit) _ : Id _).run = r
      obtain ⟨found, _⟩ := r
      cases found <;> rfl

/-- A search that nothing stored satisfies fails. -/
theorem any_eq_false {p : Key → β → Bool} (h : ∀ k v, m[k]? = some v → p k v = false) :
    m.any p = false := by
  have hlist : m.toList.any (fun e => p e.1 e.2) = false := by
    rw [List.any_eq_false]
    intro e he
    rw [h e.1 e.2 (Std.ExtTreeMap.mem_toList_iff_getElem?_eq_some.mp he)]
    exact Bool.false_ne_true
  rw [any_eq_loop, Std.ExtTreeMap.forIn_eq_forIn_toList, run_any (fun e : Key × β => p e.1 e.2), hlist]
  rfl

end KeyMap
end Wire
