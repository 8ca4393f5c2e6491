import OpenShellOperator.Kube
import Mathlib.Data.List.Induction
import Mathlib.Data.List.Nodup

/-! # Condition histories

A condition is set again by every reconcile, and its transition time is kept while its status
stays the same.  `transition_times` says what a whole history of such calls leaves: for each type
the last call, with the time of the first call since the status last flipped, and all other
conditions as they were.

One call touches one type (`find?_set`, `filter_set`, `types_set`), so that the entry of a type
is what the calls of that type make of it (`find?_setAll`); the transition time is then an
induction over those calls alone (`entryAfter_eq`). -/

namespace OpenShell.Conditions

/-- Set one condition after the other. -/
def setAll (conditions : List Condition) (calls : List Condition) : List Condition :=
  calls.foldl set conditions

/-! ### One call -/

section one
variable {conditions : List Condition} {new : Condition}

/-- What a call makes of the entry of its type. -/
def updated (existing : Option Condition) (new : Condition) : Condition :=
  { new with
    lastTransitionTime :=
      match existing with
      | some existing =>
          if existing.status = new.status then existing.lastTransitionTime
          else new.lastTransitionTime
      | none => new.lastTransitionTime }

theorem set_cons_of_eq {existing : Condition} (h : existing.type_ = new.type_)
    (rest : List Condition) : set (existing :: rest) new = updated (some existing) new :: rest := by
  rw [set, if_pos h]
  rfl

theorem set_cons_of_ne {existing : Condition} (h : existing.type_ ≠ new.type_)
    (rest : List Condition) : set (existing :: rest) new = existing :: set rest new := by
  rw [set, if_neg h]

theorem find?_set (conditions : List Condition) (new : Condition) (t : String) :
    (set conditions new).find? (·.type_ = t) =
      if new.type_ = t then some (updated (conditions.find? (·.type_ = t)) new)
      else conditions.find? (·.type_ = t) := by
  have htype : ∀ o, (updated o new).type_ = new.type_ := fun _ => rfl
  induction conditions with
  | nil =>
      show [updated none new].find? _ = _
      by_cases ht : new.type_ = t <;> simp [htype, ht]
  | cons existing rest ih =>
      by_cases hsame : existing.type_ = new.type_
      · rw [set_cons_of_eq hsame]
        by_cases ht : new.type_ = t <;> simp [htype, hsame, ht]
      · rw [set_cons_of_ne hsame, List.find?_cons, List.find?_cons, ih]
        by_cases he : existing.type_ = t
        · have ht : ¬ new.type_ = t := fun h => hsame (he.trans h.symm)
          simp [he, ht]
        · simp [he]

/-- The entries whose types are not that of the call stay, in their order. -/
theorem filter_set {p : Condition → Bool} (hp : ∀ c, c.type_ = new.type_ → p c = false) :
    (set conditions new).filter p = conditions.filter p := by
  induction conditions with
  | nil => simp [set, hp new rfl]
  | cons existing rest ih =>
      by_cases hsame : existing.type_ = new.type_
      · have hupdated : p (updated (some existing) new) = false := hp _ rfl
        simp [set_cons_of_eq hsame, hupdated, hp existing hsame]
      · rw [set_cons_of_ne hsame, List.filter_cons, List.filter_cons, ih]

theorem types_set (conditions : List Condition) (new : Condition) :
    (set conditions new).map (·.type_) =
      if new.type_ ∈ conditions.map (·.type_) then conditions.map (·.type_)
      else conditions.map (·.type_) ++ [new.type_] := by
  induction conditions with
  | nil => simp [set]
  | cons existing rest ih =>
      by_cases hsame : existing.type_ = new.type_
      · simp [set_cons_of_eq hsame, updated, hsame]
      · have hne : ¬ new.type_ = existing.type_ := fun h => hsame h.symm
        rw [set_cons_of_ne hsame, List.map_cons, ih]
        simp only [List.map_cons, List.mem_cons, hne, false_or]
        split_ifs <;> rfl

theorem nodup_types_set (h : (conditions.map (·.type_)).Nodup) :
    ((set conditions new).map (·.type_)).Nodup := by
  rw [types_set]
  split_ifs with hmem
  · exact h
  · rw [← List.concat_eq_append]
    exact h.concat hmem

/-- Setting what is there already, at whatever time, changes nothing. -/
theorem set_of_find? {existing : Condition}
    (h : conditions.find? (·.type_ = new.type_) = some existing)
    (hsame : existing = { new with lastTransitionTime := existing.lastTransitionTime }) :
    set conditions new = conditions := by
  induction conditions with
  | nil => cases h
  | cons first rest ih =>
      by_cases htype : first.type_ = new.type_
      · rw [List.find?_cons_of_pos (by simpa using htype), Option.some.injEq] at h
        subst h
        have hstatus : first.status = new.status := by rw [hsame]
        rw [set_cons_of_eq htype, updated]
        simp only [hstatus, if_true]
        rw [← hsame]
      · rw [List.find?_cons_of_neg (by simpa using htype)] at h
        rw [set_cons_of_ne htype, ih h]

end one

/-! ### The calls of one type -/

/-- The entry of a type after the calls of that type. -/
def entryAfter (stored : Option Condition) (history : List Condition) : Option Condition :=
  history.foldl (fun entry call => some (updated entry call)) stored

theorem entryAfter_concat (stored : Option Condition) (history : List Condition) (call : Condition) :
    entryAfter stored (history ++ [call]) = some (updated (entryAfter stored history) call) := by
  simp [entryAfter]

/-- The time at which the block of calls that starts with `first` entered its status: the stored
time, if nothing came before and the status was already stored. -/
def flipTime (stored : Option Condition) (before : List Condition) (first : Condition) : Time :=
  match before, stored with
  | [], some stored =>
      if stored.status = first.status then stored.lastTransitionTime else first.lastTransitionTime
  | _, _ => first.lastTransitionTime

/-- The calls `first :: rest` are the longest final block of one status. -/
structure FinalBlock (history before : List Condition) (first : Condition) (rest : List Condition) :
    Prop where
  split : history = before ++ first :: rest
  equal : ∀ call ∈ rest, call.status = first.status
  maximal : ∀ call, before.getLast? = some call → call.status ≠ first.status

/-- **The transition time of one type.**  The entry is the last call, with the time at which the
final block entered its status. -/
theorem entryAfter_eq (stored : Option Condition) (history : List Condition) (h : history ≠ []) :
    ∃ before first rest last, FinalBlock history before first rest ∧
      history.getLast? = some last ∧ last.status = first.status ∧
      entryAfter stored history =
        some { last with lastTransitionTime := flipTime stored before first } := by
  induction history using List.reverseRecOn with
  | nil => exact absurd rfl h
  | append_singleton history call ih =>
      rw [entryAfter_concat]
      by_cases hempty : history = []
      · subst hempty
        refine ⟨[], call, [], call, ⟨rfl, by simp, by simp⟩, by simp, rfl, ?_⟩
        cases stored <;> rfl
      · obtain ⟨before, first, rest, last, hblock, hlast, hstatus, hentry⟩ := ih hempty
        rw [hentry]
        by_cases hflip : last.status = call.status
        · -- the block goes on, and so does its time
          refine ⟨before, first, rest ++ [call], call, ⟨?_, ?_, hblock.maximal⟩, by simp,
            hflip.symm.trans hstatus, ?_⟩
          · rw [hblock.split, List.append_assoc, List.cons_append]
          · intro c hc
            rcases List.mem_append.mp hc with hc | hc
            · exact hblock.equal c hc
            · rw [List.mem_singleton.mp hc, ← hflip, hstatus]
          · simp only [updated, hflip, if_true]
        · -- the status flips with this call
          refine ⟨history, call, [], call, ⟨rfl, by simp, ?_⟩, by simp, rfl, ?_⟩
          · intro c hc
            rw [hlast, Option.some.injEq] at hc
            rw [← hc]
            exact hflip
          · obtain ⟨c, cs, rfl⟩ := List.exists_cons_of_ne_nil hempty
            simp only [updated, hflip, if_false, flipTime]

/-! ### Histories -/

section histories
variable {conditions calls : List Condition}

theorem setAll_concat (conditions calls : List Condition) (call : Condition) :
    setAll conditions (calls ++ [call]) = set (setAll conditions calls) call := by
  simp [setAll]

/-- The entry of a type is what the calls of that type make of it. -/
theorem find?_setAll (conditions calls : List Condition) (t : String) :
    (setAll conditions calls).find? (·.type_ = t) =
      entryAfter (conditions.find? (·.type_ = t)) (calls.filter (·.type_ = t)) := by
  induction calls using List.reverseRecOn with
  | nil => rfl
  | append_singleton calls call ih =>
      rw [setAll_concat, find?_set, List.filter_append, ih]
      by_cases ht : call.type_ = t
      · simp [ht, entryAfter_concat]
      · simp [ht]

theorem nodup_types_setAll (h : (conditions.map (·.type_)).Nodup) :
    ((setAll conditions calls).map (·.type_)).Nodup := by
  induction calls using List.reverseRecOn with
  | nil => exact h
  | append_singleton calls call ih =>
      rw [setAll_concat]
      exact nodup_types_set ih

theorem filter_setAll {p : Condition → Bool}
    (hp : ∀ call ∈ calls, ∀ c : Condition, c.type_ = call.type_ → p c = false) :
    (setAll conditions calls).filter p = conditions.filter p := by
  induction calls using List.reverseRecOn with
  | nil => rfl
  | append_singleton calls call ih =>
      rw [setAll_concat, filter_set (hp call (by simp))]
      exact ih (fun c hc => hp c (List.mem_append_left _ hc))

/-- The call has the outcome of the last of the calls of its type; only its time may differ. -/
def Repeats (calls : List Condition) (call : Condition) : Prop :=
  ∃ last, (calls.filter (·.type_ = call.type_)).getLast? = some last ∧
    call = { last with lastTransitionTime := call.lastTransitionTime }

/-- Repeating the last call of a type changes nothing. -/
theorem set_repeats {call : Condition} (h : Repeats calls call) :
    set (setAll conditions calls) call = setAll conditions calls := by
  obtain ⟨last, hlast, hcall⟩ := h
  have hne : calls.filter (·.type_ = call.type_) ≠ [] := by
    intro hnil
    rw [hnil] at hlast
    cases hlast
  obtain ⟨before, first, rest, last', -, hlast', -, hentry⟩ :=
    entryAfter_eq (conditions.find? (·.type_ = call.type_)) _ hne
  rw [hlast, Option.some.injEq] at hlast'
  subst hlast'
  refine set_of_find? ((find?_setAll _ _ _).trans hentry) ?_
  rw [hcall]

theorem setAll_repeats {again : List Condition} (h : ∀ call ∈ again, Repeats calls call) :
    setAll conditions (calls ++ again) = setAll conditions calls := by
  induction again using List.reverseRecOn with
  | nil => rw [List.append_nil]
  | append_singleton again call ih =>
      rw [← List.append_assoc, setAll_concat, ih (fun c hc => h c (List.mem_append_left _ hc))]
      exact set_repeats (h call (by simp))

/-- **`lastTransitionTime` is the moment of the last flip.**  After any history of calls on
conditions of distinct types:

* the types are distinct, and the entries of types that were not set are as they were;
* each set type holds its last call, with the time of the first call of the longest final block
  of one status, or the stored time when the block is all there is and the stored status is the
  same;
* calls with the outcomes of the last calls of their types, at whatever times, change nothing. -/
theorem transition_times (h : (conditions.map (·.type_)).Nodup) (calls : List Condition) :
    ((setAll conditions calls).map (·.type_)).Nodup ∧
    (setAll conditions calls).filter (·.type_ ∉ calls.map (·.type_)) =
      conditions.filter (·.type_ ∉ calls.map (·.type_)) ∧
    (∀ t ∈ calls.map (·.type_), ∃ before first rest last,
      FinalBlock (calls.filter (·.type_ = t)) before first rest ∧
      (calls.filter (·.type_ = t)).getLast? = some last ∧
      (setAll conditions calls).find? (·.type_ = t) = some { last with
        lastTransitionTime := flipTime (conditions.find? (·.type_ = t)) before first }) ∧
    ∀ again : List Condition, (∀ call ∈ again, Repeats calls call) →
      setAll conditions (calls ++ again) = setAll conditions calls := by
  refine ⟨nodup_types_setAll h, ?_, ?_, ?_⟩
  · refine filter_setAll (fun call hcall c hc => ?_)
    simp only [decide_eq_false_iff_not, not_not, hc]
    exact List.mem_map_of_mem hcall
  · intro t ht
    obtain ⟨call, hcall, rfl⟩ := List.mem_map.mp ht
    have hne : calls.filter (·.type_ = call.type_) ≠ [] :=
      List.ne_nil_of_mem (List.mem_filter.mpr ⟨hcall, by simp⟩)
    obtain ⟨before, first, rest, last, hblock, hlast, -, hentry⟩ :=
      entryAfter_eq (conditions.find? (·.type_ = call.type_)) _ hne
    exact ⟨before, first, rest, last, hblock, hlast, (find?_setAll _ _ _).trans hentry⟩
  · intro again hagain
    exact setAll_repeats hagain

end histories

namespace Sample

def stored : List Condition :=
  [condition ready true "Reconciled" "sandbox reconciled with the gateway" (some 1) 10,
    condition "Degraded" false "AllSeeded" "no degraded credential" (some 1) 12]

/-- The condition of a reconcile that failed at a time. -/
def failed (now : Time) : Condition :=
  condition ready false "GatewayUnavailable" "gateway unavailable" (some 2) now

/-- After a success and two failures the time is that of the first failure; a third failure
changes nothing. -/
theorem time_of_first_failure :
    (stored.map (·.type_)).Nodup ∧
    (setAll stored [condition ready true "Reconciled" "sandbox reconciled with the gateway"
        (some 1) 20, failed 30, failed 40]).find? (·.type_ = ready) = some (failed 30) ∧
    setAll stored ([condition ready true "Reconciled" "sandbox reconciled with the gateway"
        (some 1) 20, failed 30, failed 40] ++ [failed 50]) =
      setAll stored [condition ready true "Reconciled" "sandbox reconciled with the gateway"
        (some 1) 20, failed 30, failed 40] := by
  have hdistinct : (stored.map (·.type_)).Nodup := by decide
  refine ⟨hdistinct, by decide, ?_⟩
  refine (transition_times hdistinct _).2.2.2 [failed 50] (fun call hcall => ?_)
  rw [List.mem_singleton.mp hcall]
  exact ⟨failed 40, by decide, rfl⟩

end Sample

end OpenShell.Conditions
