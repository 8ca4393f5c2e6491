import OpenShellOperator.Wire.Json
import Mathlib.Data.String.Basic

/-! # Merge patches

RFC 7386: the fields of a patch object are merged into the target, `null` removes a field,
and every other patch value replaces the target.  A field that the patch does not have stays
as it is.

Objects are lists of fields in key order (`Sorted`), so that two of them with the same fields
are equal (`ext_of_sorted`).  `mergePatch_eq_iff` says when a patch whose values are all
replaced as a whole leaves exactly the patch: when the target has no other field.

`strategicMerge` is the variant of the Kubernetes API that merges a list of objects by a merge
key (`findItem_mergeItem`). -/

namespace Wire
namespace Json

/-! ### Objects in key order -/

/-- The keys are increasing. -/
def Sorted (m : List (String × Json)) : Prop := m.Pairwise (fun a b => a.1 < b.1)

theorem mem_insert {k : String} {v : Json} {m : List (String × Json)} {kv : String × Json}
    (h : kv ∈ insert k v m) : kv = (k, v) ∨ kv ∈ m := by
  induction m with
  | nil => simpa [insert] using h
  | cons kv' m ih =>
      unfold insert at h
      split_ifs at h with hlt heq
      · simpa using h
      · rcases List.mem_cons.mp h with h | h
        · exact .inl h
        · exact .inr (List.mem_cons_of_mem _ h)
      · rcases List.mem_cons.mp h with h | h
        · exact .inr (by rw [h]; exact List.mem_cons_self)
        · exact (ih h).imp id (List.mem_cons_of_mem _)

theorem Sorted.insert {k : String} {v : Json} {m : List (String × Json)} (h : Sorted m) :
    Sorted (insert k v m) := by
  induction m with
  | nil => simp [Json.insert, Sorted]
  | cons kv m ih =>
      obtain ⟨k', v'⟩ := kv
      obtain ⟨hhead, htail⟩ := List.pairwise_cons.mp h
      unfold Json.insert
      split_ifs with hlt heq
      · refine List.pairwise_cons.mpr ⟨?_, h⟩
        intro kv hkv
        rcases List.mem_cons.mp hkv with rfl | hkv
        · exact hlt
        · exact lt_trans hlt (hhead kv hkv)
      · subst heq
        exact List.pairwise_cons.mpr ⟨hhead, htail⟩
      · refine List.pairwise_cons.mpr ⟨?_, ih htail⟩
        intro kv hkv
        rcases mem_insert hkv with rfl | hkv
        · exact lt_of_le_of_ne (not_lt.mp hlt) heq
        · exact hhead kv hkv

theorem Sorted.insertSome {k : String} {o : Option Json} {m : List (String × Json)}
    (h : Sorted m) : Sorted (insertSome k o m) := by
  cases o with
  | none => exact h
  | some v => exact h.insert

theorem sorted_nil : Sorted [] := List.Pairwise.nil

/-- A key below all others is not there. -/
theorem find_eq_none_of_lt {k : String} {m : List (String × Json)} (h : ∀ kv ∈ m, k < kv.1) :
    find k m = none := by
  induction m with
  | nil => rfl
  | cons kv m ih =>
      obtain ⟨k', v'⟩ := kv
      have hne : k' ≠ k := (h (k', v') List.mem_cons_self).ne'
      rw [find, if_neg hne]
      exact ih (fun kv hkv => h kv (List.mem_cons_of_mem _ hkv))

/-- The first key of one of two objects with the same fields is not below that of the other:
it would be missing there. -/
theorem first_not_lt {k k' : String} {v v' : Json} {m m' : List (String × Json)}
    (h' : Sorted ((k', v') :: m')) (hf : find k ((k, v) :: m) = find k ((k', v') :: m')) :
    ¬ k < k' := by
  intro hlt
  obtain ⟨hhead', -⟩ := List.pairwise_cons.mp h'
  have hnone : find k ((k', v') :: m') = none := by
    refine find_eq_none_of_lt (fun kv hkv => ?_)
    rcases List.mem_cons.mp hkv with rfl | hkv
    · exact hlt
    · exact lt_trans hlt (hhead' kv hkv)
  rw [hnone] at hf
  simp [find] at hf

/-- Objects in key order with the same fields are equal. -/
theorem ext_of_sorted {m m' : List (String × Json)} (h : Sorted m) (h' : Sorted m')
    (hf : ∀ k, find k m = find k m') : m = m' := by
  induction m generalizing m' with
  | nil =>
      cases m' with
      | nil => rfl
      | cons kv m' =>
          have hk := hf kv.1
          simp [find] at hk
  | cons kv m ih =>
      obtain ⟨k, v⟩ := kv
      cases m' with
      | nil =>
          have hk := hf k
          simp [find] at hk
      | cons kv' m' =>
          obtain ⟨k', v'⟩ := kv'
          have hkk : k = k' :=
            le_antisymm (not_lt.mp (first_not_lt h (hf k').symm)) (not_lt.mp (first_not_lt h' (hf k)))
          subst hkk
          have hv := hf k
          simp only [find, if_true, Option.some.injEq] at hv
          subst hv
          obtain ⟨hhead, htail⟩ := List.pairwise_cons.mp h
          obtain ⟨hhead', htail'⟩ := List.pairwise_cons.mp h'
          have hrest : ∀ k₀, find k₀ m = find k₀ m' := by
            intro k₀
            by_cases hk : k = k₀
            · subst hk
              rw [find_eq_none_of_lt hhead, find_eq_none_of_lt hhead']
            · simpa [find, hk] using hf k₀
          rw [ih htail htail' hrest]

/-! ### Merging -/

/-- The fields of an object; any other value has none. -/
def fieldsOf : Json → List (String × Json)
  | .obj m => m
  | _ => []

/-- Remove a field. -/
def erase (k : String) (m : List (String × Json)) : List (String × Json) :=
  m.filter (fun kv => kv.1 != k)

mutual
/-- Apply a merge patch to a value. -/
def mergePatch (target : Json) : Json → Json
  | .obj patch => .obj (mergeFields (fieldsOf target) patch)
  | v => v
/-- Apply the fields of a patch object one after the other. -/
def mergeFields (m : List (String × Json)) : List (String × Json) → List (String × Json)
  | [] => m
  | (k, v) :: patch =>
      match v with
      | .null => mergeFields (erase k m) patch
      | v => mergeFields (insert k (mergePatch ((find k m).getD .null) v) m) patch
end

/-- The value replaces whatever it is merged into. -/
def whole : Json → Bool
  | .null | .obj _ => false
  | _ => true

theorem mergePatch_whole {target v : Json} (h : whole v = true) : mergePatch target v = v := by
  cases v <;> simp_all [whole, mergePatch]

theorem mergeFields_cons_whole {m : List (String × Json)} {k : String} {v : Json}
    {patch : List (String × Json)} (h : whole v = true) :
    mergeFields m ((k, v) :: patch) = mergeFields (insert k v m) patch := by
  have hnull : v ≠ .null := by
    rintro rfl
    simp [whole] at h
  rw [mergeFields, mergePatch_whole h]
  exact hnull

section merge
variable {m patch : List (String × Json)}

theorem sorted_mergeFields (hw : ∀ kv ∈ patch, whole kv.2 = true) (hm : Sorted m) :
    Sorted (mergeFields m patch) := by
  induction patch generalizing m with
  | nil => rwa [mergeFields]
  | cons kv patch ih =>
      obtain ⟨k, v⟩ := kv
      rw [mergeFields_cons_whole (hw (k, v) List.mem_cons_self)]
      exact ih (fun kv hkv => hw kv (List.mem_cons_of_mem _ hkv)) hm.insert

/-- A field of the patch replaces the field of the target, which stays otherwise. -/
theorem find_mergeFields (hw : ∀ kv ∈ patch, whole kv.2 = true) (hp : Sorted patch) (k₀ : String) :
    find k₀ (mergeFields m patch) = (find k₀ patch).or (find k₀ m) := by
  induction patch generalizing m with
  | nil => simp [mergeFields, find]
  | cons kv patch ih =>
      obtain ⟨k, v⟩ := kv
      obtain ⟨hhead, htail⟩ := List.pairwise_cons.mp hp
      rw [mergeFields_cons_whole (hw (k, v) List.mem_cons_self),
        ih (fun kv hkv => hw kv (List.mem_cons_of_mem _ hkv)) htail, find_insert, find]
      by_cases hk : k = k₀
      · subst hk
        rw [find_eq_none_of_lt hhead]
        simp
      · simp [hk]

/-- **A patch of whole values leaves exactly the patch** if and only if the target has no
field that the patch lacks. -/
theorem mergePatch_eq_iff (hw : ∀ kv ∈ patch, whole kv.2 = true) (hp : Sorted patch)
    (hm : Sorted m) : mergePatch (.obj m) (.obj patch) = .obj patch ↔
      ∀ k, find k patch = none → find k m = none := by
  rw [mergePatch, fieldsOf, Json.obj.injEq]
  constructor
  · intro h k hk
    have hfind := find_mergeFields (m := m) hw hp k
    rw [h, hk, Option.none_or] at hfind
    exact hfind.symm
  · intro h
    refine ext_of_sorted (sorted_mergeFields hw hm) hp (fun k => ?_)
    rw [find_mergeFields hw hp]
    cases hk : find k patch with
    | none => rw [h k hk, Option.none_or]
    | some v => rfl

end merge

/-! ### Records -/

section record
variable {keys : List String} {f g : String → Option Json}

/-- A record with some of its fields left out, as a serializer renders it. -/
def record (keys : List String) (f : String → Option Json) : List (String × Json) :=
  keys.foldl (fun m k => insertSome k (f k) m) []

theorem sorted_record (keys : List String) (f : String → Option Json) : Sorted (record keys f) := by
  have hfold : ∀ m, Sorted m → Sorted (keys.foldl (fun m k => insertSome k (f k) m) m) := by
    induction keys with
    | nil => exact fun m hm => hm
    | cons k keys ih => exact fun m hm => ih _ hm.insertSome
  exact hfold [] sorted_nil

theorem find_record (k₀ : String) :
    find k₀ (record keys f) = if k₀ ∈ keys then f k₀ else none := by
  have hfold : ∀ m, find k₀ (keys.foldl (fun m k => insertSome k (f k) m) m) =
      if k₀ ∈ keys then (f k₀).or (find k₀ m) else find k₀ m := by
    induction keys with
    | nil => intro m; simp
    | cons k keys ih =>
        intro m
        rw [List.foldl_cons, ih, find_insertSome]
        by_cases hk : k = k₀
        · subst hk
          simp only [List.mem_cons, true_or, if_true]
          split_ifs <;> cases f k <;> rfl
        · have hk' : ¬ k₀ = k := fun h => hk h.symm
          simp only [List.mem_cons, hk, hk', false_or, if_false]
  rw [record, hfold, find_nil, Option.or_none]

theorem whole_insertSome {k : String} {o : Option Json} {m : List (String × Json)}
    (ho : ∀ v, o = some v → whole v = true) (hm : ∀ kv ∈ m, whole kv.2 = true) :
    ∀ kv ∈ insertSome k o m, whole kv.2 = true := by
  cases o with
  | none => exact hm
  | some v =>
      intro kv hkv
      rcases mem_insert hkv with rfl | hkv
      · exact ho v rfl
      · exact hm kv hkv

/-- What a record holds comes from its fields. -/
theorem whole_record (hf : ∀ k v, f k = some v → whole v = true) :
    ∀ kv ∈ record keys f, whole kv.2 = true := by
  have hfold : ∀ m, (∀ kv ∈ m, whole kv.2 = true) →
      ∀ kv ∈ keys.foldl (fun m k => insertSome k (f k) m) m, whole kv.2 = true := by
    induction keys with
    | nil => exact fun m hm => hm
    | cons k keys ih => exact fun m hm => ih _ (whole_insertSome (hf k) hm)
  exact hfold [] (by simp)

/-- Merging a record of whole values into another of the same type: the fields it leaves out
stay as they are. -/
theorem mergePatch_record (hg : ∀ k v, g k = some v → whole v = true) :
    mergePatch (.obj (record keys f)) (.obj (record keys g)) =
      .obj (record keys (fun k => (g k).or (f k))) := by
  rw [mergePatch, fieldsOf]
  congr 1
  refine ext_of_sorted (sorted_mergeFields (whole_record hg) (sorted_record keys f))
    (sorted_record keys _) (fun k => ?_)
  rw [find_mergeFields (whole_record hg) (sorted_record keys g), find_record, find_record,
    find_record]
  split_ifs <;> rfl

/-- The merge leaves exactly the new record if and only if the old one has no field that the
new one leaves out. -/
theorem mergePatch_record_eq_iff (hg : ∀ k v, g k = some v → whole v = true) :
    mergePatch (.obj (record keys f)) (.obj (record keys g)) = .obj (record keys g) ↔
      ∀ k ∈ keys, g k = none → f k = none := by
  rw [mergePatch_eq_iff (whole_record hg) (sorted_record keys g) (sorted_record keys f)]
  constructor
  · intro h k hk hnone
    have hfind := h k
    rw [find_record, find_record, if_pos hk, if_pos hk] at hfind
    exact hfind hnone
  · intro h k hnone
    rw [find_record] at hnone ⊢
    split_ifs at hnone ⊢ with hk
    · exact h k hk hnone
    · rfl

/-- A record merged into nothing is the record. -/
theorem mergePatch_null_record (hg : ∀ k v, g k = some v → whole v = true) :
    mergePatch .null (.obj (record keys g)) = .obj (record keys g) := by
  have h := (mergePatch_eq_iff (m := []) (whole_record hg) (sorted_record keys g) sorted_nil).mpr
    (fun _ _ => rfl)
  exact h

end record

/-! ### Strategic merges

A strategic merge patch merges lists of objects item by item, telling them apart by the string
under a merge key, and everything else as a merge patch does. -/

section strategic
variable (key : String)

/-- The merge key of an item. -/
def keyOf (item : Json) : Option String :=
  match item.get? key with
  | some (.str name) => some name
  | _ => none

/-- Merge into the first item with the merge key of the patch, or append. -/
def mergeItem (patch : Json) : List Json → List Json
  | [] => [mergePatch .null patch]
  | item :: items =>
      if keyOf key item = keyOf key patch then mergePatch item patch :: items
      else item :: mergeItem patch items

/-- The items of a list field. -/
def itemsOf (field : String) (v : Json) : List Json :=
  match v.get? field with
  | some (.arr items) => items
  | _ => []

/-- Apply a patch; the items of the list `field` are merged by `key`. -/
def strategicMerge (field : String) (target patch : Json) : Json :=
  .obj (insert field (.arr ((itemsOf field patch).foldl (fun items item => mergeItem key item items)
      (itemsOf field target)))
    (mergeFields (fieldsOf target) (erase field (fieldsOf patch))))

/-- The first item with a merge key. -/
def findItem (name : String) (items : List Json) : Option Json :=
  items.find? (fun item => keyOf key item == some name)

variable {key}

theorem itemsOf_strategicMerge (field : String) (target patch : Json) :
    itemsOf field (strategicMerge key field target patch) =
      (itemsOf field patch).foldl (fun items item => mergeItem key item items)
        (itemsOf field target) := by
  simp only [strategicMerge, itemsOf, get?, find_insert, if_true]

/-- The item of a patch that keeps its merge key is merged into the item of that key. -/
theorem findItem_mergeItem {patch : Json} {name : String} (hpatch : keyOf key patch = some name)
    (hkeep : ∀ item, keyOf key (mergePatch item patch) = some name) (items : List Json) :
    findItem key name (mergeItem key patch items) =
      some (mergePatch ((findItem key name items).getD .null) patch) := by
  induction items with
  | nil => simp [mergeItem, findItem, hkeep]
  | cons item items ih =>
      unfold mergeItem
      by_cases hitem : keyOf key item = some name
      · simp [hpatch, hitem, findItem, hkeep]
      · have hne : (keyOf key item == some name) = false := by simpa using hitem
        rw [hpatch, if_neg hitem, findItem, List.find?_cons, hne]
        simpa [findItem, List.find?_cons, hne] using ih

end strategic
end Json
end Wire
