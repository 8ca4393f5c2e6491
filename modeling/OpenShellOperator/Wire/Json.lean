import Std.Data.ExtTreeMap
import Mathlib.Data.List.Basic
import Mathlib.Tactic.SplitIfs
import Mathlib.Data.Nat.Notation

/-! # JSON values

`Json` is a JSON value with its object fields in key order, as a `BTreeMap`-backed JSON map
keeps them.  Objects are built by `insert`, which keeps the order and overwrites an existing
key; `find` reads a field.  A field is read back by `find_insert` and `find_insertSome`, so
that equal objects have equal fields (`find_congr`).

String maps are `Std.ExtTreeMap String β`; `ofMap` renders one, and the renderings used here
lose nothing (`ofMap_inj`, `ofOption_map_inj`, `ofStrings_inj`).

`text` is a code of JSON values by strings without ambiguity (`text_injective`); it is not
the usual rendering, and serves where some injective rendering is needed. -/

namespace Wire

/-- A string-keyed map with its keys in order. -/
abbrev StrMap (β : Type) := Std.ExtTreeMap String β compare

/-- A JSON number: a non-negative or negative machine integer, or the bits of a float. -/
inductive Number where
  | posInt (n : UInt64)
  | negInt (n : Int64)
  | float (bits : UInt64)
deriving DecidableEq, Repr

inductive Json where
  | null
  | bool (b : Bool)
  | num (n : Number)
  | str (s : String)
  | arr (items : List Json)
  | obj (fields : List (String × Json))
deriving Repr, Inhabited

namespace Json

/-! ### Object fields -/

/-- The value stored under a key. -/
def find (k : String) : List (String × Json) → Option Json
  | [] => none
  | (k', v) :: m => if k' = k then some v else find k m

/-- Store a value under a key, in key order, overwriting an existing one. -/
def insert (k : String) (v : Json) : List (String × Json) → List (String × Json)
  | [] => [(k, v)]
  | (k', v') :: m =>
      if k < k' then (k, v) :: (k', v') :: m
      else if k' = k then (k, v) :: m
      else (k', v') :: insert k v m

/-- Store a value under a key when there is one. -/
def insertSome (k : String) : Option Json → List (String × Json) → List (String × Json)
  | some v, m => insert k v m
  | none, m => m

/-- The object with the given fields, inserted one after the other. -/
def ofPairs (kvs : List (String × Json)) : Json :=
  .obj (kvs.foldl (fun m kv => insert kv.1 kv.2 m) [])

/-- A field of an object. -/
def get? : Json → String → Option Json
  | .obj m, k => find k m
  | _, _ => none

theorem find_insert (k₀ k : String) (v : Json) (m : List (String × Json)) :
    find k₀ (insert k v m) = if k = k₀ then some v else find k₀ m := by
  induction m with
  | nil => simp [insert, find]
  | cons kv m ih =>
      obtain ⟨k', v'⟩ := kv
      unfold insert
      by_cases hlt : k < k'
      · simp [hlt, find]
      · by_cases heq : k' = k
        · subst heq
          by_cases hk : k' = k₀ <;> simp [find, hk]
        · simp only [hlt, heq, if_false, find, ih]
          by_cases hk : k = k₀
          · have hne : k' ≠ k₀ := by rw [← hk]; exact heq
            simp [hne, hk]
          · simp [hk]

theorem find_insertSome (k₀ k : String) (o : Option Json) (m : List (String × Json)) :
    find k₀ (insertSome k o m) = if k = k₀ then o.or (find k₀ m) else find k₀ m := by
  cases o with
  | none => simp [insertSome]
  | some v => simp [insertSome, find_insert]

theorem find_nil (k : String) : find k [] = none := rfl

theorem find_congr {m m' : List (String × Json)} (h : Json.obj m = Json.obj m') (k : String) :
    find k m = find k m' := by
  rw [Json.obj.inj h]

/-! ### Renderings -/

/-- An absent value is `null`. -/
def ofOption : Option Json → Json
  | some v => v
  | none => .null

/-- A 32-bit unsigned integer. -/
def ofU32 (n : UInt32) : Json := .num (.posInt n.toUInt64)

/-- An optional string. -/
def ofStr? (s : Option String) : Json := ofOption (s.map .str)

/-- A list of strings. -/
def ofStrings (l : List String) : Json := .arr (l.map .str)

/-- A map, in key order. -/
def ofMap {β : Type} (f : β → Json) (m : StrMap β) : Json :=
  .obj (m.toList.map (fun kv => (kv.1, f kv.2)))

theorem obj_ne_null (m : List (String × Json)) : Json.obj m ≠ .null := nofun

theorem ofU32_injective : Function.Injective ofU32 := by
  intro m n h
  exact UInt32.toUInt64_inj.mp (Number.posInt.inj (Json.num.inj h))

/-- An optional value that is never rendered as `null` is read back from its rendering. -/
theorem ofOption_map_inj {α : Type} {f : α → Json} (hf : Function.Injective f)
    (hnull : ∀ a, f a ≠ .null) {o o' : Option α}
    (h : ofOption (o.map f) = ofOption (o'.map f)) : o = o' := by
  cases o with
  | none =>
      cases o' with
      | none => rfl
      | some b => exact absurd h.symm (hnull b)
  | some a =>
      cases o' with
      | none => exact absurd h (hnull a)
      | some b => exact congrArg some (hf h)

theorem ofStr?_inj {s t : Option String} (h : ofStr? s = ofStr? t) : s = t := by
  cases s <;> cases t <;> simp_all [ofStr?, ofOption]

theorem ofStrings_inj {l l' : List String} (h : ofStrings l = ofStrings l') : l = l' :=
  List.map_injective_iff.mpr (fun _ _ h => Json.str.inj h) (Json.arr.inj h)

theorem ofMap_inj {β : Type} {f : β → Json} (hf : Function.Injective f) {m m' : StrMap β}
    (h : ofMap f m = ofMap f m') : m = m' := by
  apply Std.ExtTreeMap.toList_inj.mp
  refine List.map_injective_iff.mpr ?_ (Json.obj.inj h)
  intro a b he
  obtain ⟨hk, hv⟩ := Prod.mk.inj he
  exact Prod.ext hk (hf hv)

/-! ### Patches -/

/-- The reference tokens of a JSON pointer, still escaped. -/
def splitSlash : List Char → List (List Char)
  | [] => [[]]
  | c :: cs =>
      if c = '/' then [] :: splitSlash cs
      else match splitSlash cs with
        | t :: ts => (c :: t) :: ts
        | [] => [[c]]

def unescapeToken : List Char → List Char
  | '~' :: '1' :: cs => '/' :: unescapeToken cs
  | '~' :: '0' :: cs => '~' :: unescapeToken cs
  | c :: cs => c :: unescapeToken cs
  | [] => []

/-- A JSON pointer as the keys it walks down. -/
def pointer (path : String) : Option (List String) :=
  match path.toList with
  | [] => some []
  | '/' :: cs => some ((splitSlash cs).map (fun t => String.ofList (unescapeToken t)))
  | _ => none

/-- An array index of a pointer: decimal digits without a leading zero. -/
def arrayIndex (token : String) : Option ℕ :=
  match token.toList with
  | [] => none
  | ['0'] => some 0
  | c :: cs =>
      if c ≠ '0' && (c :: cs).all Char.isDigit then
        some ((c :: cs).foldl (fun n d => 10 * n + (d.toNat - '0'.toNat)) 0)
      else none

/-- Replace the value at a location that exists. -/
def replaceAt (value : Json) : List String → Json → Option Json
  | [], _ => some value
  | k :: ks, .obj m =>
      (find k m).bind (fun v => (replaceAt value ks v).map (fun v' => .obj (insert k v' m)))
  | k :: ks, .arr items =>
      (arrayIndex k).bind (fun i => items[i]?.bind (fun v =>
        (replaceAt value ks v).map (fun v' => .arr (items.set i v'))))
  | _, _ => none

/-- One operation of a JSON patch; `replace` is the only one here. -/
def applyOp (target op : Json) : Option Json :=
  match op.get? "op", op.get? "path", op.get? "value" with
  | some (.str "replace"), some (.str path), some value =>
      (pointer path).bind (fun keys => replaceAt value keys target)
  | _, _, _ => none

/-- A JSON patch: its operations one after the other. -/
def applyPatch (patch target : Json) : Option Json :=
  match patch with
  | .arr ops => ops.foldlM applyOp target
  | _ => none

/-! ### An unambiguous code -/

/-- A string, each character marked, with an end mark. -/
def strCode : List Char → List Char
  | [] => ['.']
  | c :: cs => 'c' :: c :: strCode cs

/-- A natural number in unary, with an end mark. -/
def natCode : ℕ → List Char
  | 0 => ['.']
  | n + 1 => 'i' :: natCode n

def numberCode : Number → List Char
  | .posInt n => 'p' :: natCode n.toNat
  | .negInt n => 'm' :: natCode n.toBitVec.toNat
  | .float b => 'f' :: natCode b.toNat

mutual
/-- The code of a value: a mark for its constructor and the codes of its parts. -/
def code : Json → List Char
  | .null => ['n']
  | .bool b => if b then ['t'] else ['u']
  | .num n => 'd' :: numberCode n
  | .str s => 's' :: strCode s.toList
  | .arr items => 'a' :: itemsCode items
  | .obj fields => 'o' :: fieldsCode fields
def itemsCode : List Json → List Char
  | [] => ['.']
  | v :: vs => ',' :: (code v ++ itemsCode vs)
def fieldsCode : List (String × Json) → List Char
  | [] => ['.']
  | (k, v) :: fs => ',' :: (strCode k.toList ++ (code v ++ fieldsCode fs))
end

/-- The code as a string. -/
def text (v : Json) : String := String.ofList (code v)

theorem strCode_append_inj : ∀ {l l' s t : List Char}, strCode l ++ s = strCode l' ++ t →
    l = l' ∧ s = t
  | [], [], _, _, h => by simpa [strCode] using h
  | [], _ :: _, _, _, h => by simp [strCode] at h
  | _ :: _, [], _, _, h => by simp [strCode] at h
  | c :: cs, d :: ds, s, t, h => by
      simp only [strCode, List.cons_append, List.cons.injEq, true_and] at h
      obtain ⟨rfl, h⟩ := h
      obtain ⟨rfl, hs⟩ := strCode_append_inj h
      exact ⟨rfl, hs⟩

theorem natCode_append_inj : ∀ {m n : ℕ} {s t : List Char}, natCode m ++ s = natCode n ++ t →
    m = n ∧ s = t
  | 0, 0, _, _, h => by simpa [natCode] using h
  | 0, _ + 1, _, _, h => by simp [natCode] at h
  | _ + 1, 0, _, _, h => by simp [natCode] at h
  | m + 1, n + 1, s, t, h => by
      simp only [natCode, List.cons_append, List.cons.injEq, true_and] at h
      obtain ⟨rfl, hs⟩ := natCode_append_inj h
      exact ⟨rfl, hs⟩

theorem numberCode_append_inj {m n : Number} {s t : List Char}
    (h : numberCode m ++ s = numberCode n ++ t) : m = n ∧ s = t := by
  cases m <;> cases n <;> simp [numberCode] at h <;> obtain ⟨hn, hs⟩ := natCode_append_inj h
  · exact ⟨congrArg _ (UInt64.toNat_inj.mp hn), hs⟩
  · exact ⟨congrArg _ (Int64.toBitVec_inj.mp (BitVec.eq_of_toNat_eq hn)), hs⟩
  · exact ⟨congrArg _ (UInt64.toNat_inj.mp hn), hs⟩

mutual
theorem code_append_inj : ∀ {v w : Json} {s t : List Char}, code v ++ s = code w ++ t →
    v = w ∧ s = t
  | .null, w, s, t, h => by
      cases w <;> simp [code] at h <;> try exact ⟨rfl, h⟩
      split_ifs at h <;> simp at h
  | .bool b, w, s, t, h => by
      cases w <;> cases b <;> simp [code] at h <;> split_ifs at h with hb <;> simp_all
  | .num n, w, s, t, h => by
      cases w <;> simp [code] at h
      · split_ifs at h <;> simp at h
      · obtain ⟨rfl, hs⟩ := numberCode_append_inj h
        exact ⟨rfl, hs⟩
  | .str a, w, s, t, h => by
      cases w <;> simp [code] at h
      · split_ifs at h <;> simp at h
      · obtain ⟨ha, hs⟩ := strCode_append_inj h
        exact ⟨congrArg _ (String.toList_inj.mp ha), hs⟩
  | .arr l, w, s, t, h => by
      cases w <;> simp [code] at h
      · split_ifs at h <;> simp at h
      · obtain ⟨rfl, hs⟩ := itemsCode_append_inj h
        exact ⟨rfl, hs⟩
  | .obj l, w, s, t, h => by
      cases w <;> simp [code] at h
      · split_ifs at h <;> simp at h
      · obtain ⟨rfl, hs⟩ := fieldsCode_append_inj h
        exact ⟨rfl, hs⟩
theorem itemsCode_append_inj : ∀ {l l' : List Json} {s t : List Char},
    itemsCode l ++ s = itemsCode l' ++ t → l = l' ∧ s = t
  | [], [], _, _, h => by simpa [itemsCode] using h
  | [], _ :: _, _, _, h => by simp [itemsCode] at h
  | _ :: _, [], _, _, h => by simp [itemsCode] at h
  | v :: vs, w :: ws, s, t, h => by
      simp only [itemsCode, List.cons_append, List.append_assoc, List.cons.injEq, true_and] at h
      obtain ⟨rfl, hvs⟩ := code_append_inj h
      obtain ⟨rfl, hs⟩ := itemsCode_append_inj hvs
      exact ⟨rfl, hs⟩
theorem fieldsCode_append_inj : ∀ {l l' : List (String × Json)} {s t : List Char},
    fieldsCode l ++ s = fieldsCode l' ++ t → l = l' ∧ s = t
  | [], [], _, _, h => by simpa [fieldsCode] using h
  | [], (_, _) :: _, _, _, h => by simp [fieldsCode] at h
  | (_, _) :: _, [], _, _, h => by simp [fieldsCode] at h
  | (k, v) :: vs, (k', w) :: ws, s, t, h => by
      simp only [fieldsCode, List.cons_append, List.append_assoc, List.cons.injEq, true_and] at h
      obtain ⟨hk, hv⟩ := strCode_append_inj h
      obtain ⟨rfl, hvs⟩ := code_append_inj hv
      obtain ⟨rfl, hs⟩ := fieldsCode_append_inj hvs
      rw [String.toList_inj.mp hk]
      exact ⟨rfl, hs⟩
end

/-- The code determines the value. -/
theorem code_injective : Function.Injective code := by
  intro v w h
  have hc : code v ++ [] = code w ++ [] := by rw [List.append_nil, List.append_nil, h]
  exact (code_append_inj hc).1

theorem text_injective : Function.Injective text := fun _ _ h =>
  code_injective (String.ofList_inj.mp h)

end Json
end Wire
