import Mathlib.Data.List.Basic
import Mathlib.Tactic.SplitIfs

/-! # Streams of terminated strings

A stream holds strings one after the other, each followed by an end mark.  When the mark
occurs in none of the strings, the stream determines them (`terminated_inj`); an empty string
is then a mark of its own.  Strings that come in pairs are read off up to a separator that is
no first half of a pair (`flattenPairs_append_inj`).

The bytes of a string in UTF-8 never hold `0xff` (`not_mem_utf8`), which makes that byte an end
mark for strings. -/

namespace Wire

/-! ### End marks -/

section streams
variable {α : Type} {mark : α}

/-- The strings one after the other, each followed by the mark. -/
def terminated (mark : α) (l : List (List α)) : List α := l.flatMap (· ++ [mark])

theorem terminated_cons (s : List α) (l : List (List α)) :
    terminated mark (s :: l) = s ++ mark :: terminated mark l := by
  simp [terminated]

/-- The first string of a stream ends at the first mark. -/
theorem append_mark_inj : ∀ {s s' r r' : List α}, mark ∉ s → mark ∉ s' →
    s ++ mark :: r = s' ++ mark :: r' → s = s' ∧ r = r'
  | [], [], _, _, _, _, h => ⟨rfl, (List.cons.inj h).2⟩
  | [], b :: s', _, _, _, hs', h => by
      have hb : mark = b := (List.cons.inj h).1
      exact absurd (hb ▸ List.mem_cons_self) hs'
  | a :: s, [], _, _, hs, _, h => by
      have ha : a = mark := (List.cons.inj h).1
      exact absurd (ha ▸ List.mem_cons_self) hs
  | a :: s, b :: s', r, r', hs, hs', h => by
      obtain ⟨rfl, htail⟩ := List.cons.inj h
      obtain ⟨rfl, hr⟩ := append_mark_inj (List.not_mem_of_not_mem_cons hs)
        (List.not_mem_of_not_mem_cons hs') htail
      exact ⟨rfl, hr⟩

/-- **A stream determines its strings** when the mark occurs in none of them. -/
theorem terminated_inj : ∀ {l l' : List (List α)}, (∀ s ∈ l, mark ∉ s) → (∀ s ∈ l', mark ∉ s) →
    terminated mark l = terminated mark l' → l = l'
  | [], [], _, _, _ => rfl
  | [], s' :: l', _, _, h => by
      rw [terminated_cons] at h
      simp [terminated] at h
  | s :: l, [], _, _, h => by
      rw [terminated_cons] at h
      simp [terminated] at h
  | s :: l, s' :: l', hl, hl', h => by
      rw [terminated_cons, terminated_cons] at h
      obtain ⟨rfl, hrest⟩ :=
        append_mark_inj (hl s List.mem_cons_self) (hl' s' List.mem_cons_self) h
      rw [terminated_inj (fun t ht => hl t (List.mem_cons_of_mem _ ht))
        (fun t ht => hl' t (List.mem_cons_of_mem _ ht)) hrest]

end streams

/-! ### Pairs and a separator -/

section pairs
variable {β : Type} {sep : β}

/-- Both halves of each pair, one after the other. -/
def flattenPairs (l : List (β × β)) : List β := l.flatMap (fun kv => [kv.1, kv.2])

theorem flattenPairs_cons (k v : β) (l : List (β × β)) :
    flattenPairs ((k, v) :: l) = k :: v :: flattenPairs l := rfl

theorem flattenPairs_injective : Function.Injective (flattenPairs (β := β)) := by
  intro l l' h
  induction l generalizing l' with
  | nil =>
      cases l' with
      | nil => rfl
      | cons kv l' => cases h
  | cons kv l ih =>
      cases l' with
      | nil => cases h
      | cons kv' l' =>
          obtain ⟨k, v⟩ := kv
          obtain ⟨k', v'⟩ := kv'
          rw [flattenPairs_cons, flattenPairs_cons, List.cons.injEq, List.cons.injEq] at h
          rw [h.1, h.2.1, ih h.2.2]

/-- **The separator is found**: it is the first string in the place of a key that is equal to
it, as the keys before it are not. -/
theorem flattenPairs_append_inj : ∀ {l l' : List (β × β)} {r r' : List β},
    (∀ kv ∈ l, kv.1 ≠ sep) → (∀ kv ∈ l', kv.1 ≠ sep) →
    flattenPairs l ++ sep :: r = flattenPairs l' ++ sep :: r' → l = l' ∧ r = r'
  | [], [], _, _, _, _, h => ⟨rfl, (List.cons.inj h).2⟩
  | [], (k', v') :: l', _, _, _, hl', h => by
      have hk : sep = k' := (List.cons.inj h).1
      exact absurd hk.symm (hl' (k', v') List.mem_cons_self)
  | (k, v) :: l, [], _, _, hl, _, h => by
      have hk : k = sep := (List.cons.inj h).1
      exact absurd hk (hl (k, v) List.mem_cons_self)
  | (k, v) :: l, (k', v') :: l', r, r', hl, hl', h => by
      rw [flattenPairs_cons, flattenPairs_cons] at h
      obtain ⟨rfl, hvalues⟩ := List.cons.inj h
      obtain ⟨rfl, hrest⟩ := List.cons.inj hvalues
      obtain ⟨rfl, hr⟩ := flattenPairs_append_inj
        (fun kv hkv => hl kv (List.mem_cons_of_mem _ hkv))
        (fun kv hkv => hl' kv (List.mem_cons_of_mem _ hkv)) hrest
      exact ⟨rfl, hr⟩

end pairs

/-! ### The bytes of a string -/

/-- The list of a byte array from an index on. -/
theorem toList_loop (bytes : ByteArray) : ∀ (n i : ℕ) (read : List UInt8), bytes.size - i = n →
    ByteArray.toList.loop bytes i read = read.reverse ++ bytes.data.toList.drop i := by
  intro n
  induction n with
  | zero =>
      intro i read hn
      have hlen : bytes.data.toList.length ≤ i := by
        rw [Array.length_toList, ByteArray.size_data]
        omega
      rw [ByteArray.toList.loop, if_neg (by omega), List.drop_eq_nil_of_le hlen, List.append_nil]
  | succ n ih =>
      intro i read hn
      have hi : i < bytes.size := by omega
      have hlen : i < bytes.data.toList.length := by
        rw [Array.length_toList, ByteArray.size_data]
        exact hi
      have hget : bytes.get! i = bytes.data.toList[i] := by
        rw [Array.getElem_toList]
        exact getElem!_pos bytes.data i hi
      rw [ByteArray.toList.loop, if_pos hi, ih (i + 1) _ (by omega), hget,
        List.drop_eq_getElem_cons hlen, List.reverse_cons, List.append_assoc]
      rfl

theorem toList_toUTF8 (s : String) : s.toUTF8.toList = s.toByteArray.data.toList := by
  have hloop := toList_loop s.toByteArray _ 0 [] rfl
  rwa [List.reverse_nil, List.nil_append, List.drop_zero] at hloop

theorem toList_toUTF8_injective : Function.Injective (fun s : String => s.toUTF8.toList) := by
  intro s t h
  simp only [toList_toUTF8] at h
  exact String.toByteArray_inj.mp (ByteArray.ext (Array.toList_inj.mp h))

/-- No byte of an encoded character is `0xff`: the first is at most `0xf7`, the others are below
`0xc0`. -/
theorem not_mem_utf8EncodeChar (c : Char) : (0xff : UInt8) ∉ String.utf8EncodeChar c := by
  have hbyte : ∀ n : ℕ, n < 0xff → (0xff : UInt8) ≠ UInt8.ofNat n := by
    intro n hn h
    have hnat := congrArg UInt8.toNat h
    rw [UInt8.toNat_ofNat', Nat.mod_eq_of_lt (by omega)] at hnat
    exact absurd hnat.symm (Nat.ne_of_lt hn)
  unfold String.utf8EncodeChar
  dsimp only
  split_ifs with h₁ h₂ h₃
  · simp only [List.mem_singleton]
    exact hbyte _ (by omega)
  all_goals
    simp only [List.mem_cons, List.not_mem_nil, or_false, not_or]
  · exact ⟨hbyte _ (by omega), hbyte _ (by omega)⟩
  · exact ⟨hbyte _ (by omega), hbyte _ (by omega), hbyte _ (by omega)⟩
  · exact ⟨hbyte _ (by omega), hbyte _ (by omega), hbyte _ (by omega), hbyte _ (by omega)⟩

/-- `0xff` is in no string. -/
theorem not_mem_utf8 (s : String) : (0xff : UInt8) ∉ s.toUTF8.toList := by
  rw [toList_toUTF8, ← String.utf8Encode_toList, List.utf8Encode, List.data_toByteArray]
  rw [List.toList_toArray, List.mem_flatMap]
  rintro ⟨c, _, hc⟩
  exact not_mem_utf8EncodeChar c hc

end Wire
