import Mathlib.Data.Nat.Notation
import Mathlib.Tactic.SplitIfs

/-! # Base64

The standard alphabet with canonical padding.  `decode_encode` is the round trip. -/

namespace Wire.Base64

/-- The character of a six-bit value. -/
def symbol (n : ℕ) : Char :=
  if n < 26 then Char.ofNat (65 + n)
  else if n < 52 then Char.ofNat (97 + (n - 26))
  else if n < 62 then Char.ofNat (48 + (n - 52))
  else if n = 62 then '+' else '/'

/-- The six-bit value of a character. -/
def value (c : Char) : Option ℕ :=
  let n := c.toNat
  if 65 ≤ n ∧ n ≤ 90 then some (n - 65)
  else if 97 ≤ n ∧ n ≤ 122 then some (n - 97 + 26)
  else if 48 ≤ n ∧ n ≤ 57 then some (n - 48 + 52)
  else if n = 43 then some 62
  else if n = 47 then some 63
  else none

/-- Three bytes make four characters; a shorter rest is padded. -/
def encodeChars : List UInt8 → List Char
  | [] => []
  | [a] => [symbol (a.toNat / 4), symbol (a.toNat % 4 * 16), '=', '=']
  | [a, b] =>
      [symbol (a.toNat / 4), symbol (a.toNat % 4 * 16 + b.toNat / 16),
        symbol (b.toNat % 16 * 4), '=']
  | a :: b :: c :: rest =>
      symbol (a.toNat / 4) :: symbol (a.toNat % 4 * 16 + b.toNat / 16) ::
        symbol (b.toNat % 16 * 4 + c.toNat / 64) :: symbol (c.toNat % 64) :: encodeChars rest

/-- The bytes of one group of four characters, padding included. -/
def decodeGroup (a b c d : Char) : Option (List UInt8) := do
  let x ← value a
  let y ← value b
  if c = '=' ∧ d = '=' then
    if y % 16 = 0 then some [UInt8.ofNat (x * 4 + y / 16)] else none
  else
    let z ← value c
    if d = '=' then
      if z % 4 = 0 then
        some [UInt8.ofNat (x * 4 + y / 16), UInt8.ofNat (y % 16 * 16 + z / 4)]
      else none
    else
      let t ← value d
      some [UInt8.ofNat (x * 4 + y / 16), UInt8.ofNat (y % 16 * 16 + z / 4),
        UInt8.ofNat (z % 4 * 64 + t)]

/-- Groups of four; only the last may be padded. -/
def decodeChars : List Char → Option (List UInt8)
  | [] => some []
  | a :: b :: c :: d :: rest =>
      if rest ≠ [] ∧ (c = '=' ∨ d = '=') then none
      else do
        let bytes ← decodeGroup a b c d
        let more ← decodeChars rest
        some (bytes ++ more)
  | _ => none

def encode (bytes : List UInt8) : String := String.ofList (encodeChars bytes)

def decode (text : String) : Option (List UInt8) := decodeChars text.toList

theorem value_symbol : ∀ n < 64, value (symbol n) = some n := by decide

theorem symbol_ne_pad : ∀ n < 64, symbol n ≠ '=' := by decide

theorem ofNat_of_eq {n : ℕ} {a : UInt8} (h : n = a.toNat) : UInt8.ofNat n = a := by
  rw [h]
  exact UInt8.ofNat_toNat

theorem decodeGroup_one (a : UInt8) :
    decodeGroup (symbol (a.toNat / 4)) (symbol (a.toNat % 4 * 16)) '=' '=' = some [a] := by
  have ha : a.toNat < 256 := a.toNat_lt
  have hx := value_symbol (a.toNat / 4) (by omega)
  have hy := value_symbol (a.toNat % 4 * 16) (by omega)
  have h0 : a.toNat % 4 * 16 % 16 = 0 := by omega
  have h1 : a.toNat / 4 * 4 + a.toNat % 4 * 16 / 16 = a.toNat := by omega
  simp only [decodeGroup, hx, hy, Option.bind_eq_bind, Option.bind_some, and_self, if_true, h0,
    ofNat_of_eq h1]

theorem decodeGroup_two (a b : UInt8) :
    decodeGroup (symbol (a.toNat / 4)) (symbol (a.toNat % 4 * 16 + b.toNat / 16))
      (symbol (b.toNat % 16 * 4)) '=' = some [a, b] := by
  have ha : a.toNat < 256 := a.toNat_lt
  have hb : b.toNat < 256 := b.toNat_lt
  have hx := value_symbol (a.toNat / 4) (by omega)
  have hy := value_symbol (a.toNat % 4 * 16 + b.toNat / 16) (by omega)
  have hz := value_symbol (b.toNat % 16 * 4) (by omega)
  have hp := symbol_ne_pad (b.toNat % 16 * 4) (by omega)
  have h0 : b.toNat % 16 * 4 % 4 = 0 := by omega
  have h1 : a.toNat / 4 * 4 + (a.toNat % 4 * 16 + b.toNat / 16) / 16 = a.toNat := by omega
  have h2 : (a.toNat % 4 * 16 + b.toNat / 16) % 16 * 16 + b.toNat % 16 * 4 / 4 = b.toNat := by
    omega
  simp only [decodeGroup, hx, hy, hz, hp, Option.bind_eq_bind, Option.bind_some, false_and,
    if_false, if_true, h0, ofNat_of_eq h1, ofNat_of_eq h2]

theorem decodeGroup_three (a b c : UInt8) :
    decodeGroup (symbol (a.toNat / 4)) (symbol (a.toNat % 4 * 16 + b.toNat / 16))
      (symbol (b.toNat % 16 * 4 + c.toNat / 64)) (symbol (c.toNat % 64)) = some [a, b, c] := by
  have ha : a.toNat < 256 := a.toNat_lt
  have hb : b.toNat < 256 := b.toNat_lt
  have hc : c.toNat < 256 := c.toNat_lt
  have hx := value_symbol (a.toNat / 4) (by omega)
  have hy := value_symbol (a.toNat % 4 * 16 + b.toNat / 16) (by omega)
  have hz := value_symbol (b.toNat % 16 * 4 + c.toNat / 64) (by omega)
  have ht := value_symbol (c.toNat % 64) (by omega)
  have hp := symbol_ne_pad (b.toNat % 16 * 4 + c.toNat / 64) (by omega)
  have hq := symbol_ne_pad (c.toNat % 64) (by omega)
  have h1 : a.toNat / 4 * 4 + (a.toNat % 4 * 16 + b.toNat / 16) / 16 = a.toNat := by omega
  have h2 : (a.toNat % 4 * 16 + b.toNat / 16) % 16 * 16 + (b.toNat % 16 * 4 + c.toNat / 64) / 4 =
      b.toNat := by omega
  have h3 : (b.toNat % 16 * 4 + c.toNat / 64) % 4 * 64 + c.toNat % 64 = c.toNat := by omega
  simp only [decodeGroup, hx, hy, hz, ht, hp, hq, Option.bind_eq_bind, Option.bind_some,
    false_and, if_false, ofNat_of_eq h1, ofNat_of_eq h2, ofNat_of_eq h3]

theorem decodeChars_encodeChars : ∀ bytes : List UInt8, decodeChars (encodeChars bytes) = some bytes
  | [] => rfl
  | [a] => by
      simp only [encodeChars, decodeChars, ne_eq, not_true, false_and, if_false, decodeGroup_one]
      rfl
  | [a, b] => by
      simp only [encodeChars, decodeChars, ne_eq, not_true, false_and, if_false, decodeGroup_two]
      rfl
  | a :: b :: c :: rest => by
      have hb : b.toNat < 256 := b.toNat_lt
      have hc : c.toNat < 256 := c.toNat_lt
      have hp := symbol_ne_pad (b.toNat % 16 * 4 + c.toNat / 64) (by omega)
      have hq := symbol_ne_pad (c.toNat % 64) (by omega)
      simp only [encodeChars, decodeChars, hp, hq, or_self, and_false, if_false, decodeGroup_three,
        decodeChars_encodeChars rest]
      rfl

/-- **Decoding undoes encoding.** -/
theorem decode_encode (bytes : List UInt8) : decode (encode bytes) = some bytes := by
  unfold decode encode
  rw [String.toList_ofList]
  exact decodeChars_encodeChars bytes

end Wire.Base64
