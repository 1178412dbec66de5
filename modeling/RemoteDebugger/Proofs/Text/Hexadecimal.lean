import Mathlib.Algebra.Group.Nat.Defs
import RemoteDebugger.Text.Numeral

/-!
Hexadecimal numbers read back. What is written with a positive width is read as the number it was
written for, whatever the width, as long as the number is within the limit of the reader.
-/

set_option autoImplicit false

namespace RemoteDebugger.Text

/-- The characters that hexadecimal is written with, in either case. -/
def IsHexDigit (c : Char) : Prop := ∃ d < 16, c = Nat.digitChar d ∨ c = (Nat.digitChar d).toUpper

theorem toUpper_of_not_ascii {c : Char} (outside : 128 ≤ c.toNat) : c.toUpper = c := by
  have last : c.val ≤ 'z'.val → c.toNat ≤ 122 := id
  apply dif_neg
  rintro ⟨-, lower⟩
  have ascii := last lower
  omega

/-- A law about capital letters is checked on ASCII, since other characters are their own ones. -/
theorem forall_toUpper {property : Char → Prop}
    (ascii : ∀ code < 128, property (Char.ofNat code))
    (other : ∀ c : Char, c.toUpper = c → property c) (c : Char) : property c := by
  by_cases inside : c.toNat < 128
  · exact Char.ofNat_toNat c ▸ ascii c.toNat inside
  · exact other c (toUpper_of_not_ascii (Nat.le_of_not_lt inside))

theorem upper_upper (text : Text) : upper (upper text) = upper text := by
  have twice : ∀ c : Char, c.toUpper.toUpper = c.toUpper :=
    forall_toUpper (by decide +kernel) fun _ same => congrArg Char.toUpper same
  rw [upper, upper, List.map_map]
  exact List.map_congr_left fun c _ => twice c

theorem digit?_digitChar :
    ∀ d < 16, digit? 16 (Nat.digitChar d) = some d := by decide

theorem digit?_toUpper_digitChar :
    ∀ d < 16, digit? 16 (Nat.digitChar d).toUpper = some d := by decide

theorem IsHexDigit.elim (property : Char → Prop)
    (lower : ∀ d < 16, property (Nat.digitChar d))
    (upper : ∀ d < 16, property (Nat.digitChar d).toUpper) {c : Char} (digit : IsHexDigit c) :
    property c := by
  obtain ⟨d, small, rfl | rfl⟩ := digit
  · exact lower d small
  · exact upper d small

private theorem isHexDigit_of_mem_lowHex {width n : Nat} {c : Char} (member : c ∈ lowHex width n) :
    ∃ d < 16, c = Nat.digitChar d := by
  induction width generalizing n with
  | zero => simp [lowHex] at member
  | succ width ih =>
    simp only [lowHex, List.mem_append, List.mem_singleton] at member
    rcases member with earlier | rfl
    · exact ih earlier
    · exact ⟨n % 16, Nat.mod_lt _ (by decide), rfl⟩

theorem mem_hex {width n : Nat} {c : Char} (member : c ∈ hex width n) :
    ∃ d < 16, c = (Nat.digitChar d).toUpper := by
  obtain ⟨lower, found, rfl⟩ := List.mem_map.mp member
  obtain ⟨d, small, rfl⟩ := isHexDigit_of_mem_lowHex found
  exact ⟨d, small, rfl⟩

theorem isHexDigit_of_mem_hex {width n : Nat} {c : Char} (member : c ∈ hex width n) :
    IsHexDigit c := by
  obtain ⟨d, small, same⟩ := mem_hex member
  exact ⟨d, small, .inr same⟩

@[simp] theorem length_hexLower (width n : Nat) :
    (hexLower width n).length = max width (n.log2 / 4 + 1) := length_lowHex _ _

@[simp] theorem length_hex (width n : Nat) :
    (hex width n).length = max width (n.log2 / 4 + 1) := by
  rw [hex, upper, List.length_map, length_hexLower]

theorem hex_ne_nil (width n : Nat) : hex width n ≠ [] := by
  intro empty
  have := length_hex width n
  rw [empty, List.length_nil] at this
  omega

theorem length_hex_of_lt {width n : Nat} (positive : 0 < width) (small : n < 16 ^ width) :
    (hex width n).length = width := by
  rw [length_hex, Nat.max_eq_left]
  rcases Nat.eq_zero_or_pos n with rfl | nonzero
  · exact positive
  · have bits : n.log2 < 4 * width := by
      rw [Nat.log2_lt (by omega), Nat.pow_mul]
      exact small
    omega

@[simp] theorem length_hexByte (byte : UInt8) : (hexByte byte).length = 2 :=
  length_hex_of_lt (by decide) byte.toNat_lt

@[simp] theorem length_hexWord (word : UInt16) : (hexWord word).length = 4 :=
  length_hex_of_lt (by decide) word.toNat_lt

theorem length_hexBytes (bytes : List UInt8) : (hexBytes bytes).length = 3 * bytes.length - 1 := by
  induction bytes with
  | nil => rfl
  | cons byte others ih =>
    cases others with
    | nil => exact length_hexByte byte
    | cons next others =>
      have parted : hexBytes (byte :: next :: others) =
          hexByte byte ++ " " ++ hexBytes (next :: others) := rfl
      have blank : (" ".toList : Text).length = 1 := rfl
      rw [parted, List.length_append, List.length_append, ih, length_hexByte, blank]
      simp only [List.length_cons]
      omega

theorem readDigits_append (radix limit value : Nat) (front back : Text) :
    readDigits radix limit value (front ++ back) =
      (readDigits radix limit value front).bind fun read => readDigits radix limit read back := by
  induction front generalizing value with
  | nil => rfl
  | cons c front ih =>
    simp only [List.cons_append, readDigits]
    cases digit? radix c with
    | none => rfl
    | some d =>
      simp only []
      split
      · exact ih _
      · rfl

private theorem readDigits_upper_lowHex {limit : Nat} (width n value : Nat)
    (small : value * 16 ^ width + n % 16 ^ width ≤ limit) :
    readDigits 16 limit value (upper (lowHex width n)) =
      .ok (value * 16 ^ width + n % 16 ^ width) := by
  induction width generalizing n with
  | zero => simp [upper, lowHex, readDigits, Nat.mod_one]
  | succ width ih =>
    have split : n % 16 ^ (width + 1) = n % 16 + 16 * (n / 16 % 16 ^ width) := by
      rw [Nat.pow_succ, Nat.mul_comm, Nat.mod_mul]
    have power : value * 16 ^ (width + 1) = 16 * (value * 16 ^ width) := by
      rw [Nat.pow_succ, ← Nat.mul_assoc, Nat.mul_comm]
    rw [split, power] at small ⊢
    rw [upper, lowHex, List.map_append, ← upper, readDigits_append, ih (n / 16) (by omega)]
    simp only [List.map_cons, List.map_nil, Except.bind, readDigits,
      digit?_toUpper_digitChar (n % 16) (Nat.mod_lt _ (by decide))]
    rw [if_pos (by omega)]
    congr 1
    omega

private theorem lt_pow_digits (width n : Nat) : n < 16 ^ max width (n.log2 / 4 + 1) := by
  have log : n < 2 ^ (n.log2 + 1) := Nat.lt_log2_self
  calc
    n < 2 ^ (n.log2 + 1) := log
    _ ≤ 2 ^ (4 * max width (n.log2 / 4 + 1)) := Nat.pow_le_pow_right (by decide) (by omega)
    _ = 16 ^ max width (n.log2 / 4 + 1) := by rw [Nat.pow_mul]

theorem readNat_eq_readDigits {radix limit : Nat} {text : Text} (nonempty : text ≠ [])
    (unsigned : '+' ∉ text) : readNat radix limit text = readDigits radix limit 0 text := by
  cases text with
  | nil => exact absurd rfl nonempty
  | cons c rest =>
    have plain : c ≠ '+' := fun same => unsigned (same ▸ List.mem_cons_self)
    unfold readNat
    split
    · contradiction
    · simp_all
    · simp_all
    · rfl

theorem plus_not_digit {text : Text} (digits : ∀ c ∈ text, IsHexDigit c) : '+' ∉ text := by
  intro member
  exact (digits _ member).elim (· ≠ '+') (by decide) (by decide) rfl

theorem readNat_hex {width n limit : Nat} (small : n ≤ limit) :
    readNat 16 limit (hex width n) = .ok n := by
  have value : 0 * 16 ^ max width (n.log2 / 4 + 1) + n % 16 ^ max width (n.log2 / 4 + 1) = n := by
    rw [Nat.mod_eq_of_lt (lt_pow_digits width n)]
    omega
  have read := readDigits_upper_lowHex (max width (n.log2 / 4 + 1)) n 0
    (Nat.le_trans (Nat.le_of_eq value) small)
  rw [value] at read
  rw [readNat_eq_readDigits (hex_ne_nil width n)
    (plus_not_digit fun _ member => isHexDigit_of_mem_hex member)]
  exact read

theorem readHex8_hexByte (byte : UInt8) : readHex8 (hexByte byte) = .ok byte := by
  have small : byte.toNat ≤ 0xFF := Nat.le_of_lt_succ byte.toNat_lt
  rw [readHex8, hexByte, readNat_hex small]
  simp [Except.map]

theorem readHex16_hexWord (word : UInt16) : readHex16 (hexWord word) = .ok word := by
  have small : word.toNat ≤ 0xFFFF := Nat.le_of_lt_succ word.toNat_lt
  rw [readHex16, hexWord, readNat_hex small]
  simp [Except.map]

theorem readHex32_hex (width : Nat) (number : UInt32) :
    readHex32 (hex width number.toNat) = .ok number := by
  have small : number.toNat ≤ 0xFFFFFFFF := Nat.le_of_lt_succ number.toNat_lt
  rw [readHex32, readNat_hex small]
  simp [Except.map]

end RemoteDebugger.Text
