import Mathlib.Data.List.Induction
import RemoteDebugger.Proofs.Text.Hexadecimal

/-!
Numerals. A numeral is a row of digits, the most significant one first, after at most one plus sign.
Leading zeros and the case of letters do not count. Reading a number with a limit accepts exactly
the numerals of the numbers up to the limit.
-/

set_option autoImplicit false

namespace RemoteDebugger.Text

variable {radix limit number value : Nat} {c : Char} {text : Text}

/-- A digit of a radix, in either case, with its value. -/
def IsDigit (radix : Nat) (c : Char) (value : Nat) : Prop :=
  value < radix ∧ (c = Nat.digitChar value ∨ c = (Nat.digitChar value).toUpper)

instance (radix : Nat) (c : Char) (value : Nat) : Decidable (IsDigit radix c value) :=
  inferInstanceAs (Decidable (_ ∧ _))

/-- Digits and the number that they stand for: a further digit counts one, and makes those before it
count as many times more as the radix says. -/
inductive Digits (radix : Nat) : Text → Nat → Prop where
  | one {c : Char} {value : Nat} (digit : IsDigit radix c value) : Digits radix [c] value
  | more {text : Text} {c : Char} {number value : Nat} (front : Digits radix text number)
      (digit : IsDigit radix c value) : Digits radix (text ++ [c]) (number * radix + value)

/-- Digits after at most one plus sign. -/
inductive Numeral (radix : Nat) : Text → Nat → Prop where
  | unsigned {text : Text} {number : Nat} (digits : Digits radix text number) :
      Numeral radix text number
  | signed {text : Text} {number : Nat} (digits : Digits radix text number) :
      Numeral radix ('+' :: text) number

theorem isHexDigit_iff : IsHexDigit c ↔ ∃ value, IsDigit 16 c value := Iff.rfl

private theorem isDigit_of_ascii : ∀ code < 128, ∀ value < 16,
    digit? 16 (Char.ofNat code) = some value → IsDigit 16 (Char.ofNat code) value := by
  decide +kernel

private theorem digit?_isDigit : ∀ value < 16, ∀ c, IsDigit 16 c value →
    digit? 16 c = some value := by
  rintro value - c ⟨small, rfl | rfl⟩
  · exact digit?_digitChar value small
  · exact digit?_toUpper_digitChar value small

private theorem digit?_eq_some_iff_hexadecimal (small : radix ≤ 16) :
    digit? radix c = some value ↔ c.toNat < 128 ∧ value < radix ∧ digit? 16 c = some value := by
  have nine : c ≤ '9' → c.toNat ≤ 57 := id
  have lower : c ≤ 'z' → c.toNat ≤ 122 := id
  have upper : c ≤ 'Z' → c.toNat ≤ 90 := id
  simp only [digit?]
  constructor
  all_goals
    intro found
    split at found <;> grind

theorem digit?_eq_some_iff (small : radix ≤ 16) :
    digit? radix c = some value ↔ IsDigit radix c value := by
  rw [digit?_eq_some_iff_hexadecimal small]
  constructor
  · rintro ⟨ascii, less, found⟩
    rw [← Char.ofNat_toNat c] at found
    have digit := isDigit_of_ascii c.toNat ascii value (by omega) found
    rw [Char.ofNat_toNat] at digit
    exact ⟨less, digit.2⟩
  · rintro ⟨less, written⟩
    have found := digit?_isDigit value (by omega) c ⟨by omega, written⟩
    exact ⟨((digit?_eq_some_iff_hexadecimal (Nat.le_refl 16)).mp found).1, less, found⟩

namespace Digits

theorem ne_nil (digits : Digits radix text number) : text ≠ [] := by
  cases digits with
  | one digit => exact List.cons_ne_nil _ _
  | more front digit => simp

theorem isDigit (digits : Digits radix text number) :
    ∀ c ∈ text, ∃ value, IsDigit radix c value := by
  induction digits with
  | one digit =>
    intro c member
    exact ⟨_, List.mem_singleton.mp member ▸ digit⟩
  | more front digit ih =>
    intro c member
    rcases List.mem_append.mp member with earlier | last
    · exact ih c earlier
    · exact ⟨_, List.mem_singleton.mp last ▸ digit⟩

theorem isHexDigit (small : radix ≤ 16) (digits : Digits radix text number) :
    ∀ c ∈ text, IsHexDigit c := by
  intro c member
  obtain ⟨value, less, written⟩ := digits.isDigit c member
  exact ⟨value, by omega, written⟩

theorem radix_pos (digits : Digits radix text number) : 0 < radix := by
  cases digits with
  | one digit => exact Nat.zero_lt_of_lt digit.1
  | more front digit => exact Nat.zero_lt_of_lt digit.1

theorem lt_pow (digits : Digits radix text number) : number < radix ^ text.length := by
  induction digits with
  | one digit => simpa using digit.1
  | @more text c number value front digit ih =>
    have less : value < radix := digit.1
    have shifted : (number + 1) * radix ≤ radix ^ text.length * radix :=
      Nat.mul_le_mul_right radix ih
    rw [List.length_append, List.length_singleton, Nat.pow_succ]
    rw [Nat.add_mul, Nat.one_mul] at shifted
    omega

end Digits

private theorem readDigits_singleton (small : radix ≤ 16) (before : Nat) :
    readDigits radix limit before [c] = .ok number ↔
      ∃ value, IsDigit radix c value ∧ number = before * radix + value ∧ number ≤ limit := by
  simp only [readDigits, ← digit?_eq_some_iff small]
  cases digit? radix c with
  | none => simp
  | some value => grind

theorem Digits.readDigits_eq (small : radix ≤ 16) (digits : Digits radix text number)
    (within : number ≤ limit) : readDigits radix limit 0 text = .ok number := by
  induction digits with
  | one digit => exact (readDigits_singleton small 0).mpr ⟨_, digit, by omega, within⟩
  | @more front c number value _ digit ih =>
    have positive : 0 < radix := Nat.zero_lt_of_lt digit.1
    have less : number ≤ number * radix := Nat.le_mul_of_pos_right number positive
    rw [readDigits_append, ih (by omega)]
    exact (readDigits_singleton small number).mpr ⟨value, digit, rfl, within⟩

theorem digits_of_readDigits (small : radix ≤ 16) (nonempty : text ≠ [])
    (read : readDigits radix limit 0 text = .ok number) :
    Digits radix text number ∧ number ≤ limit := by
  induction text using List.reverseRecOn generalizing number with
  | nil => exact absurd rfl nonempty
  | append_singleton front c ih =>
    rw [readDigits_append] at read
    cases before : readDigits radix limit 0 front with
    | error cause =>
      rw [before] at read
      simp [Except.bind] at read
    | ok seen =>
      rw [before] at read
      obtain ⟨value, digit, rfl, within⟩ := (readDigits_singleton small seen).mp read
      by_cases first : front = []
      · subst first
        obtain rfl : 0 = seen := Except.ok.inj before
        rw [Nat.zero_mul, Nat.zero_add] at within ⊢
        exact ⟨.one digit, within⟩
      · exact ⟨.more (ih first before).1 digit, within⟩

private theorem readNat_plus (nonempty : text ≠ []) :
    readNat radix limit ('+' :: text) = readDigits radix limit 0 text := by
  cases text with
  | nil => exact absurd rfl nonempty
  | cons c rest => rfl

theorem readNat_eq_ok_iff (small : radix ≤ 16) :
    readNat radix limit text = .ok number ↔ Numeral radix text number ∧ number ≤ limit := by
  constructor
  · intro read
    unfold readNat at read
    split at read
    · simp at read
    · simp at read
    · rename_i digits nonempty
      have nonempty : digits ≠ [] := fun empty => nonempty (by rw [empty])
      obtain ⟨digits, within⟩ := digits_of_readDigits small nonempty read
      exact ⟨.signed digits, within⟩
    · rename_i nonempty _ _
      obtain ⟨digits, within⟩ := digits_of_readDigits small nonempty read
      exact ⟨.unsigned digits, within⟩
  · rintro ⟨digits | digits, within⟩
    · rw [readNat_eq_readDigits digits.ne_nil (plus_not_digit (digits.isHexDigit small))]
      exact digits.readDigits_eq small within
    · rw [readNat_plus digits.ne_nil]
      exact digits.readDigits_eq small within

theorem Numeral.plus_or_digit (small : radix ≤ 16) (numeral : Numeral radix text number) :
    ∀ c ∈ text, c = '+' ∨ IsHexDigit c := by
  intro c member
  cases numeral with
  | unsigned digits => exact .inr (digits.isHexDigit small c member)
  | signed digits =>
    rcases List.mem_cons.mp member with sign | later
    · exact .inl sign
    · exact .inr (digits.isHexDigit small c later)

theorem Numeral.lt_pow (numeral : Numeral radix text number) : number < radix ^ text.length := by
  cases numeral with
  | unsigned digits => exact digits.lt_pow
  | signed digits =>
    have positive : 0 < radix := digits.radix_pos
    calc
      number < radix ^ _ := digits.lt_pow
      _ ≤ radix ^ (_ :: _ : Text).length := Nat.pow_le_pow_right positive (Nat.le_succ _)

theorem digits_hex (width number : Nat) : Digits 16 (hex width number) number := by
  have read : readNat 16 number (hex width number) = .ok number := readNat_hex (Nat.le_refl number)
  have plain : '+' ∉ hex width number :=
    plus_not_digit fun _ member => isHexDigit_of_mem_hex member
  rw [readNat_eq_readDigits (hex_ne_nil width number) plain] at read
  exact (digits_of_readDigits (Nat.le_refl 16) (hex_ne_nil width number) read).1

theorem numeral_hex (width number : Nat) : Numeral 16 (hex width number) number :=
  .unsigned (digits_hex width number)

private theorem isDigit_of_toUpper : ∀ c : Char, ∀ value < 16, IsDigit 16 c.toUpper value →
    IsDigit 16 c value :=
  forall_toUpper (by decide +kernel) fun _ same _ _ digit => same ▸ digit

theorem isHexDigit_of_toUpper (digit : IsHexDigit c.toUpper) : IsHexDigit c := by
  obtain ⟨value, digit⟩ := isHexDigit_iff.mp digit
  exact isHexDigit_iff.mpr ⟨value, isDigit_of_toUpper c value digit.1 digit⟩

theorem Digits.of_upper (digits : Digits 16 (upper text) number) : Digits 16 text number := by
  generalize capital : upper text = letters at digits
  induction digits generalizing text with
  | one digit =>
    obtain ⟨c, rfl, rfl⟩ := List.map_eq_singleton_iff.mp capital
    exact .one (isDigit_of_toUpper c _ digit.1 digit)
  | more front digit ih =>
    obtain ⟨first, last, rfl, earlier, final⟩ := List.map_eq_append_iff.mp capital
    obtain ⟨c, rfl, rfl⟩ := List.map_eq_singleton_iff.mp final
    exact .more (ih earlier) (isDigit_of_toUpper c _ digit.1 digit)

/-- The text is the number in hexadecimal, in letters of either case. -/
def Spelled (width number : Nat) (text : Text) : Prop := upper text = hex width number

theorem spelled_hex (width number : Nat) : Spelled width number (hex width number) :=
  upper_upper _

namespace Spelled

variable {width : Nat}

theorem digits (spelled : Spelled width number text) : Digits 16 text number := by
  have letters : Digits 16 (upper text) number := spelled ▸ digits_hex width number
  exact letters.of_upper

theorem numeral (spelled : Spelled width number text) : Numeral 16 text number :=
  .unsigned spelled.digits

theorem length_eq (spelled : Spelled width number text) (positive : 0 < width)
    (small : number < 16 ^ width) : text.length = width := by
  have same : (upper text).length = (hex width number).length := congrArg List.length spelled
  rwa [upper, List.length_map, length_hex_of_lt positive small] at same

end Spelled

end RemoteDebugger.Text
