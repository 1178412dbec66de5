import Mathlib.Data.List.Forall2
import RemoteDebugger.Monitor.ValueLine
import RemoteDebugger.Proofs.Text.Numeral
import RemoteDebugger.Proofs.Text.Words

/-!
Which lines are value lines. A register line is twelve numerals of bounded length and the flags; a
memory line is the numeral of an address and sixteen numerals of two characters. These are exactly
the lines that are accepted, and they are read as the numbers that they show.
-/

set_option autoImplicit false

namespace RemoteDebugger

namespace Text

private theorem readHex_eq_some_iff {α : Type} {limit : Nat} {make : Nat → α} {value : α → Nat}
    (bound : ∀ number, value number ≤ limit) (inverse : ∀ number, make (value number) = number)
    (back : ∀ n ≤ limit, value (make n) = n) {text : Text} {number : α} :
    ((readNat 16 limit text).map make).toOption = some number ↔
      Numeral 16 text (value number) := by
  have numeral : Numeral 16 text (value number) ↔ readNat 16 limit text = .ok (value number) := by
    rw [readNat_eq_ok_iff (Nat.le_refl 16), and_iff_left (bound number)]
  rw [numeral]
  cases read : readNat 16 limit text with
  | error cause => simp [Except.map, Except.toOption]
  | ok n =>
    have within : n ≤ limit := ((readNat_eq_ok_iff (Nat.le_refl 16)).mp read).2
    simp only [Except.map, Except.toOption, Option.some.injEq, Except.ok.injEq]
    constructor
    · rintro rfl
      exact (back n within).symm
    · rintro rfl
      exact inverse number

theorem readHex8_eq_some_iff {text : Text} {byte : UInt8} :
    (readHex8 text).toOption = some byte ↔ Numeral 16 text byte.toNat :=
  readHex_eq_some_iff (fun byte => Nat.le_of_lt_succ byte.toNat_lt)
    (fun _ => UInt8.ofNat_toNat)
    (fun n within => by rw [UInt8.toNat_ofNat', Nat.mod_eq_of_lt (by omega)])

theorem readHex16_eq_some_iff {text : Text} {word : UInt16} :
    (readHex16 text).toOption = some word ↔ Numeral 16 text word.toNat :=
  readHex_eq_some_iff (fun word => Nat.le_of_lt_succ word.toNat_lt)
    (fun _ => UInt16.ofNat_toNat)
    (fun n within => by rw [UInt16.toNat_ofNat', Nat.mod_eq_of_lt (by omega)])

theorem readHex32_eq_some_iff {text : Text} {number : UInt32} :
    (readHex32 text).toOption = some number ↔ Numeral 16 text number.toNat :=
  readHex_eq_some_iff (fun number => Nat.le_of_lt_succ number.toNat_lt)
    (fun _ => UInt32.ofNat_toNat)
    (fun n within => by rw [UInt32.toNat_ofNat', Nat.mod_eq_of_lt (by omega)])

end Text

theorem exists_forall₂_iff {α β : Type} {shows : α → β → Prop} {row : List β} :
    (∃ items, List.Forall₂ shows items row) ↔ ∀ b ∈ row, ∃ a, shows a b := by
  induction row with
  | nil => simp
  | cons b row ih =>
    simp only [List.forall₂_cons_right_iff, List.forall_mem_cons, ← ih]
    constructor
    · rintro ⟨_, a, items, first, later, rfl⟩
      exact ⟨⟨a, first⟩, items, later⟩
    · rintro ⟨⟨a, first⟩, items, later⟩
      exact ⟨a :: items, a, items, first, later, rfl⟩

namespace Registers

variable {line field : Text} {registers : Registers}

/-- The numbers of a register line, each with how many characters it has at most. -/
def numbers (registers : Registers) : List (Nat × Nat) :=
  [(4, registers.pc.toNat), (2, registers.a.toNat), (2, registers.x.toNat),
    (2, registers.y.toNat), (2, registers.z.toNat), (2, registers.b.toNat),
    (4, registers.sp.toNat), (4, registers.maph.toNat), (4, registers.mapl.toNat),
    (2, registers.lastOp.toNat), (2, registers.reserved.1.toNat),
    (2, registers.reserved.2.toNat)]

/-- A field shows a number in no more characters than it may have. -/
def Fills (number : Nat × Nat) (field : Text) : Prop :=
  field.length ≤ number.1 ∧ Text.Numeral 16 field number.2

theorem byteField?_eq_some_iff {byte : UInt8} :
    byteField? field = some byte ↔ Fills (2, byte.toNat) field := by
  simp only [byteField?, Fills, ← Text.readHex8_eq_some_iff]
  by_cases short : field.length ≤ 2 <;> simp [short]

theorem wordField?_eq_some_iff {word : UInt16} :
    wordField? field = some word ↔ Fills (4, word.toNat) field := by
  simp only [wordField?, Fills, ← Text.readHex16_eq_some_iff]
  by_cases short : field.length ≤ 4 <;> simp [short]

theorem ofFields?_eq_some_iff {words : List Text} :
    ofFields? words = some registers ↔
      ∃ fields others, words = fields ++ registers.flags :: others ∧
        List.Forall₂ Fills registers.numbers fields := by
  constructor
  · intro read
    unfold ofFields? at read
    split at read
    · simp only [Option.bind_eq_bind, Option.bind_eq_some_iff, byteField?_eq_some_iff,
        wordField?_eq_some_iff] at read
      obtain ⟨pc, hpc, a, ha, x, hx, y, hy, z, hz, b, hb, sp, hsp, maph, hmaph, mapl, hmapl,
        lastOp, hlast, first, hfirst, second, hsecond, same⟩ := read
      cases same
      refine ⟨[_, _, _, _, _, _, _, _, _, _, _, _], _, rfl, ?_⟩
      simp [numbers, *]
    · simp at read
  · rintro ⟨fields, others, rfl, filled⟩
    rcases filled with _ | ⟨pc, _ | ⟨a, _ | ⟨x, _ | ⟨y, _ | ⟨z, _ | ⟨b, _ | ⟨sp, _ | ⟨maph,
      _ | ⟨mapl, _ | ⟨lastOp, _ | ⟨first, _ | ⟨second, _ | _⟩⟩⟩⟩⟩⟩⟩⟩⟩⟩⟩⟩
    simp only [← wordField?_eq_some_iff, ← byteField?_eq_some_iff] at *
    simp only [List.cons_append, List.nil_append, ofFields?, Option.bind_eq_bind, Option.bind_some,
      *]
    rfl

theorem ofLine?_eq_some_iff :
    ofLine? line = some registers ↔
      ∃ fields others, Text.words line = fields ++ registers.flags :: others ∧
        List.Forall₂ Fills registers.numbers fields :=
  ofFields?_eq_some_iff

end Registers

namespace Window

variable {text line : Text}

/-- Two characters show a byte. -/
def Pairs (byte : UInt8) (pair : Text) : Prop := pair.length = 2 ∧ Text.Numeral 16 pair byte.toNat

private theorem pairs?_eq_nil_iff : pairs? text = some [] ↔ text = [] := by
  unfold pairs?
  split
  · simp
  · simp
  · simp [Option.bind_eq_some_iff]

private theorem pairs?_eq_cons_iff {byte : UInt8} {bytes : List UInt8} :
    pairs? text = some (byte :: bytes) ↔
      ∃ pair rest, text = pair ++ rest ∧ Pairs byte pair ∧ pairs? rest = some bytes := by
  constructor
  · intro read
    unfold pairs? at read
    split at read
    · simp at read
    · simp at read
    · rename_i high low rest
      simp only [Option.bind_eq_bind, Option.bind_eq_some_iff, Text.readHex8_eq_some_iff] at read
      obtain ⟨first, shown, others, later, same⟩ := read
      cases same
      exact ⟨[high, low], rest, rfl, ⟨rfl, shown⟩, later⟩
  · rintro ⟨pair, rest, rfl, ⟨two, shown⟩, later⟩
    obtain ⟨high, low, rfl⟩ := List.length_eq_two.mp two
    simp only [List.cons_append, List.nil_append, pairs?, Text.readHex8_eq_some_iff.mpr shown, later]
    rfl

theorem pairs?_eq_some_iff {bytes : List UInt8} :
    pairs? text = some bytes ↔
      ∃ pairs : List Text, text = pairs.flatten ∧ List.Forall₂ Pairs bytes pairs := by
  induction bytes generalizing text with
  | nil => simp [pairs?_eq_nil_iff]
  | cons byte bytes ih =>
    rw [pairs?_eq_cons_iff]
    constructor
    · rintro ⟨pair, rest, rfl, shown, later⟩
      obtain ⟨pairs, rfl, others⟩ := ih.mp later
      exact ⟨pair :: pairs, rfl, .cons shown others⟩
    · rintro ⟨pairs, rfl, shown⟩
      obtain ⟨pair, others, first, later, rfl⟩ := List.forall₂_cons_left_iff.mp shown
      exact ⟨pair, others.flatten, rfl, first, ih.mpr ⟨others, rfl, later⟩⟩

/-- The characters of the data that count. -/
def dense (data : Text) : Text := data.filter fun c => !Text.isAsciiBlank c

theorem data?_eq_some_iff {bytes : Vector UInt8 16} :
    data? text = some bytes ↔
      ∃ pairs : List Text, (dense text).take 32 = pairs.flatten ∧
        List.Forall₂ Pairs bytes.toList pairs := by
  rw [← pairs?_eq_some_iff, data?, ← dense]
  cases pairs? ((dense text).take 32) with
  | none => simp
  | some read =>
    simp only [Option.bind_eq_bind, Option.bind_some, Option.some.injEq]
    constructor
    · intro whole
      split at whole
      · cases whole
        rfl
      · simp at whole
    · rintro rfl
      rw [dif_pos bytes.length_toList]
      rfl

theorem no_colon {number : Nat} (numeral : Text.Numeral 16 (Text.trim text) number) :
    ∀ c ∈ text, (c == ':') = false := by
  intro c member
  rw [beq_eq_false_iff_ne]
  rintro rfl
  rcases numeral.plus_or_digit (Nat.le_refl 16) ':' (Text.mem_trim (by decide) member) with
    sign | digit
  · simp at sign
  · exact digit.elim (· ≠ ':') (by decide) (by decide) rfl

theorem ofLine?_eq_some_iff {window : Window} :
    ofLine? line = some window ↔
      ∃ address data pairs, Text.trim line = ':' :: (address ++ ':' :: data) ∧
        Text.Numeral 16 (Text.trim address) window.base.toNat ∧
        (dense data).take 32 = List.flatten pairs ∧
        List.Forall₂ Pairs window.bytes.toList pairs := by
  constructor
  · intro read
    unfold ofLine? at read
    split at read
    · rename_i rest trimmed
      simp only [Option.bind_eq_bind, Option.bind_eq_some_iff, Text.readHex32_eq_some_iff,
        data?_eq_some_iff] at read
      obtain ⟨⟨address, data⟩, cut, base, numeral, bytes, ⟨pairs, row, shown⟩, same⟩ := read
      cases same
      obtain ⟨mark, colon, rfl, -⟩ := Text.cut?_eq_some cut
      obtain rfl : mark = ':' := beq_iff_eq.mp colon
      exact ⟨address, data, pairs, trimmed, numeral, row, shown⟩
    · simp at read
  · rintro ⟨address, data, pairs, trimmed, numeral, row, shown⟩
    have cut : Text.cut? (· == ':') (address ++ ':' :: data) = some (address, data) :=
      Text.cut?_append (no_colon numeral) (beq_self_eq_true ':')
    have base := Text.readHex32_eq_some_iff.mpr numeral
    have bytes := data?_eq_some_iff.mpr ⟨pairs, row, shown⟩
    simp only [ofLine?, trimmed, cut, base, bytes, Option.bind_eq_bind, Option.bind_some]
    rfl

end Window

end RemoteDebugger
