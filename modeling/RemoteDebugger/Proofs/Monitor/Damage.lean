import RemoteDebugger.Proofs.Monitor.Acceptance

/-!
Damaged value lines. A line of noise is refused unless each of its numbers is a numeral, so what an
accepted line shows are hexadecimal digits or a plus sign. The sign is the one fault that is not
noticed: it is accepted in the place of the first digit of a field, an address or a byte.
-/

set_option autoImplicit false

namespace RemoteDebugger

variable {line : Text} {manner stricter : Text → Prop}

namespace Text

/-- Hexadecimal digits of either case, and at least one. -/
def HexDigits (text : Text) : Prop := text ≠ [] ∧ ∀ c ∈ text, IsHexDigit c

theorem HexDigits.unsigned {text : Text} (digits : HexDigits text) : '+' ∉ text :=
  plus_not_digit digits.2

theorem Numeral.hexDigits {text : Text} {number : Nat} (numeral : Numeral 16 text number)
    (unsigned : '+' ∉ text) : HexDigits text := by
  cases numeral with
  | unsigned digits => exact ⟨digits.ne_nil, digits.isHexDigit (Nat.le_refl 16)⟩
  | signed digits => exact absurd List.mem_cons_self unsigned

end Text

namespace Registers

variable {field : Text}

/-- How many digits each of the twelve fields may have. -/
def widths : List Nat := [4, 2, 2, 2, 2, 2, 4, 4, 4, 2, 2, 2]

/-- The first twelve words of a line are written in some manner and within their widths, and a word
for the flags follows. -/
def Written (manner : Text → Prop) (line : Text) : Prop :=
  ∃ fields flags others, Text.words line = fields ++ flags :: others ∧
    List.Forall₂ (fun width field => field.length ≤ width ∧ manner field) widths fields

theorem Written.mono (weaker : ∀ field, stricter field → manner field)
    (written : Written stricter line) : Written manner line := by
  obtain ⟨fields, flags, others, same, each⟩ := written
  exact ⟨fields, flags, others, same, each.imp fun _ _ field => ⟨field.1, weaker _ field.2⟩⟩

theorem Written.and (one : Written manner line) (other : Written stricter line) :
    Written (fun field => manner field ∧ stricter field) line := by
  obtain ⟨fields, flags, others, same, each⟩ := one
  obtain ⟨fields', flags', others', same', each'⟩ := other
  have count : fields.length = fields'.length := by
    rw [← each.length_eq, ← each'.length_eq]
  obtain ⟨rfl, -⟩ := List.append_inj (same.symm.trans same') count
  refine ⟨fields, flags, others, same, each.mp ?_ each'⟩
  rintro width field ⟨short, first⟩ ⟨-, second⟩
  exact ⟨short, first, second⟩

private theorem exists_byte
    (shown : field.length ≤ 2 ∧ ∃ number, Text.Numeral 16 field number) :
    ∃ byte : UInt8, Fills (2, byte.toNat) field := by
  obtain ⟨short, number, numeral⟩ := shown
  have small : number < 256 :=
    Nat.lt_of_lt_of_le numeral.lt_pow (Nat.pow_le_pow_right (by decide) short)
  refine ⟨UInt8.ofNat number, short, ?_⟩
  rwa [UInt8.toNat_ofNat', Nat.mod_eq_of_lt small]

private theorem exists_word
    (shown : field.length ≤ 4 ∧ ∃ number, Text.Numeral 16 field number) :
    ∃ word : UInt16, Fills (4, word.toNat) field := by
  obtain ⟨short, number, numeral⟩ := shown
  have small : number < 65536 :=
    Nat.lt_of_lt_of_le numeral.lt_pow (Nat.pow_le_pow_right (by decide) short)
  refine ⟨UInt16.ofNat number, short, ?_⟩
  rwa [UInt16.toNat_ofNat', Nat.mod_eq_of_lt small]

private theorem exists_registers (flags : Text) {fields : List Text}
    (each : List.Forall₂ (fun width field => field.length ≤ width ∧
      ∃ number, Text.Numeral 16 field number) widths fields) :
    ∃ registers : Registers, registers.flags = flags ∧
      List.Forall₂ Fills registers.numbers fields := by
  rcases each with _ | ⟨hpc, _ | ⟨ha, _ | ⟨hx, _ | ⟨hy, _ | ⟨hz, _ | ⟨hb, _ | ⟨hsp, _ | ⟨hmaph,
    _ | ⟨hmapl, _ | ⟨hlast, _ | ⟨hfirst, _ | ⟨hsecond, _ | _⟩⟩⟩⟩⟩⟩⟩⟩⟩⟩⟩⟩
  obtain ⟨pc, pcShown⟩ := exists_word hpc
  obtain ⟨a, aShown⟩ := exists_byte ha
  obtain ⟨x, xShown⟩ := exists_byte hx
  obtain ⟨y, yShown⟩ := exists_byte hy
  obtain ⟨z, zShown⟩ := exists_byte hz
  obtain ⟨b, bShown⟩ := exists_byte hb
  obtain ⟨sp, spShown⟩ := exists_word hsp
  obtain ⟨maph, maphShown⟩ := exists_word hmaph
  obtain ⟨mapl, maplShown⟩ := exists_word hmapl
  obtain ⟨lastOp, lastShown⟩ := exists_byte hlast
  obtain ⟨first, firstShown⟩ := exists_byte hfirst
  obtain ⟨second, secondShown⟩ := exists_byte hsecond
  let registers : Registers :=
    { pc, a, x, y, z, b, sp, maph, mapl, lastOp, reserved := (first, second), flags }
  refine ⟨registers, rfl, ?_⟩
  simp [registers, numbers, *]

theorem isSome_ofLine?_iff :
    (ofLine? line).isSome ↔ Written (fun field => ∃ number, Text.Numeral 16 field number) line := by
  simp only [Option.isSome_iff_exists, ofLine?_eq_some_iff]
  constructor
  · rintro ⟨registers, fields, others, same, filled⟩
    have each : List.Forall₂ (fun width field => field.length ≤ width ∧
        ∃ number, Text.Numeral 16 field number) (registers.numbers.map Prod.fst) fields :=
      List.forall₂_map_left_iff.mpr (filled.imp fun _ _ field => ⟨field.1, _, field.2⟩)
    exact ⟨fields, registers.flags, others, same, each⟩
  · rintro ⟨fields, flags, others, same, each⟩
    obtain ⟨registers, rfl, filled⟩ := exists_registers flags each
    exact ⟨registers, fields, others, same, filled⟩

theorem written_hexDigits_iff (accepted : (ofLine? line).isSome) :
    Written Text.HexDigits line ↔ Written (fun field => '+' ∉ field) line := by
  constructor
  · exact Written.mono fun field digits => digits.unsigned
  · intro unsigned
    have both := (isSome_ofLine?_iff.mp accepted).and unsigned
    exact both.mono fun field ⟨⟨_, numeral⟩, unsigned⟩ => numeral.hexDigits unsigned

end Registers

namespace Window

/-- A line is a colon, an address, a colon and data, in which the address and the first sixteen
pairs of the characters that count are written in some manner. -/
def Written (manner : Text → Prop) (line : Text) : Prop :=
  ∃ address data pairs, Text.trim line = ':' :: (address ++ ':' :: data) ∧
    (∀ c ∈ address, (c == ':') = false) ∧ manner (Text.trim address) ∧
    (dense data).take 32 = List.flatten pairs ∧ pairs.length = 16 ∧
    ∀ pair ∈ pairs, pair.length = 2 ∧ manner pair

theorem Written.mono (weaker : ∀ part, stricter part → manner part)
    (written : Written stricter line) : Written manner line := by
  obtain ⟨address, data, pairs, same, clean, base, row, count, each⟩ := written
  exact ⟨address, data, pairs, same, clean, weaker _ base, row, count,
    fun pair member => ⟨(each pair member).1, weaker _ (each pair member).2⟩⟩

theorem cut_unique {address address' data data' : Text}
    (same : ':' :: (address ++ ':' :: data) = ':' :: (address' ++ ':' :: data'))
    (clean : ∀ c ∈ address, (c == ':') = false) (clean' : ∀ c ∈ address', (c == ':') = false) :
    address = address' ∧ data = data' := by
  have cut : some (address, data) = some (address', data') := by
    rw [← Text.cut?_append clean (beq_self_eq_true ':'), (List.cons.inj same).2,
      Text.cut?_append clean' (beq_self_eq_true ':')]
  exact Prod.mk.inj (Option.some.inj cut)

private theorem pairs_unique {one other : List Text} (same : one.flatten = other.flatten)
    (count : one.length = other.length) (two : ∀ pair ∈ one, pair.length = 2)
    (two' : ∀ pair ∈ other, pair.length = 2) : one = other := by
  have lengths : one.map List.length = other.map List.length := by
    rw [List.map_eq_replicate_iff.mpr two, List.map_eq_replicate_iff.mpr two', count]
  exact List.eq_iff_flatten_eq.mpr ⟨same, lengths⟩

theorem Written.and (one : Written manner line) (other : Written stricter line) :
    Written (fun part => manner part ∧ stricter part) line := by
  obtain ⟨address, data, pairs, same, clean, base, row, count, each⟩ := one
  obtain ⟨address', data', pairs', same', clean', base', row', count', each'⟩ := other
  obtain ⟨rfl, rfl⟩ := cut_unique (same.symm.trans same') clean clean'
  obtain rfl := pairs_unique (row.symm.trans row') (count.trans count'.symm)
    (fun pair member => (each pair member).1) fun pair member => (each' pair member).1
  exact ⟨address, data, pairs, same, clean, ⟨base, base'⟩, row, count,
    fun pair member => ⟨(each pair member).1, (each pair member).2, (each' pair member).2⟩⟩

private theorem exists_pairs_iff {pair : Text} :
    (∃ byte : UInt8, Pairs byte pair) ↔
      pair.length = 2 ∧ ∃ number ≤ 0xFFFFFFFF, Text.Numeral 16 pair number := by
  constructor
  · rintro ⟨byte, two, numeral⟩
    have small : byte.toNat < 256 := byte.toNat_lt
    exact ⟨two, byte.toNat, by omega, numeral⟩
  · rintro ⟨two, number, -, numeral⟩
    have small : number < 256 := by
      have bound := numeral.lt_pow
      rwa [two] at bound
    refine ⟨UInt8.ofNat number, two, ?_⟩
    rwa [UInt8.toNat_ofNat', Nat.mod_eq_of_lt small]

theorem isSome_ofLine?_iff :
    (ofLine? line).isSome ↔
      Written (fun part => ∃ number ≤ 0xFFFFFFFF, Text.Numeral 16 part number) line := by
  simp only [Option.isSome_iff_exists, ofLine?_eq_some_iff]
  constructor
  · rintro ⟨⟨base, bytes⟩, address, data, pairs, same, numeral, row, shown⟩
    have count : pairs.length = 16 := by
      rw [← shown.length_eq, Vector.length_toList]
    have small : base.toNat < 2 ^ 32 := base.toNat_lt
    have each := exists_forall₂_iff.mp ⟨_, shown⟩
    exact ⟨address, data, pairs, same, no_colon numeral, ⟨base.toNat, by omega, numeral⟩, row,
      count, fun pair member => exists_pairs_iff.mp (each pair member)⟩
  · rintro ⟨address, data, pairs, same, -, ⟨number, small, numeral⟩, row, count, each⟩
    obtain ⟨bytes, shown⟩ := exists_forall₂_iff.mpr fun pair member =>
      exists_pairs_iff.mpr (each pair member)
    have sixteen : bytes.length = 16 := shown.length_eq.trans count
    have base : (UInt32.ofNat number).toNat = number := by
      rw [UInt32.toNat_ofNat', Nat.mod_eq_of_lt (by omega)]
    refine ⟨⟨UInt32.ofNat number, ⟨bytes.toArray, sixteen⟩⟩, address, data, pairs, same, ?_, row,
      shown⟩
    rwa [base]

theorem written_hexDigits_iff (accepted : (ofLine? line).isSome) :
    Written Text.HexDigits line ↔ Written (fun part => '+' ∉ part) line := by
  constructor
  · exact Written.mono fun part digits => digits.unsigned
  · intro unsigned
    have both := (isSome_ofLine?_iff.mp accepted).and unsigned
    exact both.mono fun part ⟨⟨_, _, numeral⟩, unsigned⟩ => numeral.hexDigits unsigned

end Window

/-- What damage is noticed. Registers are read from the lines with numerals of bounded length in
the first twelve fields, and a window from those with numerals for the address and sixteen bytes.
So a line that is accepted has only hexadecimal digits there, or else a plus sign in the place of
a leading digit. -/
theorem valueLine_accepted_iff (line : Text) :
    ((Registers.ofLine? line).isSome ↔
      Registers.Written (fun field => ∃ number, Text.Numeral 16 field number) line) ∧
    ((Window.ofLine? line).isSome ↔
      Window.Written (fun part => ∃ number ≤ 0xFFFFFFFF, Text.Numeral 16 part number) line) ∧
    ((Registers.ofLine? line).isSome →
      (Registers.Written Text.HexDigits line ↔ Registers.Written (fun field => '+' ∉ field) line)) ∧
    ((Window.ofLine? line).isSome →
      (Window.Written Text.HexDigits line ↔ Window.Written (fun part => '+' ∉ part) line)) :=
  ⟨Registers.isSome_ofLine?_iff, Window.isSome_ofLine?_iff, Registers.written_hexDigits_iff,
    Window.written_hexDigits_iff⟩

/-- A register line in which the first digit of the program counter 2003 was damaged. -/
def signedRegisterLine : Text := "+003 05 01 02 00 00 01F0 0000 0000 A9 00 00 ..E..IZC"

/-- A memory line with a sign before its address and one instead of the first digit of a byte. -/
def signedMemoryLine : Text := ":+2000:+9052000300000000000000000000000"

theorem valueLine_accepts_sign :
    (Registers.ofLine? signedRegisterLine).map Registers.pc = some 3 ∧
      ¬Registers.Written Text.HexDigits signedRegisterLine ∧
      (Window.ofLine? signedMemoryLine).map (fun window => (window.base, window.firstByte)) =
        some (0x2000, 9) ∧
      ¬Window.Written Text.HexDigits signedMemoryLine := by
  refine ⟨by decide +kernel, ?_, by decide +kernel, ?_⟩
  · rintro ⟨fields, flags, others, same, each⟩
    have first : (Text.words signedRegisterLine).head? = some ("+003" : Text) := by decide +kernel
    rcases each with _ | ⟨⟨-, digits⟩, -⟩
    rw [same, List.cons_append, List.head?_cons] at first
    have unsigned := digits.unsigned
    rw [Option.some.inj first] at unsigned
    exact unsigned (by decide)
  · rintro ⟨address, data, pairs, same, clean, digits, -⟩
    have cut : Text.trim signedMemoryLine =
        ':' :: (("+2000" : Text) ++ ':' :: ("+9052000300000000000000000000000" : Text)) := by
      decide +kernel
    have plain : ∀ c ∈ ("+2000" : Text), (c == ':') = false := by simp
    obtain ⟨rfl, -⟩ := Window.cut_unique (same.symm.trans cut) clean plain
    exact digits.unsigned (by decide)

end RemoteDebugger
