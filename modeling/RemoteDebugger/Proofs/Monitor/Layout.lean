import RemoteDebugger.Proofs.Monitor.Acceptance

/-!
Value lines in every layout. The digits of a value line may be of either case, the blanks between
them are free, and more text may follow: all lines that show some registers or a window are read
back as what they show.
-/

set_option autoImplicit false

namespace RemoteDebugger

open Text (Blanks Parting Solid Spaced Spelled)

private theorem word_of_spelled {field : Text} {width number : Nat}
    (spelled : Spelled width number field) : field ≠ [] ∧ Solid field := by
  have digit := spelled.digits.isHexDigit (Nat.le_refl 16)
  exact ⟨spelled.digits.ne_nil, fun c member => Text.isBlank_of_isHexDigit (digit c member)⟩

namespace Registers

variable {registers : Registers} {line : Text}

/-- A line shows registers: the numbers in as many digits as they have room for, then the flags, with
blanks between these fields, and perhaps before them. What follows is set apart by a blank. -/
def Layout (registers : Registers) (line : Text) : Prop :=
  ∃ lead fields shown tail, line = lead ++ (shown ++ tail) ∧ Blanks lead ∧
    List.Forall₂ (fun number field => Spelled number.1 number.2 field) registers.numbers fields ∧
    Spaced Parting (fields ++ [registers.flags]) shown ∧ ∀ c ∈ tail.head?, Text.isBlank c = true

private theorem fits : ∀ number ∈ registers.numbers, 0 < number.1 ∧ number.2 < 16 ^ number.1 := by
  have byte : ∀ byte : UInt8, byte.toNat < 16 ^ 2 := UInt8.toNat_lt
  have word : ∀ word : UInt16, word.toNat < 16 ^ 4 := UInt16.toNat_lt
  simp only [numbers, List.forall_mem_cons, byte, word]
  simp

theorem ofLine?_of_layout (nonempty : registers.flags ≠ []) (solid : Solid registers.flags)
    (layout : Layout registers line) : ofLine? line = some registers := by
  obtain ⟨lead, fields, shown, tail, rfl, blank, spelled, spaced, apart⟩ := layout
  have solids : ∀ piece ∈ fields ++ [registers.flags], piece ≠ [] ∧ Solid piece := by
    intro piece member
    rcases List.mem_append.mp member with numeric | last
    · obtain ⟨number, spelled⟩ := exists_forall₂_iff.mp ⟨_, spelled⟩ piece numeric
      exact word_of_spelled spelled
    · rw [List.mem_singleton.mp last]
      exact ⟨nonempty, solid⟩
  have filled : List.Forall₂ Fills registers.numbers fields := by
    refine ((List.forall₂_and_left _ _).mpr ⟨fits, spelled⟩).imp ?_
    rintro number field ⟨⟨positive, small⟩, spelled⟩
    exact ⟨Nat.le_of_eq (spelled.length_eq positive small), spelled.numeral⟩
  have words : Text.words (lead ++ (shown ++ tail)) =
      fields ++ registers.flags :: Text.words tail := by
    rw [Text.words_blanks_append blank, spaced.words solids apart, List.append_assoc]
    rfl
  exact ofLine?_eq_some_iff.mpr ⟨fields, Text.words tail, words, filled⟩

theorem layout_line (registers : Registers) : Layout registers registers.line := by
  refine ⟨[], registers.numbers.map fun number => Text.hex number.1 number.2, registers.line, [],
    by simp, by simp [Blanks], ?_, ?_, by simp⟩
  · rw [List.forall₂_map_right_iff, List.forall₂_same]
    exact fun number _ => Text.spelled_hex number.1 number.2
  · exact Spaced.of_joined " " (by simp [Parting, Blanks, Text.isBlank]) (by simp)

end Registers

namespace Window

variable {window : Window} {line : Text}

/-- ASCII blanks, or nothing. -/
def Loose (between : Text) : Prop := ∀ c ∈ between, Text.isAsciiBlank c = true

/-- A line shows a window: a colon, the address, a colon and the digits of the bytes, perhaps with
blanks between digits. Blanks may stand before the line and any text behind it. -/
def Layout (window : Window) (line : Text) : Prop :=
  ∃ lead width address digits shown tail,
    line = lead ++ ':' :: (address ++ ':' :: (shown ++ tail)) ∧ Blanks lead ∧
    Spelled width window.base.toNat address ∧
    Text.upper digits = window.bytes.toList.flatMap Text.hexByte ∧
    Spaced Loose (digits.map ([·])) shown

private theorem isAsciiBlank_digit {c : Char} (digit : Text.IsHexDigit c) :
    Text.isAsciiBlank c = false :=
  digit.elim (Text.isAsciiBlank · = false) (by decide) (by decide)

private theorem isHexDigit_of_upper {bytes : List UInt8} {digits : Text}
    (spelled : Text.upper digits = bytes.flatMap Text.hexByte) :
    ∀ c ∈ digits, Text.IsHexDigit c := by
  intro c member
  have letter : c.toUpper ∈ bytes.flatMap Text.hexByte := spelled ▸ List.mem_map_of_mem member
  obtain ⟨byte, -, found⟩ := List.mem_flatMap.mp letter
  exact Text.isHexDigit_of_toUpper (Text.isHexDigit_of_mem_hex found)

private theorem exists_pairs {bytes : List UInt8} {digits : Text}
    (spelled : Text.upper digits = bytes.flatMap Text.hexByte) :
    ∃ pairs : List Text, digits = pairs.flatten ∧ List.Forall₂ Pairs bytes pairs := by
  induction bytes generalizing digits with
  | nil => exact ⟨[], List.map_eq_nil_iff.mp spelled, .nil⟩
  | cons byte bytes ih =>
    obtain ⟨pair, others, rfl, first, later⟩ := List.map_eq_append_iff.mp spelled
    obtain ⟨pairs, rfl, shown⟩ := ih later
    have spelled : Spelled 2 byte.toNat pair := first
    have two : pair.length = 2 := spelled.length_eq (by decide) byte.toNat_lt
    exact ⟨pair :: pairs, rfl, .cons ⟨two, spelled.numeral⟩ shown⟩

private theorem length_of_upper {bytes : List UInt8} {digits : Text}
    (spelled : Text.upper digits = bytes.flatMap Text.hexByte) :
    digits.length = 2 * bytes.length := by
  have same : (Text.upper digits).length = (bytes.flatMap Text.hexByte).length :=
    congrArg List.length spelled
  simpa [Text.upper, List.length_flatMap, Nat.mul_comm] using same

private theorem trim_shown {lead address digits shown : Text} (blank : Blanks lead)
    (solid : Solid digits) (spaced : Spaced Loose (digits.map ([·])) shown) (tail : Text) :
    Text.trim (lead ++ ':' :: (address ++ ':' :: (shown ++ tail))) =
      ':' :: (address ++ ':' :: (shown ++ Text.trimEnd tail)) := by
  obtain ⟨front, piece, member, rfl⟩ := spaced.ending
  obtain ⟨last, found, rfl⟩ := List.mem_map.mp member
  have colon : Solid [':'] := by simp [Solid, Text.isBlank]
  have plain : Solid [last] := by simpa [Solid] using solid last found
  have trimmed := Text.trim_blanks_append blank (List.cons_ne_nil _ _) colon
    (List.cons_ne_nil _ _) plain (address ++ ':' :: front) tail
  simpa using trimmed

private theorem dense_shown {digits shown : Text} (digit : ∀ c ∈ digits, Text.IsHexDigit c)
    (spaced : Spaced Loose (digits.map ([·])) shown) : dense shown = digits := by
  have dropped : ∀ between, Loose between → ∀ c ∈ between, (!Text.isAsciiBlank c) = false :=
    fun between loose c member => by simp [loose c member]
  have kept : ∀ piece ∈ digits.map ([·]), ∀ c ∈ piece, (!Text.isAsciiBlank c) = true := by
    intro piece member c inside
    obtain ⟨d, found, rfl⟩ := List.mem_map.mp member
    rw [List.mem_singleton.mp inside, isAsciiBlank_digit (digit d found)]
    rfl
  rw [dense, spaced.filter dropped kept, ← List.flatMap_def, List.flatMap_singleton']

theorem ofLine?_of_layout (layout : Layout window line) : ofLine? line = some window := by
  obtain ⟨lead, width, address, digits, shown, tail, rfl, blank, base, spelled, spaced⟩ := layout
  have digit := isHexDigit_of_upper spelled
  have solid : Solid digits := fun c member => Text.isBlank_of_isHexDigit (digit c member)
  obtain ⟨pairs, row, bytes⟩ := exists_pairs spelled
  have count : digits.length = 32 := by
    rw [length_of_upper spelled, Vector.length_toList]
  have data : (dense (shown ++ Text.trimEnd tail)).take 32 = pairs.flatten := by
    rw [dense, List.filter_append, ← dense, dense_shown digit spaced, ← count, List.take_left, row]
  have numeral : Text.Numeral 16 (Text.trim address) window.base.toNat := by
    rw [Text.trim_of_solid (word_of_spelled base).2]
    exact base.numeral
  exact ofLine?_eq_some_iff.mpr
    ⟨address, _, pairs, trim_shown blank solid spaced tail, numeral, data, bytes⟩

theorem layout_line (window : Window) : Layout window window.line := by
  have spelled : Text.upper (window.bytes.toList.flatMap fun byte => Text.hexLower 2 byte.toNat) =
      window.bytes.toList.flatMap Text.hexByte := List.map_flatMap
  have count := length_of_upper spelled
  rw [Vector.length_toList] at count
  refine ⟨[], 7, Text.hex 7 window.base.toNat, _, _, [], ?_, by simp [Blanks],
    Text.spelled_hex _ _, spelled, Spaced.of_flatten (by simp [Loose]) ?_⟩
  · rw [← List.flatMap_def, List.flatMap_singleton', List.append_nil]
    rfl
  · intro empty
    rw [List.map_eq_nil_iff.mp empty] at count
    simp at count

end Window

/-- Every line that shows registers with flags is read as these registers, and every line that shows
a window is read as this window. -/
theorem valueLines_read_back :
    (∀ (registers : Registers) (line : Text), registers.flags ≠ [] → Solid registers.flags →
      Registers.Layout registers line → Registers.ofLine? line = some registers) ∧
    (∀ (window : Window) (line : Text),
      Window.Layout window line → Window.ofLine? line = some window) :=
  ⟨fun _ _ nonempty solid layout => Registers.ofLine?_of_layout nonempty solid layout,
    fun _ _ layout => Window.ofLine?_of_layout layout⟩

theorem valueLines_read_back_loose :
    Registers.ofLine?
        ("\n2a0B\t fF\t 01\t 02\t 00\t 00\t 01f0\t 0000\t 0000\t a9\t 00\t 00\t ..E..IZC P" :
          String) =
      some ⟨0x2A0B, 0xFF, 1, 2, 0, 0, 0x01F0, 0, 0, 0xA9, (0, 0), ("..E..IZC" : String)⟩ ∧
    Window.ofLine?
        (" :2a00:A 9 0 5 2 0 0 0 3 0 e A 0 0 0 0 0 0 0 0 0 0 0 0 0 0 0 0 0 0 F f0 more " :
          String) =
      some ⟨0x2A00, #v[0xA9, 5, 0x20, 0, 0x30, 0xEA, 0, 0, 0, 0, 0, 0, 0, 0, 0, 0xFF]⟩ := by
  constructor
  · have parting : Parting ("\t " : String) := by simp [Parting, Blanks, Text.isBlank]
    apply valueLines_read_back.1 _ _ (by decide) (by simp [Solid, Text.isBlank])
    refine ⟨("\n" : String), ["2a0B", "fF", "01", "02", "00", "00", "01f0", "0000", "0000", "a9",
      "00", "00"], _, (" P" : String), ?_, ?_, ?_, .of_joined ("\t " : String) parting ?_, ?_⟩
    · decide +kernel
    · simp [Blanks, Text.isBlank]
    · repeat constructor
    · simp
    · simp [Text.isBlank]
  · have loose : Window.Loose (" " : String) := by simp [Window.Loose, Text.isAsciiBlank]
    apply valueLines_read_back.2
    refine ⟨(" " : String), 4, ("2a00" : String), ("A905200030eA000000000000000000Ff" : String), _,
      ("0 more " : String), ?_, ?_, ?_, ?_, .of_joined (" " : String) loose ?_⟩
    · decide +kernel
    · simp [Blanks, Text.isBlank]
    · rfl
    · decide +kernel
    · simp

end RemoteDebugger
