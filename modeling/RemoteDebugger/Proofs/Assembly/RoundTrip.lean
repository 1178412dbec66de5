import RemoteDebugger.Proofs.Assembly.Forms
import RemoteDebugger.Proofs.Instruction.Decoding

/-!
Assembling and disassembling undo each other. The encoder finds the one shortest instruction that
says what was asked for; a line that assembles decodes to what the line says; and the text of any
decoded instruction assembles to the same bytes, or to a shorter form where there is one.
-/

set_option autoImplicit false

namespace RemoteDebugger.Encoding

open Instruction (decode)

/-- The bytes are one whole instruction with the mnemonic, and its printed operand is read as the
given one. -/
def Encodes (mnemonic : Text) (operand : Operand) (address : UInt16) (bytes : List UInt8) : Prop :=
  bytes.length = (decode bytes address).size ∧
    (decode bytes address).mnemonic = mnemonic ∧
    Operand.read (decode bytes address).operandText = .ok operand

variable {mnemonic : Text} {operand : Operand} {address : UInt16} {mode : Mode}

private theorem take_getD {bytes : List UInt8} (short : bytes.length ≤ 2) :
    [bytes.getD 0 0, bytes.getD 1 0].take bytes.length = bytes := by
  match bytes, short with
  | [], _ => rfl
  | [_], _ => rfl
  | [_, _], _ => rfl

theorem decode_form? {encoding : Encoding}
    (formed : form? mnemonic operand address mode = some encoding) :
    (decode encoding.bytes address).opcode = encoding.opcode ∧
      (decode encoding.bytes address).mnemonic = mnemonic ∧
      (decode encoding.bytes address).mode = mode ∧
      (decode encoding.bytes address).size = encoding.bytes.length ∧
      (decode encoding.bytes address).written = operand := by
  obtain ⟨bytes, found, stored, whole, -⟩ := form?_eq_some_iff.mp formed
  have entry : Opcode.ofByte encoding.opcode = ⟨mnemonic, mode⟩ :=
    Opcode.byte?_eq_some_iff.mp found
  have length := length_of_operandBytes? stored
  have pair := take_getD (length ▸ mode.operandSize_le_two)
  rw [length_of_form? formed, whole]
  simp only [decode, Instruction.written, List.getD_cons_zero, List.getD_cons_succ, entry,
    true_and]
  apply operandBytes?_eq_some_iff.mp
  rw [← length, pair]
  exact stored

theorem encodes_of_form? {encoding : Encoding}
    (formed : form? mnemonic operand address mode = some encoding) :
    Encodes mnemonic operand address encoding.bytes := by
  obtain ⟨-, name, -, size, written⟩ := decode_form? formed
  refine ⟨size.symm, name, ?_⟩
  rw [Instruction.read_operandText, written]

theorem form?_decode (bytes : List UInt8) (address : UInt16) :
    form? (decode bytes address).mnemonic (decode bytes address).written address
        (decode bytes address).mode =
      some ⟨(decode bytes address).opcode :: (decode bytes address).operandBytes,
        (decode bytes address).opcode, (decode bytes address).mode⟩ := by
  refine form?_eq_some_iff.mpr ⟨(decode bytes address).operandBytes, ?_, ?_, rfl, rfl⟩
  · exact Opcode.byte?_ofByte _
  · exact operandBytes?_eq_some_iff.mpr rfl

theorem eq_cons_operandBytes {bytes : List UInt8} {address : UInt16}
    (exact : bytes.length = (decode bytes address).size) :
    (decode bytes address).opcode :: (decode bytes address).operandBytes = bytes := by
  have stored := Instruction.stored_decode_of_le (Nat.le_of_eq exact.symm)
  rwa [← exact, List.take_length] at stored

theorem encodes_iff {bytes : List UInt8} :
    Encodes mnemonic operand address bytes ↔
      ∃ mode encoding, form? mnemonic operand address mode = some encoding ∧
        encoding.bytes = bytes := by
  constructor
  · rintro ⟨exact, rfl, read⟩
    rw [Instruction.read_operandText] at read
    have form := form?_decode bytes address
    rw [Except.ok.inj read] at form
    exact ⟨_, _, form, eq_cons_operandBytes exact⟩
  · rintro ⟨mode, encoding, formed, rfl⟩
    exact encodes_of_form? formed

theorem ofOperand_eq_ok_iff {encoding : Encoding} :
    ofOperand mnemonic operand address = .ok encoding ↔
      ofOperand? mnemonic operand address = some encoding := by
  rw [ofOperand]
  cases ofOperand? mnemonic operand address <;> simp

/-- The encoder fails only where no instruction says what is asked for; otherwise it answers with
the one shortest instruction that does. -/
theorem ofOperand_shortest (mnemonic : Text) (operand : Operand) (address : UInt16) :
    (ofOperand mnemonic operand address = .error (.noMatchingForm mnemonic operand) ↔
      ¬ ∃ bytes, Encodes mnemonic operand address bytes) ∧
    ((∃ bytes, Encodes mnemonic operand address bytes) →
      ∃ encoding, ofOperand mnemonic operand address = .ok encoding ∧
        Encodes mnemonic operand address encoding.bytes ∧
        ∀ bytes, Encodes mnemonic operand address bytes → bytes ≠ encoding.bytes →
          encoding.bytes.length < bytes.length) := by
  have found : (∃ bytes, Encodes mnemonic operand address bytes) →
      ∃ encoding, ofOperand? mnemonic operand address = some encoding := by
    rintro ⟨bytes, encodes⟩
    obtain ⟨mode, encoding, formed, -⟩ := encodes_iff.mp encodes
    exact ofOperand?_isSome_of_form? formed
  constructor
  · constructor
    · rintro failed some
      obtain ⟨encoding, chosen⟩ := found some
      rw [ofOperand_eq_ok_iff.mpr chosen] at failed
      contradiction
    · intro none
      cases chosen : ofOperand? mnemonic operand address with
      | none => rw [ofOperand, chosen]
      | some encoding =>
        exact absurd ⟨_, encodes_of_form? (ofOperand?_eq_some chosen).1⟩ none
  · intro some
    obtain ⟨encoding, chosen⟩ := found some
    obtain ⟨formed, shortest⟩ := ofOperand?_eq_some chosen
    refine ⟨encoding, ofOperand_eq_ok_iff.mpr chosen, encodes_of_form? formed, ?_⟩
    intro bytes encodes apart
    obtain ⟨mode, other, otherFormed, rfl⟩ := encodes_iff.mp encodes
    have short := shortest mode other otherFormed fun same => apart (congrArg Encoding.bytes same)
    have sizes := Mode.size_of_narrower? short
    rw [length_of_form? formed, length_of_form? otherFormed]
    omega

section Lines

variable {line : Text}

theorem ofLine_eq_ok_iff {encoding : Encoding} :
    ofLine line address = .ok encoding ↔
      (splitLine line).1 ≠ [] ∧ Opcode.isMnemonic (splitLine line).1 = true ∧
        ∃ operand, Operand.read (splitLine line).2 = .ok operand ∧
          ofOperand? (Opcode.canonical (splitLine line).1) operand address = some encoding := by
  rw [ofLine]
  simp only [List.isEmpty_iff, ne_eq]
  by_cases blank : (splitLine line).1 = []
  · simp [blank]
  · rw [if_neg blank, ofParts]
    by_cases known : Opcode.isMnemonic (splitLine line).1 = true
    · rw [if_pos known]
      cases read : Operand.read (splitLine line).2 with
      | error cause => simp [blank, known]
      | ok operand => simp [blank, known, ofOperand_eq_ok_iff]
    · rw [if_neg known]
      simp [known]

theorem head?_words_of_splitLine (nonempty : (splitLine line).1 ≠ []) :
    (Text.words line).head? = some (splitLine line).1 := by
  rw [← Text.words_trim]
  simp only [splitLine] at nonempty ⊢
  cases cut : Text.cut? Text.isBlank (Text.trim line) with
  | none =>
    simp only [cut, Option.getD_none] at nonempty ⊢
    rw [Text.words_of_solid nonempty (Text.cut?_eq_none cut)]
    rfl
  | some parts =>
    obtain ⟨before, after⟩ := parts
    simp only [cut, Option.getD_some] at nonempty ⊢
    obtain ⟨c, blank, whole, solid⟩ := Text.cut?_eq_some cut
    rw [whole, Text.words_append_blank nonempty solid blank]
    rfl

/-- Decoding undoes assembling. -/
theorem decode_ofLine {encoding : Encoding} (assembled : ofLine line address = .ok encoding) :
    (1 ≤ encoding.bytes.length ∧ encoding.bytes.length ≤ 3 ∧
      encoding.bytes.head? = some encoding.opcode) ∧
    (decode encoding.bytes address).opcode = encoding.opcode ∧
    (decode encoding.bytes address).mode = encoding.mode ∧
    (decode encoding.bytes address).size = encoding.bytes.length ∧
    (∃ word, (Text.words line).head? = some word ∧
      (decode encoding.bytes address).mnemonic = Opcode.canonical word) ∧
    ∃ operand, Operand.read (splitLine line).2 = .ok operand ∧
      Operand.read (decode encoding.bytes address).operandText = .ok operand := by
  obtain ⟨nonempty, -, operand, read, chosen⟩ := ofLine_eq_ok_iff.mp assembled
  have formed := (ofOperand?_eq_some chosen).1
  obtain ⟨opcode, name, mode, size, written⟩ := decode_form? formed
  obtain ⟨bytes, -, -, whole, -⟩ := form?_eq_some_iff.mp formed
  have length := length_of_form? formed
  refine ⟨⟨?_, ?_, ?_⟩, opcode, mode, size, ⟨_, head?_words_of_splitLine nonempty, name⟩,
    operand, read, ?_⟩
  · rw [length]
    exact Mode.size_pos _
  · rw [length]
    exact Mode.size_le_three _
  · rw [whole]
    rfl
  · rw [Instruction.read_operandText, written]

theorem decode_ofLine_store :
    ofLine "  sta ($20),z ".toList 0 = .ok ⟨[0x92, 0x20], 0x92, .indirectZ⟩ ∧
      (decode [0x92, 0x20] 0).size = 2 :=
  have assembled : ofLine "  sta ($20),z ".toList 0 = .ok ⟨[0x92, 0x20], 0x92, .indirectZ⟩ := by
    rfl
  ⟨assembled, (decode_ofLine assembled).2.2.2.1⟩

end Lines

section Listing

/-- A shorter form of the instruction has the same text: an absolute address with a high byte of
zero, or a long branch within reach of the short one. -/
def Narrows (instruction : Instruction) : Prop :=
  match instruction.mode, instruction.operand with
  | .absolute, .word address =>
    highByte address = 0 ∧ (Opcode.byte? instruction.mnemonic .zeroPage).isSome
  | .absoluteX, .word address =>
    highByte address = 0 ∧ (Opcode.byte? instruction.mnemonic .zeroPageX).isSome
  | .absoluteY, .word address =>
    highByte address = 0 ∧ (Opcode.byte? instruction.mnemonic .zeroPageY).isSome
  | .relativeWord, .target target =>
    (∃ distance, Instruction.shortTarget instruction.address Mode.relative.size distance = target) ∧
      (Opcode.byte? instruction.mnemonic .relative).isSome
  | _, _ => False

theorem splitLine_text (bytes : List UInt8) (address : UInt16) :
    splitLine (decode bytes address).text =
      ((decode bytes address).mnemonic, (decode bytes address).operandText) := by
  have nonempty : (decode bytes address).mnemonic ≠ [] := Opcode.mnemonic_ne_nil _
  have solid : Text.Solid (decode bytes address).mnemonic := Opcode.mnemonic_solid _
  have solidOperand := Instruction.solid_operandText bytes address
  simp only [splitLine, Instruction.text, List.isEmpty_iff]
  by_cases empty : (decode bytes address).operandText = []
  · rw [if_pos empty, Text.trim_of_solid solid, Text.cut?_of_clean solid, empty]
    rfl
  · rw [if_neg empty]
    show (Text.cut? Text.isBlank (Text.trim (_ ++ [' '] ++ _))).getD _ = _
    rw [Text.trim_append nonempty solid empty solidOperand, List.append_assoc]
    show (Text.cut? Text.isBlank (_ ++ ' ' :: _)).getD _ = _
    rw [Text.cut?_append solid rfl]
    rfl

private theorem highByte_eq_zero_iff {word : UInt16} : highByte word = 0 ↔ word ≤ 0xFF := by
  have limit : (0xFF : UInt16).toNat = 255 := rfl
  have zero : (0 : UInt8).toNat = 0 := rfl
  rw [← UInt8.toNat_inj, toNat_highByte, UInt16.le_iff_toNat_le, limit, zero]
  omega

private theorem form?_isSome_iff :
    (form? mnemonic operand address mode).isSome ↔
      (Opcode.byte? mnemonic mode).isSome ∧ (mode.operandBytes? operand address).isSome := by
  rw [form?]
  cases Opcode.byte? mnemonic mode <;> cases mode.operandBytes? operand address <;> simp

theorem narrows_iff (bytes : List UInt8) (address : UInt16) :
    Narrows (decode bytes address) ↔
      ∃ mode, (decode bytes address).mode.narrower? = some mode ∧
        (form? (decode bytes address).mnemonic (decode bytes address).written address
          mode).isSome := by
  simp only [form?_isSome_iff, Narrows, Instruction.written, decode]
  generalize (Opcode.ofByte (bytes.getD 0 0)).mnemonic = mnemonic
  generalize (Opcode.ofByte (bytes.getD 0 0)).mode = mode
  cases mode <;>
    simp [Mode.narrower?, Instruction.operandValue, Mode.written, Mode.operandBytes?,
      highByte_eq_zero_iff, Encoding.shortTarget_eq_iff, and_comm, ← Option.isSome_iff_exists]

private theorem bytes_of_chosen {bytes : List UInt8} {address : UInt16} {encoding : Encoding}
    (chosen : ofOperand? (decode bytes address).mnemonic (decode bytes address).written address =
      some encoding) :
    (¬ Narrows (decode bytes address) →
      encoding.bytes = (decode bytes address).opcode :: (decode bytes address).operandBytes) ∧
    (Narrows (decode bytes address) →
      encoding.bytes.length + 1 =
        ((decode bytes address).opcode :: (decode bytes address).operandBytes).length) := by
  have itself := form?_decode bytes address
  obtain ⟨formed, shortest⟩ := ofOperand?_eq_some chosen
  constructor
  · intro wide
    by_cases same : encoding.bytes =
        (decode bytes address).opcode :: (decode bytes address).operandBytes
    · exact same
    · have short := shortest _ _ itself fun equal => same (congrArg Encoding.bytes equal).symm
      refine absurd ((narrows_iff bytes address).mpr ⟨encoding.mode, short, ?_⟩) wide
      rw [formed]
      rfl
  · intro narrow
    obtain ⟨mode, short, found⟩ := (narrows_iff bytes address).mp narrow
    obtain ⟨other, otherFormed⟩ := Option.isSome_iff_exists.mp found
    -- Were the decoded instruction itself the choice, its short form would have a shorter one.
    have differs : ⟨(decode bytes address).opcode :: (decode bytes address).operandBytes,
        (decode bytes address).opcode, (decode bytes address).mode⟩ ≠ encoding := by
      intro same
      have ownMode : (decode bytes address).mode = encoding.mode := congrArg Encoding.mode same
      obtain ⟨-, -, -, -, otherMode⟩ := form?_eq_some_iff.mp otherFormed
      have stuck := Mode.narrower?_of_narrower? short
      have apart : other ≠ encoding := by
        rintro rfl
        rw [← otherMode, ← ownMode, short] at stuck
        contradiction
      rw [shortest mode other otherFormed apart] at stuck
      contradiction
    have sizes := Mode.size_of_narrower? (shortest _ _ itself differs)
    have ownLength : ((decode bytes address).opcode :: (decode bytes address).operandBytes).length =
        (decode bytes address).mode.size := length_of_form? itself
    have length := length_of_form? formed
    omega

theorem ofLine_text_of_chosen {bytes : List UInt8} {address : UInt16} {encoding : Encoding}
    (chosen : ofOperand? (decode bytes address).mnemonic (decode bytes address).written address =
      some encoding) :
    ofLine (decode bytes address).text address = .ok encoding := by
  rw [ofLine_eq_ok_iff, splitLine_text]
  refine ⟨Opcode.mnemonic_ne_nil _, Opcode.isMnemonic_mnemonic _, _,
    Instruction.read_operandText bytes address, ?_⟩
  show ofOperand? (Opcode.canonical (Opcode.ofByte _).mnemonic) _ _ = _
  rw [Opcode.canonical_mnemonic]
  exact chosen

/-- Assembling undoes decoding. The text of an instruction assembles to what it was decoded from,
except that the short form is taken where there is one; after that the text is stable. -/
theorem ofLine_text (bytes : List UInt8) (address : UInt16) :
    ∃ encoding, ofLine (decode bytes address).text address = .ok encoding ∧
      (decode encoding.bytes address).mnemonic = (decode bytes address).mnemonic ∧
      (∃ operand, Operand.read (decode bytes address).operandText = .ok operand ∧
        Operand.read (decode encoding.bytes address).operandText = .ok operand) ∧
      (¬ Narrows (decode bytes address) →
        encoding.bytes = (decode bytes address).opcode :: (decode bytes address).operandBytes) ∧
      (Narrows (decode bytes address) →
        encoding.bytes.length + 1 =
          ((decode bytes address).opcode :: (decode bytes address).operandBytes).length) ∧
      ofLine (decode encoding.bytes address).text address = .ok encoding := by
  obtain ⟨encoding, chosen⟩ := ofOperand?_isSome_of_form? (form?_decode bytes address)
  obtain ⟨-, name, -, -, written⟩ := decode_form? (ofOperand?_eq_some chosen).1
  obtain ⟨itself, narrowed⟩ := bytes_of_chosen chosen
  refine ⟨encoding, ofLine_text_of_chosen chosen, name,
    ⟨_, Instruction.read_operandText bytes address, ?_⟩, itself, narrowed, ?_⟩
  · rw [Instruction.read_operandText, written]
  · apply ofLine_text_of_chosen
    rw [name, written]
    exact chosen

end Listing

end RemoteDebugger.Encoding
