import RemoteDebugger.Proofs.Assembly.Notation
import RemoteDebugger.Proofs.Instruction.Bytes
import RemoteDebugger.Proofs.Instruction.Table

/-!
The forms of an operand. Every mode has at most one way to store an operand, and storing is inverse
to decoding. The encoder goes over the modes of an operand's shape in a fixed order; of those that a
mnemonic has, there are at most two, and the first of them is the short form of the other.
-/

set_option autoImplicit false

namespace RemoteDebugger

open Encoding (wordBytes displacement shortDisplacement?)

/-- The operand bytes by which a mode stores an operand, if it can. -/
def Mode.operandBytes? (mode : Mode) (operand : Operand) (address : UInt16) :
    Option (List UInt8) :=
  match mode, operand with
  | .implicit, .none | .accumulator, .none => some []
  | .immediate, .immediate v | .zeroPage, .direct v | .zeroPageX, .indexedX v
  | .zeroPageY, .indexedY v | .indirectX, .indirectX v | .indirectY, .indirectY v
  | .indirectZ, .indirectZ v | .stackIndirectY, .stackIndirectY v =>
    if v ≤ 0xFF then some [lowByte v] else none
  | .immediateWord, .immediate v | .absolute, .direct v | .absoluteX, .indexedX v
  | .absoluteY, .indexedY v | .indirect, .indirect v | .indirectAbsoluteX, .indirectX v =>
    some (wordBytes v)
  | .relative, .direct target =>
    (shortDisplacement? target address Mode.relative.size).map fun distance => [distance]
  | .relativeWord, .direct target =>
    some (wordBytes (displacement target address Mode.relativeWord.size))
  | .zeroPageRelative, .zeroPageRelative page target =>
    if page ≤ 0xFF then
      (shortDisplacement? target address Mode.zeroPageRelative.size).map fun distance =>
        [lowByte page, distance]
    else none
  | _, _ => none

/-- The modes that can store an operand of a shape, in the order in which they are tried. -/
def Operand.modes : Operand → List Mode
  | .none => [.implicit, .accumulator]
  | .indirectX _ => [.indirectX, .indirectAbsoluteX]
  | .zeroPageRelative _ _ => [.zeroPageRelative]
  | .indirectY _ => [.indirectY]
  | .indirectZ _ => [.indirectZ]
  | .indexedX _ => [.zeroPageX, .absoluteX]
  | .indexedY _ => [.zeroPageY, .absoluteY]
  | .indirect _ => [.indirect]
  | .stackIndirectY _ => [.stackIndirectY]
  | .direct _ => [.zeroPage, .absolute, .relative, .relativeWord]
  | .immediate _ => [.immediate, .immediateWord]

/-- The short form of a mode, which holds the same operand in one byte less. -/
def Mode.narrower? : Mode → Option Mode
  | .absolute => some .zeroPage
  | .absoluteX => some .zeroPageX
  | .absoluteY => some .zeroPageY
  | .relativeWord => some .relative
  | _ => none

theorem Mode.size_of_narrower? {narrow wide : Mode} (short : wide.narrower? = some narrow) :
    narrow.size + 1 = wide.size := by
  cases wide <;> cases narrow <;> first | rfl | simp [Mode.narrower?] at short

theorem Mode.narrower?_of_narrower? {narrow wide : Mode} (short : wide.narrower? = some narrow) :
    narrow.narrower? = none := by
  cases wide <;> cases narrow <;> first | rfl | simp [Mode.narrower?] at short

section Storage

variable {operand : Operand} {address : UInt16} {mode : Mode}

theorem operandBytes?_eq_some_iff {first second : UInt8} :
    mode.operandBytes? operand address = some ([first, second].take mode.operandSize) ↔
      mode.written (Instruction.operandValue mode first second address) = operand := by
  cases mode <;> cases operand <;>
    simp [Mode.operandBytes?, Mode.written, Instruction.operandValue, Mode.operandSize, and_assoc,
      and_comm, Encoding.toUInt16_eq_iff, Encoding.wordOf_eq_iff, Encoding.shortTarget_eq_iff,
      Encoding.longTarget_eq_iff]

theorem length_of_operandBytes? {bytes : List UInt8}
    (stored : mode.operandBytes? operand address = some bytes) :
    bytes.length = mode.operandSize := by
  cases mode <;> cases operand <;>
    simp only [Mode.operandBytes?, reduceCtorEq, Option.map_eq_some_iff,
      Option.ite_none_right_eq_some, Option.some.injEq] at stored <;>
    grind [Mode.operandSize, wordBytes]

theorem mem_modes_of_operandBytes? {bytes : List UInt8}
    (stored : mode.operandBytes? operand address = some bytes) : mode ∈ operand.modes := by
  cases mode <;> cases operand <;> simp [Mode.operandBytes?, Operand.modes] at stored ⊢

end Storage

namespace Encoding

variable {mnemonic : Text} {operand : Operand} {address : UInt16} {mode : Mode}

/-- The encoding of an operand in one mode, if the mnemonic has the mode and the mode can store the
operand. -/
def form? (mnemonic : Text) (operand : Operand) (address : UInt16) (mode : Mode) :
    Option Encoding :=
  (Opcode.byte? mnemonic mode).bind fun opcode =>
    (mode.operandBytes? operand address).map fun bytes => ⟨opcode :: bytes, opcode, mode⟩

theorem form?_eq_some_iff {encoding : Encoding} :
    form? mnemonic operand address mode = some encoding ↔
      ∃ bytes, Opcode.byte? mnemonic mode = some encoding.opcode ∧
        mode.operandBytes? operand address = some bytes ∧
        encoding.bytes = encoding.opcode :: bytes ∧ encoding.mode = mode := by
  cases encoding with
  | mk whole opcode used =>
    rw [form?, Option.bind_eq_some_iff]
    constructor
    · rintro ⟨byte, found, form⟩
      obtain ⟨bytes, stored, same⟩ := Option.map_eq_some_iff.mp form
      cases same
      exact ⟨bytes, found, stored, rfl, rfl⟩
    · rintro ⟨bytes, found, stored, same, rfl⟩
      refine ⟨opcode, found, ?_⟩
      simp only at same
      rw [stored, same]
      rfl

theorem mem_modes_of_form? {encoding : Encoding}
    (formed : form? mnemonic operand address mode = some encoding) : mode ∈ operand.modes := by
  obtain ⟨bytes, -, stored, -⟩ := form?_eq_some_iff.mp formed
  exact mem_modes_of_operandBytes? stored

private theorem form?_stored {bytes : List UInt8}
    (stored : mode.operandBytes? operand address = some bytes) :
    form? mnemonic operand address mode = withOperand? mnemonic mode bytes := by
  rw [form?, stored, withOperand?]
  cases Opcode.byte? mnemonic mode <;> rfl

private theorem form?_unstored (unstored : mode.operandBytes? operand address = none) :
    form? mnemonic operand address mode = none := by
  rw [form?, unstored]
  cases Opcode.byte? mnemonic mode <;> rfl

private theorem form?_byte {value : UInt16}
    (stored : mode.operandBytes? operand address =
      if value ≤ 0xFF then some [lowByte value] else none) :
    form? mnemonic operand address mode = withByte? mnemonic mode value := by
  rw [withByte?]
  split
  · rename_i small
    exact form?_stored (stored.trans (if_pos small))
  · rename_i large
    exact form?_unstored (stored.trans (if_neg large))

private theorem form?_distance {distance : Option UInt8} {store : UInt8 → List UInt8}
    (stored : mode.operandBytes? operand address = distance.map store) :
    form? mnemonic operand address mode =
      distance.bind fun near => withOperand? mnemonic mode (store near) := by
  cases distance with
  | none => exact form?_unstored stored
  | some near => exact form?_stored stored

private theorem form?_bit (page target : UInt16) :
    form? mnemonic (.zeroPageRelative page target) address .zeroPageRelative =
      bitBranch? mnemonic page target address := by
  rw [bitBranch?]
  split
  · rename_i small
    exact form?_distance (if_pos small)
  · rename_i large
    exact form?_unstored (if_neg large)

private theorem findSome?_cons_or (form : Mode → Option Encoding) (first : Mode)
    (others : List Mode) :
    (first :: others).findSome? form = (form first).or (others.findSome? form) := by
  rw [List.findSome?_cons]
  cases form first <;> rfl

theorem ofOperand?_eq_findSome? :
    ofOperand? mnemonic operand address =
      operand.modes.findSome? (form? mnemonic operand address) := by
  cases operand <;>
    simp only [ofOperand?, Operand.modes, findSome?_cons_or, List.findSome?_nil,
      Option.orElse_eq_orElse, Option.orElse_eq_or, Option.or_none]
  case none => rw [form?_stored rfl, form?_stored rfl]
  case indirectX value => rw [form?_byte rfl, form?_stored rfl, withWord?]
  case zeroPageRelative page target => rw [form?_bit]
  case indirectY value => rw [form?_byte rfl]
  case indirectZ value => rw [form?_byte rfl]
  case indexedX value => rw [form?_byte rfl, form?_stored rfl, withWord?]
  case indexedY value => rw [form?_byte rfl, form?_stored rfl, withWord?]
  case indirect value => rw [form?_stored rfl, withWord?]
  case stackIndirectY value => rw [form?_byte rfl]
  case direct value =>
    rw [form?_byte rfl, form?_stored rfl, form?_distance rfl, form?_stored rfl, withWord?,
      shortBranch?, longBranch?]
  case immediate value => rw [form?_byte rfl, form?_stored rfl, withWord?]

/-- Where a mnemonic has two modes for one shape, the one that is tried first is the short form of
the other. -/
private theorem modes_pairwise (operand : Operand) :
    operand.modes.Pairwise fun first second =>
      ∀ one other : UInt8, (Opcode.ofByte one).mode = first → (Opcode.ofByte other).mode = second →
        (Opcode.ofByte one).mnemonic = (Opcode.ofByte other).mnemonic →
          second.narrower? = some first := by
  cases operand <;> simp only [Operand.modes, List.pairwise_cons, List.mem_cons, forall_eq_or_imp,
    List.not_mem_nil, false_implies, implies_true, List.Pairwise.nil, and_true]
  case none =>
    exact fun _ _ first second same => absurd same (Opcode.accumulator_apart first second)
  case indirectX =>
    exact fun _ _ first second same => absurd same (Opcode.pointer_apart first second)
  case indexedX => exact fun _ _ _ _ _ => rfl
  case indexedY => exact fun _ _ _ _ _ => rfl
  case immediate =>
    exact fun _ _ first second same => absurd same (Opcode.immediate_apart first second)
  case direct =>
    refine ⟨⟨fun _ _ _ _ _ => rfl, ?_, ?_⟩, ⟨?_, ?_⟩, fun _ _ _ _ _ => rfl⟩
    · intro one other first second same
      exact absurd same.symm (Opcode.branch_apart (.inl second) (.inl first))
    · intro one other first second same
      exact absurd same.symm (Opcode.branch_apart (.inr second) (.inl first))
    · intro one other first second same
      exact absurd same.symm (Opcode.branch_apart (.inl second) (.inr first))
    · intro one other first second same
      exact absurd same.symm (Opcode.branch_apart (.inr second) (.inr first))

theorem length_of_form? {encoding : Encoding}
    (formed : form? mnemonic operand address mode = some encoding) :
    encoding.bytes.length = mode.size := by
  obtain ⟨bytes, -, stored, whole, -⟩ := form?_eq_some_iff.mp formed
  rw [whole, List.length_cons, length_of_operandBytes? stored, Mode.size]

theorem ofOperand?_eq_some {chosen : Encoding}
    (encoded : ofOperand? mnemonic operand address = some chosen) :
    form? mnemonic operand address chosen.mode = some chosen ∧
      ∀ mode other, form? mnemonic operand address mode = some other →
        other ≠ chosen → mode.narrower? = some chosen.mode := by
  rw [ofOperand?_eq_findSome?, List.findSome?_eq_some_iff] at encoded
  obtain ⟨before, first, after, modes, formed, skipped⟩ := encoded
  obtain ⟨bytes, found, -, -, used⟩ := form?_eq_some_iff.mp formed
  refine ⟨used ▸ formed, ?_⟩
  intro mode other otherFormed apart
  have member := mem_modes_of_form? otherFormed
  rw [modes, List.mem_append, List.mem_cons] at member
  rcases member with earlier | rfl | later
  · rw [skipped mode earlier] at otherFormed
    contradiction
  · rw [formed] at otherFormed
    exact absurd (Option.some.inj otherFormed).symm apart
  · obtain ⟨-, otherFound, -⟩ := form?_eq_some_iff.mp otherFormed
    have order := modes_pairwise operand
    rw [modes, List.pairwise_append, List.pairwise_cons] at order
    have entry := Opcode.byte?_eq_some_iff.mp found
    have otherEntry := Opcode.byte?_eq_some_iff.mp otherFound
    rw [used]
    exact order.2.1.1 mode later chosen.opcode other.opcode (by rw [entry]) (by rw [otherEntry])
      (by rw [entry, otherEntry])

theorem ofOperand?_isSome_of_form? {encoding : Encoding}
    (formed : form? mnemonic operand address mode = some encoding) :
    ∃ chosen, ofOperand? mnemonic operand address = some chosen := by
  rw [← Option.isSome_iff_exists, ofOperand?_eq_findSome?, List.findSome?_isSome_iff]
  exact ⟨mode, mem_modes_of_form? formed, by rw [formed]; rfl⟩

end Encoding

end RemoteDebugger
