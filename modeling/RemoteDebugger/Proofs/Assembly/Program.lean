import RemoteDebugger.Proofs.Assembly.RoundTrip

/-!
Whole programs. Lines that assemble one after another, each behind the bytes of those before it,
disassemble to one instruction a line at the same addresses, and the text of each instruction
assembles to the bytes of its line. Disassembling finds its own way over the bytes: it stays in step
because every encoding has the size that its opcode tells.
-/

set_option autoImplicit false

namespace RemoteDebugger

namespace Instruction

theorem disassemble_append {bytes : List UInt8} {start : UInt16}
    (whole : bytes.length = (decode bytes start).size) (rest : List UInt8) :
    disassemble (bytes ++ rest) start =
      decode bytes start :: disassemble rest (start + UInt16.ofNat bytes.length) := by
  have first := decode_append whole rest
  have behind : (bytes ++ rest).drop (decode bytes start).size = rest := by
    rw [← whole, List.drop_left]
  have next : (decode bytes start).nextAddress = start + UInt16.ofNat bytes.length := by
    rw [whole]
    rfl
  obtain ⟨byte, others, rfl⟩ : ∃ byte others, bytes = byte :: others :=
    List.exists_cons_of_length_pos (whole ▸ Mode.size_pos _)
  rw [List.cons_append] at first behind ⊢
  rw [disassemble_cons, first, behind, next]

end Instruction

namespace Encoding

open Instruction (decode disassemble disassemble_append size_decode)

/-- Where the encoding with an index is stored: behind the bytes of those before it. Addresses wrap
at the top of the view. -/
def place (start : UInt16) (encodings : List Encoding) (index : Nat) : UInt16 :=
  start + UInt16.ofNat ((encodings.take index).flatMap (·.bytes)).length

theorem place_zero (start : UInt16) (encodings : List Encoding) : place start encodings 0 = start := by
  exact UInt16.add_zero start

theorem place_succ (start : UInt16) (encoding : Encoding) (encodings : List Encoding) (index : Nat) :
    place start (encoding :: encodings) (index + 1) =
      place (start + UInt16.ofNat encoding.bytes.length) encodings index := by
  rw [place, place, List.take_succ_cons, List.flatMap_cons, List.length_append, UInt16.ofNat_add,
    UInt16.add_assoc]

theorem disassemble_flatMap {encodings : List Encoding} (start : UInt16)
    (whole : ∀ encoding ∈ encodings, encoding.bytes.length = (decode encoding.bytes start).size) :
    disassemble (encodings.flatMap (·.bytes)) start =
      encodings.mapIdx fun index encoding => decode encoding.bytes (place start encodings index) := by
  induction encodings generalizing start with
  | nil => rfl
  | cons encoding encodings ih =>
    have own := whole encoding List.mem_cons_self
    have later := ih (start + UInt16.ofNat encoding.bytes.length) fun other member =>
      whole other (List.mem_cons_of_mem encoding member)
    simp only [List.mapIdx_cons, place_zero, place_succ]
    rw [List.flatMap_cons, disassemble_append own, later]

theorem ofLine_decode {line : Text} {address : UInt16} {encoding : Encoding}
    (assembled : ofLine line address = .ok encoding) :
    encoding.bytes.length = (decode encoding.bytes address).size ∧
      (decode encoding.bytes address).opcode = encoding.opcode ∧
      ofLine (decode encoding.bytes address).text address = .ok encoding := by
  obtain ⟨-, -, operand, -, chosen⟩ := ofLine_eq_ok_iff.mp assembled
  obtain ⟨opcode, name, -, size, written⟩ := decode_form? (ofOperand?_eq_some chosen).1
  refine ⟨size.symm, opcode, ofLine_text_of_chosen ?_⟩
  rw [name, written]
  exact chosen

/-- Disassembling undoes the assembling of a program line by line, and the listing is a source of
the same program. -/
theorem disassemble_program {start : UInt16} {lines : List Text} {encodings : List Encoding}
    (count : encodings.length = lines.length)
    (assembled : ∀ index line encoding, lines[index]? = some line →
      encodings[index]? = some encoding →
        ofLine line (place start encodings index) = .ok encoding) :
    (disassemble (encodings.flatMap (·.bytes)) start).length = lines.length ∧
      ∀ index encoding, encodings[index]? = some encoding →
        ∃ instruction, (disassemble (encodings.flatMap (·.bytes)) start)[index]? = some instruction ∧
          instruction.address = place start encodings index ∧
          instruction.opcode = encoding.opcode ∧
          instruction.opcode :: instruction.operandBytes = encoding.bytes ∧
          ofLine instruction.text instruction.address = .ok encoding := by
  have each : ∀ index encoding, encodings[index]? = some encoding →
      ∃ line, ofLine line (place start encodings index) = .ok encoding := by
    intro index encoding found
    obtain ⟨inside, -⟩ := List.getElem?_eq_some_iff.mp found
    have present : lines[index]? = some lines[index] := List.getElem?_eq_getElem (count ▸ inside)
    exact ⟨_, assembled index _ encoding present found⟩
  have whole : ∀ encoding ∈ encodings,
      encoding.bytes.length = (decode encoding.bytes start).size := by
    intro encoding member
    obtain ⟨index, found⟩ := List.mem_iff_getElem?.mp member
    obtain ⟨line, made⟩ := each index encoding found
    exact (ofLine_decode made).1.trans (size_decode _ _ _)
  rw [disassemble_flatMap start whole]
  refine ⟨by rw [List.length_mapIdx, count], ?_⟩
  intro index encoding found
  obtain ⟨line, made⟩ := each index encoding found
  obtain ⟨exact, opcode, again⟩ := ofLine_decode made
  refine ⟨decode encoding.bytes (place start encodings index), ?_, rfl, opcode,
    eq_cons_operandBytes exact, again⟩
  rw [List.getElem?_mapIdx, found]
  rfl

theorem ofLine_of_toOption {line : Text} {address : UInt16} {encoding : Encoding}
    (made : (ofLine line address).toOption = some encoding) : ofLine line address = .ok encoding := by
  cases assembled : ofLine line address with
  | error cause => simp [assembled, Except.toOption] at made
  | ok value =>
    rw [assembled] at made
    cases made
    rfl

/-- A loop around the top of the view: its jump starts below the top and ends above the bottom. -/
def wrappingLines : List Text := ["lda #$01".toList, "jmp $fffc".toList, "bne $fffc".toList]

def wrappingEncodings : List Encoding :=
  [⟨[0xA9, 0x01], 0xA9, .immediate⟩, ⟨[0x4C, 0xFC, 0xFF], 0x4C, .absolute⟩,
    ⟨[0xD0, 0xF9], 0xD0, .relative⟩]

theorem disassemble_program_wrapping :
    ofLine "bne $fffc".toList (place 0xFFFC wrappingEncodings 2) =
        .ok ⟨[0xD0, 0xF9], 0xD0, .relative⟩ ∧
      ∃ instruction, (disassemble [0xA9, 0x01, 0x4C, 0xFC, 0xFF, 0xD0, 0xF9] 0xFFFC)[2]? =
          some instruction ∧
        instruction.address = 0x0001 ∧
        ofLine instruction.text instruction.address = .ok ⟨[0xD0, 0xF9], 0xD0, .relative⟩ := by
  have assembled : ∀ index line encoding, wrappingLines[index]? = some line →
      wrappingEncodings[index]? = some encoding →
        ofLine line (place 0xFFFC wrappingEncodings index) = .ok encoding := by
    intro index line encoding source found
    match index with
    | 0 | 1 | 2 =>
      cases source
      cases found
      exact ofLine_of_toOption (by decide +kernel)
    | index + 3 => exact absurd source (by simp [wrappingLines])
  obtain ⟨-, each⟩ := @disassemble_program 0xFFFC wrappingLines wrappingEncodings rfl assembled
  obtain ⟨instruction, found, address, -, -, again⟩ := each 2 _ rfl
  have bottom : place 0xFFFC wrappingEncodings 2 = 0x0001 := by decide +kernel
  exact ⟨assembled 2 _ _ rfl rfl, instruction, found, address.trans bottom, again⟩

end Encoding

end RemoteDebugger
