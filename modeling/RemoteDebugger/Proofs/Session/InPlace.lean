import RemoteDebugger.Proofs.Session.Listing
import RemoteDebugger.Proofs.Session.OneShot

/-!
Assembling in place. A line that does not assemble sends nothing. A line that does is written by one
command, and the listing of that address shows an instruction whose text assembles to the same
bytes. Writing and listing find their bytes by counting on from one monitor address, so this holds
up to the top of either address form and across it.
-/

set_option autoImplicit false

namespace RemoteDebugger

/-- Where the text of the instruction starts in its line: behind a dollar sign, four or seven digits,
eight characters of bytes, and two blanks before and after these. -/
def Address.textColumn : Address → Nat
  | cpu _ => 17
  | flat _ => 20

@[simp] theorem Address.textColumn_offset (address : Address) (distance : UInt32) :
    (address.offset distance).textColumn = address.textColumn := by
  cases address <;> rfl

namespace Instruction

private theorem length_rawColumn {instruction : Instruction}
    (few : instruction.operandBytes.length ≤ 2) :
    (Text.padRight 8 (Text.hexBytes instruction.stored)).length = 8 := by
  rw [Text.padRight, List.length_append, List.length_replicate, Text.length_hexBytes, stored,
    List.length_cons]
  omega

private theorem drop_columns {address raw : Text} {digits : Nat} (own : address.length = digits)
    (column : raw.length = 8) (text : Text) :
    ("$" ++ address ++ "  " ++ raw ++ "  " ++ text : Text).drop (digits + 13) = text := by
  apply List.drop_left'
  simp only [List.length_append, own, column]
  show 1 + digits + 2 + 8 + 2 = digits + 13
  omega

theorem drop_lineAt {instruction : Instruction} (few : instruction.operandBytes.length ≤ 2)
    (address : Address) :
    (instruction.lineAt address).drop address.textColumn = instruction.text := by
  have raw := length_rawColumn few
  cases address with
  | cpu address =>
    have digits : (Text.hex 4 (address.toUInt32 &&& 0xFFFF).toNat).length = 4 := by
      apply Text.length_hex_of_lt (by decide)
      rw [UInt32.toNat_and]
      exact Nat.lt_succ_of_le Nat.and_le_right
    exact drop_columns digits raw instruction.text
  | flat address =>
    have digits : (Text.hex 7 (address &&& Address.mask &&& 0x0FFFFFFF).toNat).length = 7 := by
      apply Text.length_hex_of_lt (by decide)
      rw [UInt32.toNat_and]
      exact Nat.lt_succ_of_le Nat.and_le_right
    exact drop_columns digits raw instruction.text

end Instruction

namespace Action

variable {session : Session} {target : Simulator} {address : Address} {line : Text}
  {encoding : Encoding}

theorem assembleAt_of_error {cause : EncodeError}
    (failed : Encoding.ofLine line address.cpuAddress = .error cause) :
    assembleAt address line = throw (.encode cause) := by
  rw [assembleAt, assembled, failed]
  rfl

theorem through_assembleAt (ready : target.Ready)
    (made : Encoding.ofLine line address.cpuAddress = .ok encoding) :
    (assembleAt address line).through session target =
      ((.ok encoding, session), target.written address.physical encoding.bytes) := by
  obtain ⟨occupied, few⟩ := length_encoding made
  have limit : 3 ≤ Link.writeLimit := by decide
  have write : (onLink (·.writeMemory address encoding.bytes)).through session target =
      ((.ok (), session), target.written address.physical encoding.bytes) := by
    rw [onLink_writeMemory (List.length_pos_iff.mp occupied) (few.trans limit)]
    exact through_onLink_of_ok (Simulator.through_write ready _ address encoding.bytes)
  rw [assembleAt, assembled, made]
  exact (through_bind_of_ok write).trans rfl

theorem getD_listedBytes (machine : Machine) (address : Address) {index : Nat}
    (small : index < 3) :
    (listedBytes machine address 1).getD index 0 =
      machine.read (address.physical + UInt32.ofNat index) := by
  have one : blockStart (1 * 3) index = 0 := by
    rw [blockStart]
    split <;> omega
  rw [listedBytes, getD_map_range _ _ (by omega), Simulator.source, one,
    Address.physical_offset_zero, Nat.sub_zero]

theorem listingFrom_one (start : Address) (bytes : List UInt8) :
    listingFrom start bytes 1 0 =
      [(Instruction.decode bytes start.cpuAddress).lineAt (start.offset (UInt32.ofNat 0))] := by
  have here : (start.offset (UInt32.ofNat 0)).cpuAddress = start.cpuAddress := by
    rw [Address.cpuAddress_offset]
    exact UInt16.add_zero _
  rw [listingFrom, listingFrom]
  simp only [Instruction.listingLine_eq_lineAt, List.drop_zero]
  rw [here]

theorem decode_listedBytes_written
    (made : Encoding.ofLine line address.cpuAddress = .ok encoding) (machine : Machine) :
    Instruction.decode
        (listedBytes (machine.writeBytes address.physical encoding.bytes) address 1)
        address.cpuAddress =
      Instruction.decode encoding.bytes address.cpuAddress := by
  obtain ⟨whole, -, -⟩ := Encoding.ofLine_decode made
  obtain ⟨-, few⟩ := length_encoding made
  apply Instruction.decode_congr
  intro index small
  rw [← whole] at small
  rw [getD_listedBytes _ _ (by omega), Machine.read_writeBytes_add _ _ small (by omega)]

theorem through_disassembleAt_written (ready : target.Ready) (patient : 2 ≤ session.link.reads)
    (made : Encoding.ofLine line address.cpuAddress = .ok encoding) :
    ∃ text : Text, (disassembleAt (some address) 1).through session
        (target.written address.physical encoding.bytes) =
          ((.ok [text], session), target.written address.physical encoding.bytes) ∧
      Encoding.ofLine (text.drop address.textColumn) address.cpuAddress = .ok encoding := by
  obtain ⟨-, -, back⟩ := Encoding.ofLine_decode made
  have decoded := decode_listedBytes_written made target.machine
  have listed := @through_disassembleAt session _ (ready.written address.physical encoding.bytes)
    patient address 1
  rw [listingFrom_one, Simulator.written, decoded] at listed
  refine ⟨_, listed, ?_⟩
  rw [← Address.textColumn_offset address (UInt32.ofNat 0),
    Instruction.drop_lineAt (Instruction.length_operandBytes_le_two _ _)]
  exact back

/-- Assembling in place does everything or nothing. A line that does not assemble sends nothing. Of
one that does, the bytes stand at the address, the rest of the machine is as it was, and the text of
the instruction that is listed there assembles to the same encoding. -/
theorem assembleAt_relists (ready : target.Ready) (patient : 3 ≤ session.config.linkRetryLimit)
    (address : Address) (line : Text) :
    (∀ cause, Encoding.ofLine line address.cpuAddress = .error cause →
      (assembleAt address line).through session target =
          ((.error (.encode cause), session), target) ∧
        (assembleAt address line).transcript session target = []) ∧
    ∀ encoding, Encoding.ofLine line address.cpuAddress = .ok encoding →
      ∃ machine : Machine,
        (assembleAt address line).through session target =
          ((.ok encoding, session), { target with machine }) ∧
        machine.registers = target.machine.registers ∧
        (∀ index (small : index < encoding.bytes.length),
          machine.read (address.physical + UInt32.ofNat index) = encoding.bytes[index]) ∧
        (∀ other : UInt32, (∀ index < encoding.bytes.length,
            Machine.cell other ≠ Machine.cell (address.physical + UInt32.ofNat index)) →
          machine.read other = target.machine.read other) ∧
        ∃ text : Text,
          (disassembleAt (some address) 1).through session { target with machine } =
            ((.ok [text], session), { target with machine }) ∧
          Encoding.ofLine (text.drop address.textColumn) address.cpuAddress = .ok encoding := by
  have reads : 2 ≤ session.link.reads :=
    Nat.le_trans (Nat.le_of_succ_le patient) (Nat.le_max_left _ _)
  refine ⟨?_, ?_⟩
  · intro cause failed
    rw [assembleAt_of_error failed]
    exact ⟨rfl, rfl⟩
  · intro encoding made
    obtain ⟨-, few⟩ := length_encoding made
    refine ⟨target.machine.writeBytes address.physical encoding.bytes,
      through_assembleAt ready made, Machine.writeBytes_registers _ _ _, ?_, ?_,
      through_disassembleAt_written ready reads made⟩
    · intro index small
      rw [Machine.read_writeBytes_add _ _ small (by omega), List.getElem_eq_getD 0]
    · intro other apart
      exact Machine.read_writeBytes_of_apart _ apart

/-- A branch from the top of the view to the bottom of it. Its second byte stands behind the view,
and the listing finds it there. -/
theorem assembleAt_relists_top :
    ∃ (machine : Machine) (text : Text),
      (assembleAt (.cpu 0xFFFF) "bne $0000".toList).through {} ({} : Simulator) =
        ((.ok ⟨[0xD0, 0xFF], 0xD0, .relative⟩, {}), { machine }) ∧
      machine.read 0x0777FFFF = 0xD0 ∧ machine.read 0x07780000 = 0xFF ∧
      machine.read 0x07770000 = 0x00 ∧
      (disassembleAt (some (.cpu 0xFFFF)) 1).through {} ({ machine } : Simulator) =
        ((.ok [text], {}), { machine }) ∧
      Encoding.ofLine (text.drop 17) 0xFFFF = .ok ⟨[0xD0, 0xFF], 0xD0, .relative⟩ := by
  have made : Encoding.ofLine "bne $0000".toList (Address.cpu 0xFFFF).cpuAddress =
      .ok ⟨[0xD0, 0xFF], 0xD0, .relative⟩ :=
    Encoding.ofLine_of_toOption (by decide +kernel)
  obtain ⟨machine, written, -, bytes, rest, text, listed, back⟩ :=
    (@assembleAt_relists {} {} ⟨rfl, rfl⟩ (by decide) (.cpu 0xFFFF) "bne $0000".toList).2 _ made
  have bottom := rest 0x07770000 (by decide +kernel)
  exact ⟨machine, text, written, bytes 0 (by decide), bytes 1 (by decide),
    bottom.trans (by decide +kernel), listed, back⟩

end Action

end RemoteDebugger
