import RemoteDebugger.Proofs.Instruction.Disassembly
import RemoteDebugger.Proofs.Session.Frames
import RemoteDebugger.Proofs.Session.Preservation

/-!
Listings of the target. A listing decodes bytes that were read before its first line, and moves an
address along with its place among them. No instruction has more than three bytes, so the bytes do
not run out, and each line shows what memory holds at its address.
-/

set_option autoImplicit false

namespace RemoteDebugger

/-- The line of a listing for an instruction at an address of either form. -/
def Instruction.lineAt (instruction : Instruction) : Address → Text
  | .cpu address => instruction.listingLine address.toUInt32 false
  | .flat address => instruction.listingLine (address &&& Address.mask) true

theorem Instruction.listingLine_eq_lineAt (instruction : Instruction) (here : Address) :
    instruction.listingLine (if here.isFlat then here.physical else here.cpuAddress.toUInt32)
      here.isFlat = instruction.lineAt here := by
  cases here <;> rfl

/-- The address behind the first so many of some instructions that start at an address. -/
def Address.behind (start : Address) (instructions : List Instruction) (count : Nat) : Address :=
  start.offset (UInt32.ofNat (Instruction.extent instructions count))

/-- The listing of instructions that are one behind another from an address on. -/
def Instruction.listing (instructions : List Instruction) (start : Address) : List Text :=
  instructions.mapIdx fun index instruction => instruction.lineAt (start.behind instructions index)

namespace Machine

variable {machine : Machine}

/-- The instruction that memory holds at an address. -/
def instructionFrom (machine : Machine) (address : Address) : Instruction :=
  Instruction.decode (machine.bytesFrom address 3) address.cpuAddress

theorem instructionFrom_cpu (machine : Machine) (address : UInt16) :
    machine.instructionFrom (.cpu address) = machine.instructionAt address := by
  have read : ∀ distance : UInt32, machine.read ((Address.cpu address).offset distance).physical =
      machine.byteAt (address + distance.toUInt16) := fun distance => read_cpu machine _
  have first : address + (UInt32.ofNat 0).toUInt16 = address := UInt16.add_zero address
  show Instruction.decode [machine.read _, machine.read _, machine.read _] address = _
  rw [read, read, read, first]
  rfl

theorem stored_instructionFrom (machine : Machine) (address : Address) :
    (machine.instructionFrom address).stored =
      machine.bytesFrom address (machine.instructionFrom address).size := by
  have short : (machine.instructionFrom address).size ≤ 3 := Mode.size_le_three _
  have whole : (machine.instructionFrom address).size ≤ (machine.bytesFrom address 3).length :=
    (machine.length_bytesFrom address 3).symm ▸ short
  exact (Instruction.stored_decode_of_le whole).trans (machine.take_bytesFrom address short)

/-- Memory holds the instructions, each behind those before it, from an address on. -/
def Holds (machine : Machine) (start : Address) (instructions : List Instruction) : Prop :=
  ∀ index instruction, instructions[index]? = some instruction →
    instruction = machine.instructionFrom (start.behind instructions index)

end Machine

namespace Action

open Instruction (decode extent listing)

variable {machine : Machine} {start : Address} {bytes : List UInt8}

private theorem decode_drop {distance : Nat}
    (shown : ∀ index < 3, bytes.getD (distance + index) 0 =
      machine.read (start.offset (UInt32.ofNat (distance + index))).physical) :
    decode (bytes.drop distance) (start.offset (UInt32.ofNat distance)).cpuAddress =
      machine.instructionFrom (start.offset (UInt32.ofNat distance)) := by
  apply Instruction.decode_congr
  intro index small
  have short : index < 3 := Nat.lt_of_lt_of_le small (Mode.size_le_three _)
  rw [machine.getD_bytesFrom _ short, Address.offset_offset, ← shown index short,
    List.getD_eq_getElem?_getD, List.getElem?_drop, ← List.getD_eq_getElem?_getD]

private theorem listingFrom_shows {left distance : Nat}
    (shown : ∀ index < distance + 3 * left, bytes.getD index 0 =
      machine.read (start.offset (UInt32.ofNat index)).physical) :
    ∃ instructions : List Instruction, instructions.length = left ∧
      (∀ index instruction, instructions[index]? = some instruction → instruction =
        machine.instructionFrom
          (start.offset (UInt32.ofNat (distance + extent instructions index)))) ∧
      listingFrom start bytes left distance = instructions.mapIdx fun index instruction =>
        instruction.lineAt (start.offset (UInt32.ofNat (distance + extent instructions index))) := by
  induction left generalizing distance with
  | zero => exact ⟨[], rfl, fun _ _ found => absurd found (by simp), rfl⟩
  | succ left ih =>
    let first := machine.instructionFrom (start.offset (UInt32.ofNat distance))
    have short : first.size ≤ 3 := Mode.size_le_three _
    have decoded : decode (bytes.drop distance) (start.offset (UInt32.ofNat distance)).cpuAddress =
        first := decode_drop fun index small => shown _ (by omega)
    obtain ⟨others, length, held, listed⟩ := @ih (distance + first.size) fun index small =>
      shown index (by omega)
    refine ⟨first :: others, congrArg (· + 1) length, ?_, ?_⟩
    · intro index instruction found
      cases index with
      | zero => exact (Option.some.inj found).symm
      | succ index =>
        rw [Instruction.extent_cons_succ, ← Nat.add_assoc]
        exact held index instruction found
    · rw [listingFrom]
      simp only [decoded, Instruction.listingLine_eq_lineAt, List.mapIdx_cons,
        Instruction.extent_zero, Instruction.extent_cons_succ, ← Nat.add_assoc, Nat.add_zero]
      rw [listed]

section Listings

variable {session : Session} {target : Simulator} {address : Address} {count : Nat}

/-- The bytes that a listing from an address decodes. -/
def listedBytes (machine : Machine) (address : Address) (count : Nat) : List UInt8 :=
  (List.range (count * 3)).map fun index =>
    machine.read (Simulator.source address (count * 3) index)

theorem through_disassembleAt (ready : target.Ready) (patient : 2 ≤ session.link.reads)
    (address : Address) (count : Nat) :
    (disassembleAt (some address) count).through session target =
      ((.ok (listingFrom address (listedBytes target.machine address count) count 0), session),
        target) := by
  have read := Simulator.through_readRange ready patient address (count * 3)
  rw [disassembleAt_eq, Option.elim_some, pure_bind,
    through_bind_of_ok (through_onLink_of_ok read)]
  rfl

theorem learns_disassembleAt_none (legible : session.Legible machine) (count : Nat) :
    (disassembleAt none count).Learns session machine
      (listingFrom (.cpu (machine.frameAddresses.getD session.frame.index 0))
        (listedBytes machine (.cpu (machine.frameAddresses.getD session.frame.index 0)) count)
        count 0) := by
  rw [disassembleAt_eq, Option.elim_none]
  exact ((learns_effectiveAddress legible).map Address.cpu).bind
    ((learns_readRange legible _ _).bind (learns_pure _))

theorem listing_of_fits (fits : address.Fits (3 * count)) :
    ∃ instructions : List Instruction, instructions.length = count ∧
      machine.Holds address instructions ∧
      listingFrom address (listedBytes machine address count) count 0 =
        listing instructions address := by
  have shown : ∀ index < 0 + 3 * count, (listedBytes machine address count).getD index 0 =
      machine.read (address.offset (UInt32.ofNat index)).physical := by
    intro index small
    have below : address.Fits (index + 1) := fits.mono (by omega)
    rw [listedBytes, getD_map_range _ _ (by omega), Simulator.source_of_fits below,
      Address.physical_offset below]
  obtain ⟨instructions, length, held, listed⟩ := listingFrom_shows shown
  simp only [Nat.zero_add] at held listed
  exact ⟨instructions, length, held, listed⟩

end Listings

/-- A listing of a stopped target has as many lines as were asked for, as long as three bytes for
each do not run past the top of the address form. Every line shows the instruction that memory holds
behind the instructions of the lines before it, with no byte but those of memory. Without an address
it is the listing from the frame of the backtrace that is selected. -/
theorem disassembleAt_shows {session : Session} {target : Simulator} (ready : target.Ready)
    (stopped : target.running = false) (marked : target.machine.registers.flags ≠ [])
    (solid : Text.Solid target.machine.registers.flags)
    (patient : 3 ≤ session.config.linkRetryLimit) :
    (∀ address count, address.Fits (3 * count) →
      ∃ instructions : List Instruction, instructions.length = count ∧
        target.machine.Holds address instructions ∧
        (∀ index instruction, instructions[index]? = some instruction →
          instruction.stored =
            target.machine.bytesFrom (address.behind instructions index) instruction.size) ∧
        (disassembleAt (some address) count).through session target =
          ((.ok (listing instructions address), session), target)) ∧
    (session.frame.index ≤ FrameCursor.limit → ∀ count, ∃ frames frame lines looked listed,
      backtrace.through session target = ((.ok frames, session), looked) ∧
      frames[session.frame.index]? = some frame ∧
      (disassembleAt none count).through session target = ((.ok lines, session), listed) ∧
      listed.machine = target.machine ∧
      (disassembleAt (some (.cpu frame.address)) count).through session target =
        ((.ok lines, session), target)) := by
  have legible : session.Legible target.machine := Session.legible_of_solid marked solid patient
  have reads : 2 ≤ session.link.reads := Nat.le_of_succ_le legible.1
  have paused : target.Paused target.machine := ⟨ready.quiet, stopped, rfl⟩
  refine ⟨?_, ?_⟩
  · intro address count fits
    obtain ⟨instructions, length, holds, listed⟩ := @listing_of_fits target.machine address count fits
    refine ⟨instructions, length, holds, ?_, ?_⟩
    · intro index instruction found
      rw [holds index instruction found]
      exact target.machine.stored_instructionFrom _
    · rw [through_disassembleAt ready reads, listed]
  · intro inside count
    obtain ⟨looked, traced, -⟩ := learns_backtrace legible target ready paused
    obtain ⟨listed, shown, -, still⟩ := learns_disassembleAt_none legible count target ready paused
    exact ⟨_, _, _, looked, listed, traced, target.machine.getElem?_frames inside, shown,
      still.holds, through_disassembleAt ready reads _ _⟩

/-- A call that has just been executed. -/
def afterCall : Simulator :=
  { Simulator.calling with machine := Simulator.calling.machine.execute }

theorem disassembleAt_shows_caller :
    ∃ frames frame looked listed,
      backtrace.through { frame := ⟨1⟩ } afterCall = ((.ok frames, { frame := ⟨1⟩ }), looked) ∧
      frames[1]? = some frame ∧ frame.address = 0x2000 ∧
      (disassembleAt none 2).through { frame := ⟨1⟩ } afterCall =
        ((.ok ["$2000  20 04 20  JSR $2004".toList, "$2003  60        RTS".toList],
          { frame := ⟨1⟩ }), listed) := by
  obtain ⟨given, selected⟩ := @disassembleAt_shows { frame := ⟨1⟩ } afterCall ⟨rfl, rfl⟩ rfl
    (by decide +kernel) (by decide +kernel) (by decide)
  obtain ⟨frames, frame, lines, looked, listed, traced, found, unplaced, -, placed⟩ :=
    selected (by decide) 2
  have legible : Session.Legible { frame := ⟨1⟩ } afterCall.machine :=
    ⟨by decide, by decide +kernel⟩
  have here : frame.address = 0x2000 := by
    obtain ⟨_, again, -⟩ := learns_backtrace legible afterCall ⟨rfl, rfl⟩ ⟨rfl, rfl, rfl⟩
    rw [traced] at again
    cases again
    rw [Machine.getElem?_frames _ (by decide), Option.some.injEq] at found
    rw [← found]
    decide +kernel
  obtain ⟨instructions, length, holds, -, shown⟩ := given (.cpu 0x2000) 2 (by decide)
  obtain ⟨call, next, rfl⟩ := List.length_eq_two.mp length
  have first : call = afterCall.machine.instructionFrom (.cpu 0x2000) := holds 0 call rfl
  have second : next = afterCall.machine.instructionFrom (.cpu 0x2003) := by
    have behind : (Address.cpu 0x2000).behind [call, next] 1 = .cpu 0x2003 := by
      rw [Address.behind, Instruction.extent_cons_succ, Instruction.extent_zero, first]
      decide +kernel
    exact behind ▸ holds 1 next rfl
  rw [here, shown, first, second] at placed
  have text : lines = ["$2000  20 04 20  JSR $2004".toList, "$2003  60        RTS".toList] := by
    rw [← Except.ok.inj (congrArg (·.1.1) placed)]
    decide +kernel
  exact ⟨frames, frame, looked, listed, traced, found, here, text ▸ unplaced⟩

end Action

end RemoteDebugger
