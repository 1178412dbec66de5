import RemoteDebugger.Proofs.Machine.Stack
import RemoteDebugger.Proofs.Session.Frames

/-!
Backtraces of real call chains. A backtrace takes the words above the stack pointer for return
addresses. Where the run has left nothing on the stack but the return addresses of the calls that have
not returned, this is no guess: each frame is at the call that pushed its word.
-/

set_option autoImplicit false

namespace RemoteDebugger

namespace Pushed

/-- What the calls that have not returned leave on the stack, the innermost one first. -/
def returns (calls : List UInt16) : List Pushed :=
  calls.flatMap fun call => [.low call, .high call]

theorem take_returns (calls : List UInt16) (count : Nat) :
    (returns calls).take (2 * count) = returns (calls.take count) := by
  induction count generalizing calls with
  | zero => rfl
  | succ count ih =>
    cases calls with
    | nil => rfl
    | cons call calls =>
      show (low call :: high call :: returns calls).take (2 * count + 1 + 1) = _
      rw [List.take_succ_cons, List.take_succ_cons, ih]
      rfl

theorem Top.prefix_callAddresses {calls : List UInt16} {bytes : List UInt8}
    (top : Top (returns calls) bytes) : calls <+: Action.callAddresses bytes := by
  induction calls generalizing bytes with
  | nil => exact List.nil_prefix
  | cons call calls ih =>
    match bytes, top with
    | first :: second :: rest, top =>
      obtain ⟨lowHalf, highHalf, others⟩ := top
      have site : wordOf first second - Action.returnBias = call := by
        rw [show first = lowByte (call + 2) from lowHalf,
          show second = highByte (call + 2) from highHalf, wordOf_lowByte_highByte]
        exact UInt16.add_sub_cancel call 2
      rw [Action.callAddresses, site, List.cons_prefix_cons]
      exact ⟨rfl, ih others⟩

end Pushed

namespace Machine

variable {machine : Machine} {calls : List UInt16}

theorem toList_stack (inside : machine.HasRoom 0 0) :
    machine.stack.bytes.toList = (List.range 16).map fun index =>
      machine.byteAt (UInt16.ofNat (machine.registers.sp.toNat + 1 + index)) := by
  obtain ⟨-, inPage⟩ := inside
  have next : (machine.registers.sp + 1).toNat = machine.registers.sp.toNat + 1 := by
    rw [UInt16.toNat_add]
    exact Nat.mod_eq_of_lt (show machine.registers.sp.toNat + 1 < 0x10000 by omega)
  rw [stack, Simulator.toList_window]
  apply List.map_congr_left
  intro index member
  have small : index < 16 := List.mem_range.mp member
  have place : machine.registers.sp + 1 + UInt16.ofNat index =
      UInt16.ofNat (machine.registers.sp.toNat + 1 + index) := by
    rw [UInt16.ofNat_add, ← next, UInt16.ofNat_toNat]
  rw [physical_cpu_add (by omega), read_cpu, place]

theorem prefix_stack (inside : machine.HasRoom 0 0) :
    machine.stackBytes.take 16 <+: machine.stack.bytes.toList := by
  have front : machine.stackBytes.take 16 =
      machine.stack.bytes.toList.take (0x1FF - machine.registers.sp.toNat) := by
    rw [toList_stack inside, stackBytes, List.range'_eq_map_range, List.map_map, ← List.map_take,
      ← List.map_take, List.take_range, List.take_range, Nat.min_comm]
    rfl
  rw [front]
  exact List.take_prefix _ _

theorem prefix_frameAddresses (history : machine.History (Pushed.returns calls)) :
    calls.take FrameCursor.limit <+: machine.frameAddresses.tail := by
  obtain ⟨inside, top⟩ := history.top
  obtain ⟨deeper, whole⟩ := prefix_stack inside
  have front : Pushed.Top (Pushed.returns (calls.take FrameCursor.limit))
      (machine.stackBytes.take 16) := by
    rw [← Pushed.take_returns]
    exact top.take (2 * FrameCursor.limit)
  have window := front.append deeper
  rw [whole] at window
  rw [frameAddresses, List.tail_cons]
  exact window.prefix_callAddresses

end Machine

namespace Action

open Pushed (returns)

/-- If a target has stopped after a run that has left nothing on the stack but the return addresses of
the calls that have not returned, the backtrace has nine frames: that of the program counter, and
those of the innermost calls, as many as there are, up to eight. Wherever the cursor is, the selected
frame is where the backtrace has it. -/
theorem backtrace_recovers {session : Session} {target : Simulator} {calls : List UInt16}
    (ready : target.Ready) (stopped : target.running = false)
    (legible : session.Legible target.machine) (history : target.machine.History (returns calls)) :
    ∃ frames after, backtrace.through session target = ((.ok frames, session), after) ∧
      after.machine = target.machine ∧ frames.length = 9 ∧
      (∀ index (frame : Frame), frames[index]? = some frame → frame.index = index) ∧
      (frames.map Frame.address)[0]? = some target.machine.registers.pc ∧
      (∀ index < min calls.length 8, (frames.map Frame.address)[index + 1]? = calls[index]?) ∧
      ∀ cursor ≤ 8, ∃ frame after, frames[cursor]? = some frame ∧
        effectiveAddress.through { session with frame := ⟨cursor⟩ } target =
          ((.ok frame.address, { session with frame := ⟨cursor⟩ }), after) := by
  have paused : target.Paused target.machine := ⟨ready.quiet, stopped, rfl⟩
  obtain ⟨after, traced, -, still⟩ := learns_backtrace legible target ready paused
  refine ⟨target.machine.frames, after, traced, still.holds, ?_, ?_, ?_, ?_, ?_⟩
  · rw [Machine.frames, List.length_mapIdx]
    exact target.machine.length_frameAddresses
  · intro index frame found
    rw [Machine.frames, List.getElem?_mapIdx] at found
    obtain ⟨address, -, rfl⟩ := Option.map_eq_some_iff.mp found
    rfl
  · rw [Machine.map_address_frames]
    rfl
  · intro index small
    rw [Machine.map_address_frames]
    obtain ⟨guessed, whole⟩ := Machine.prefix_frameAddresses history
    have inside : index < (calls.take FrameCursor.limit).length := by
      rw [List.length_take, Nat.min_comm]
      exact small
    have limit : index < FrameCursor.limit := Nat.lt_of_lt_of_le small (Nat.min_le_right _ _)
    rw [← List.getElem?_tail, ← whole, List.getElem?_append_left inside,
      List.getElem?_take_of_lt limit]
  · intro cursor inside
    have selected : Session.Legible { session with frame := ⟨cursor⟩ } target.machine := legible
    obtain ⟨looked, learned, -⟩ := learns_effectiveAddress selected target ready paused
    exact ⟨_, looked, target.machine.getElem?_frames inside, learned⟩

/-- A subroutine that saves and restores the accumulator and calls another one. -/
def nestedCalls : Simulator :=
  .loaded 0x01FF [0x20, 0x04, 0x20, 0x60, 0x48, 0x68, 0x63, 0x00, 0x00, 0xEA]

/-- Four instructions after its start, in the inner subroutine. -/
def nestedCallsInside : Simulator :=
  { nestedCalls with machine := Machine.execute^[4] nestedCalls.machine }

theorem backtrace_recovers_nested :
    ∃ frames after, backtrace.through {} nestedCallsInside = ((.ok frames, {}), after) ∧
      (frames.map Frame.address)[0]? = some 0x2009 ∧
      (frames.map Frame.address)[1]? = some 0x2006 ∧
      (frames.map Frame.address)[2]? = some 0x2000 := by
  have started : nestedCalls.machine.History [] := .started (by decide +kernel)
  have left : Machine.pushedBy 4 nestedCalls.machine [] = returns [0x2006, 0x2000] := by
    decide +kernel
  have history : nestedCallsInside.machine.History (returns [0x2006, 0x2000]) :=
    left ▸ started.iterate (by decide +kernel)
  have legible : Session.Legible {} nestedCallsInside.machine := ⟨by decide, by decide +kernel⟩
  have here : nestedCallsInside.machine.registers.pc = 0x2009 := by decide +kernel
  obtain ⟨frames, after, traced, -, -, -, first, others, -⟩ :=
    backtrace_recovers ⟨rfl, rfl⟩ rfl legible history
  rw [here] at first
  exact ⟨frames, after, traced, first, others 0 (by decide), others 1 (by decide)⟩

end Action

end RemoteDebugger
