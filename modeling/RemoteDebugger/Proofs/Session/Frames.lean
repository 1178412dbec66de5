import RemoteDebugger.Proofs.Session.Obedience
import RemoteDebugger.Proofs.Transport.Range

/-!
What a debugger learns from a processor that stands still. Questions leave the session and the
machine alone, so what is learned from several of them is the state of one moment: the frames of a
backtrace and the address of the selected one belong together.
-/

set_option autoImplicit false

namespace RemoteDebugger

namespace Action

variable {α β : Type} {session : Session} {machine : Machine}

/-- Over a paused monitor that loses no command the action succeeds with a value. It leaves the
session and the machine as they are. -/
def Learns (action : Action α) (session : Session) (machine : Machine) (value : α) : Prop :=
  ∀ simulator : Simulator, simulator.Ready → simulator.Paused machine →
    ∃ after, action.through session simulator = ((.ok value, session), after) ∧
      after.Ready ∧ after.Paused machine

theorem learns_pure (value : α) : (pure value : Action α).Learns session machine value :=
  fun simulator ready paused => ⟨simulator, rfl, ready, paused⟩

theorem learns_get : (get : Action Session).Learns session machine session :=
  fun simulator ready paused => ⟨simulator, rfl, ready, paused⟩

theorem Learns.bind {action : Action α} {rest : α → Action β} {value : α} {result : β}
    (first : action.Learns session machine value)
    (later : (rest value).Learns session machine result) :
    (action >>= rest).Learns session machine result := by
  intro simulator ready paused
  obtain ⟨middle, led, readyNow, pausedNow⟩ := first simulator ready paused
  obtain ⟨after, ended, readyThen, pausedThen⟩ := later middle readyNow pausedNow
  exact ⟨after, (through_bind_of_ok led).trans ended, readyThen, pausedThen⟩

theorem Learns.map {action : Action α} {value : α} (learns : action.Learns session machine value)
    (answer : α → β) : (answer <$> action).Learns session machine (answer value) := by
  rw [map_eq_pure_bind]
  exact learns.bind (learns_pure (answer value))

theorem learns_onLink {exchange : Link → Exchange α} {value : α}
    (led : ∀ simulator : Simulator, simulator.Ready → simulator.Paused machine →
      (exchange session.link).through simulator = (.ok value, simulator)) :
    (onLink exchange).Learns session machine value :=
  fun simulator ready paused =>
    ⟨simulator, through_onLink_of_ok (led simulator ready paused), ready, paused⟩

theorem Performs.learns {action : Action α} {commands : List Command} {value : α}
    (performs : action.Performs session machine commands value)
    (idle : ∀ command ∈ commands, command.IsIdle) (legible : session.Legible machine) :
    action.Learns session machine value := by
  intro simulator ready paused
  rcases performs simulator paused with ⟨after, led, -, waiting⟩ |
    ⟨failure, done, lost, rest, after, -, -, -, fails, -⟩
  · have working := (failOn_of_led led).trans ready.working
    rw [Machine.obeying_of_idle idle] at waiting
    exact ⟨after, led, ⟨waiting.quiet, working⟩, waiting⟩
  · have readable : session.Legible simulator.machine := paused.holds.symm ▸ legible
    exact absurd fails (Command.not_fails ready.working readable lost)

end Action

theorem Session.legible_of_solid {session : Session} {machine : Machine}
    (marked : machine.registers.flags ≠ []) (solid : Text.Solid machine.registers.flags)
    (patient : 3 ≤ session.config.linkRetryLimit) : session.Legible machine := by
  have words := Text.words_of_solid marked solid
  exact ⟨patient.trans (Nat.le_max_left _ _), words ▸ List.cons_ne_nil _ _⟩

/-! The stack of a machine. -/

namespace Machine

/-- The window above the stack pointer. -/
def stack (machine : Machine) : Window :=
  Simulator.window machine (Address.cpu (machine.registers.sp + 1)).physical

/-- Where the frames are: at the program counter, and at the calls whose return addresses the words
above the stack pointer would be. -/
def frameAddresses (machine : Machine) : List UInt16 :=
  machine.registers.pc :: Action.callAddresses machine.stack.bytes.toList

def frameAt (machine : Machine) (index : Nat) (address : UInt16) : Frame where
  index
  address
  instruction := Instruction.decode
    (Simulator.window machine (Address.cpu address).physical).bytes.toList address

def frames (machine : Machine) : List Frame := machine.frameAddresses.mapIdx machine.frameAt

theorem length_callAddresses (bytes : List UInt8) :
    (Action.callAddresses bytes).length = bytes.length / 2 := by
  induction bytes using Action.callAddresses.induct with
  | case1 low high others ih =>
    rw [Action.callAddresses, List.length_cons, ih, List.length_cons, List.length_cons]
    omega
  | case2 bytes short =>
    match bytes, short with
    | [], _ => rfl
    | [_], _ => exact (Nat.div_eq_of_lt Nat.one_lt_two).symm
    | low :: high :: others, short => exact (short low high others rfl).elim

theorem length_frameAddresses (machine : Machine) :
    machine.frameAddresses.length = FrameCursor.limit + 1 := by
  rw [frameAddresses, List.length_cons, length_callAddresses, Vector.length_toList]
  rfl

theorem map_address_frames (machine : Machine) :
    machine.frames.map Frame.address = machine.frameAddresses := by
  apply List.ext_getElem?
  intro index
  rw [List.getElem?_map, frames, List.getElem?_mapIdx, Option.map_map]
  exact Option.map_id_apply

theorem getElem?_frames (machine : Machine) {index : Nat} (inside : index ≤ FrameCursor.limit) :
    machine.frames[index]? =
      some (machine.frameAt index (machine.frameAddresses.getD index 0)) := by
  have small : index < machine.frameAddresses.length := by
    rw [length_frameAddresses]
    exact Nat.lt_succ_of_le inside
  rw [frames, List.getElem?_mapIdx, List.getElem?_eq_getElem small, Option.map_some,
    List.getElem_eq_getD 0]

end Machine

namespace Action

variable {session : Session} {machine : Machine}

section Paused

variable (legible : session.Legible machine)

include legible

theorem learns_readRegisters :
    (onLink (·.readRegisters)).Learns session machine machine.registers.shown :=
  performs_readRegisters.learns (List.forall_mem_singleton.mpr trivial) legible

theorem learns_readWindow (place : Address) :
    (onLink (·.readWindow place)).Learns session machine
      (Simulator.window machine place.physical) :=
  (performs_readWindow place).learns (List.forall_mem_singleton.mpr trivial) legible

theorem learns_readRange (place : Address) (length : Nat) :
    (onLink (·.readRange place length)).Learns session machine
      ((List.range length).map fun index =>
        machine.read (Simulator.source place length index)) := by
  have patient : 2 ≤ session.link.reads := Nat.le_of_succ_le legible.1
  apply learns_onLink
  intro simulator ready paused
  rw [Simulator.through_readRange ready patient, paused.holds]

theorem learns_frameAddresses :
    frameAddresses.Learns session machine machine.frameAddresses :=
  (learns_readRegisters legible).bind
    ((learns_readWindow legible (.cpu (machine.registers.sp + 1))).bind (learns_pure _))

theorem learns_framesAt (first : Nat) (addresses : List UInt16) :
    (framesAt first addresses).Learns session machine
      (addresses.mapIdx fun index => machine.frameAt (first + index)) := by
  induction addresses generalizing first with
  | nil => exact learns_pure []
  | cons address others ih =>
    have later := ih (first + 1)
    simp only [Nat.add_assoc, Nat.add_comm 1] at later
    rw [List.mapIdx_cons]
    exact (learns_readWindow legible (.cpu address)).bind (later.bind (learns_pure _))

theorem learns_backtrace : backtrace.Learns session machine machine.frames := by
  have frames := learns_framesAt legible 0 machine.frameAddresses
  simp only [Nat.zero_add] at frames
  exact (learns_frameAddresses legible).bind frames

theorem learns_effectiveAddress :
    effectiveAddress.Learns session machine
      (machine.frameAddresses.getD session.frame.index 0) := by
  apply learns_get.bind
  show Learns (if session.frame.index = 0 then _ else _) _ _ _
  split
  · rename_i top
    rw [top]
    exact (learns_readRegisters legible).bind (learns_pure _)
  · exact (learns_frameAddresses legible).bind (learns_pure _)

end Paused

end Action

end RemoteDebugger
