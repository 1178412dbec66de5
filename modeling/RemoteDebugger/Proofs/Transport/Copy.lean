import RemoteDebugger.Proofs.Transport.Range

/-!
Copying on the simulated monitor. The whole source is read before the first byte is written, so a
copy moves what the source held before, however the two ranges overlap and in whichever forms their
addresses are. A copy that succeeds has met no failure of the device and never used up the patience
of the link, so it is the copy over a device that does not fail.
-/

set_option autoImplicit false

namespace RemoteDebugger

variable {α β ι : Type}

/-- The monitor behind a device that fails at no line. -/
def Simulator.mended (simulator : Simulator) : Simulator := { simulator with failOn := none }

theorem Simulator.ready_mended {simulator : Simulator} (quiet : simulator.pending = []) :
    simulator.mended.Ready :=
  ⟨quiet, rfl⟩

namespace Exchange

/-- Whatever the exchange succeeds with, the other one comes to with the mended device. No reply is
left behind. -/
def Confirms (other exchange : Exchange α) : Prop :=
  ∀ (simulator after : Simulator) (value : α), simulator.pending = [] →
    exchange.through simulator = (.ok value, after) →
      after.pending = [] ∧ other.through simulator.mended = (.ok value, after.mended)

theorem confirms_pure (value : α) : (pure value : Exchange α).Confirms (pure value) := by
  intro simulator after result quiet led
  cases led
  exact ⟨quiet, rfl⟩

theorem Confirms.bind {other exchange : Exchange α} {further rest : α → Exchange β}
    (first : other.Confirms exchange) (later : ∀ value, (further value).Confirms (rest value)) :
    (other >>= further).Confirms (exchange >>= rest) := by
  intro simulator after result quiet led
  rw [through_bind] at led
  rcases begun : exchange.through simulator with ⟨_ | value, middle⟩
  · rw [begun] at led
    simp at led
  · rw [begun] at led
    obtain ⟨drained, begunLikewise⟩ := first simulator middle value quiet begun
    obtain ⟨emptied, endedLikewise⟩ := later value middle after result drained led
    refine ⟨emptied, ?_⟩
    rw [through_bind_of_ok begunLikewise]
    exact endedLikewise

theorem Confirms.mapM {other exchange : ι → Exchange α} (items : List ι)
    (each : ∀ item, (other item).Confirms (exchange item)) :
    (items.mapM other).Confirms (items.mapM exchange) := by
  induction items with
  | nil =>
    rw [List.mapM_nil, List.mapM_nil]
    exact confirms_pure []
  | cons item items ih =>
    rw [List.mapM_cons, List.mapM_cons]
    apply (each item).bind
    intro value
    apply ih.bind
    intro values
    exact confirms_pure (value :: values)

end Exchange

namespace Link

open Exchange (Confirms confirms_pure)

variable {link patient : Link}

section Patience

variable (enough : 2 ≤ patient.reads)

include enough

theorem readWindow_confirms (address : Address) :
    (patient.readWindow address).Confirms (link.readWindow address) := by
  intro simulator after window quiet led
  obtain ⟨rfl, rfl⟩ := Simulator.readWindow_eq_ok quiet led
  have ready := Simulator.ready_mended quiet
  refine ⟨quiet, ?_⟩
  rw [Simulator.through_readWindow ready.quiet (ready.takes _), if_pos enough]
  rfl

theorem readBulk_confirms (address : Address) :
    (patient.readBulk address).Confirms (link.readBulk address) := by
  intro simulator after windows quiet led
  obtain ⟨rfl, rfl⟩ := Simulator.readBulk_eq_ok quiet led
  have ready := Simulator.ready_mended quiet
  refine ⟨quiet, ?_⟩
  rw [Simulator.through_readBulk ready.quiet (ready.takes _) enough]
  rfl

theorem readRange_confirms (address : Address) (length : Nat) :
    (patient.readRange address length).Confirms (link.readRange address length) := by
  have blocks : ∀ count,
      (patient.readBlocks address count).Confirms (link.readBlocks address count) := by
    intro count
    apply (Confirms.mapM (List.range count) fun index => readBulk_confirms enough _).bind
    intro read
    exact confirms_pure _
  have windows : ∀ start count,
      (patient.readWindows address start count).Confirms
        (link.readWindows address start count) := by
    intro start count
    apply (Confirms.mapM (List.range count) fun index => readWindow_confirms enough _).bind
    intro read
    exact confirms_pure _
  apply (blocks _).bind
  intro whole
  apply (windows _ _).bind
  intro tail
  exact confirms_pure _

end Patience

theorem tell_confirms {command : Command} (silent : command.IsSilent) :
    (patient.tell command).Confirms (link.tell command) := by
  intro simulator after value quiet led
  have ready := Simulator.ready_mended quiet
  have repaired : simulator.mended.handle command.cut = (simulator.handle command.cut).mended := by
    cases command <;> first | exact silent.elim | rfl
  have drained : (simulator.handle command.cut).pending = [] := by
    cases command <;> first | exact silent.elim | exact quiet
  rcases Simulator.through_tell_eq_or link silent quiet with ⟨-, lost⟩ | ⟨-, obeyed⟩
  · rw [lost] at led
    simp at led
  · rw [obeyed] at led
    cases led
    refine ⟨drained, ?_⟩
    rw [Simulator.through_tell patient silent ready.quiet (ready.takes _), repaired]

theorem writePieces_confirms (address : Address) (start : Nat) (pieces : List (List UInt8)) :
    (patient.writePieces address start pieces).Confirms
      (link.writePieces address start pieces) := by
  induction pieces generalizing start with
  | nil => exact confirms_pure ()
  | cons piece others ih =>
    have written : (patient.tell (.write (address.offset (UInt32.ofNat start)).physical
        piece)).Confirms (link.tell (.write (address.offset (UInt32.ofNat start)).physical piece)) :=
      tell_confirms trivial
    exact written.bind fun _ => ih (start + writeLimit)

theorem copy_confirms (enough : 2 ≤ patient.reads) (source destination : Address) (count : Nat) :
    (patient.copy source destination count).Confirms (link.copy source destination count) := by
  apply (readRange_confirms enough source count).bind
  intro bytes
  exact writePieces_confirms destination 0 (pieces writeLimit bytes)

end Link

theorem Simulator.through_copy {simulator : Simulator} {link : Link} {source destination : Address}
    {count : Nat} (ready : simulator.Ready) (patient : 2 ≤ link.reads) (below : source.Fits count)
    (room : destination.Fits count) :
    (link.copy source destination count).through simulator =
      (.ok (), simulator.written destination.physical (simulator.machine.bytesFrom source count)) := by
  have fits : destination.Fits (simulator.machine.bytesFrom source count).length := by
    rwa [Machine.length_bytesFrom]
  rw [Link.copy, Exchange.through_bind_of_ok (through_readRange_of_fits ready patient below)]
  exact through_writeRange ready link fits

open Machine (cell Unaliased)

/-- A copy that succeeds has moved the bytes of the source, as they were before, to the destination,
and has changed no other byte and no register. Overlaps do not matter, nor do the forms of the
addresses, as long as both ranges end below the top of their form and no byte is written twice. A
link that reads past an echo succeeds over a device that does not fail. -/
theorem Link.copy_moves {link : Link} {simulator : Simulator} {source destination : Address}
    {count : Nat} (quiet : simulator.pending = []) (below : source.Fits count)
    (room : destination.Fits count) (unaliased : Unaliased destination.physical count) :
    (∀ after, (link.copy source destination count).through simulator = (.ok (), after) →
      ∃ machine : Machine, after = { simulator with machine } ∧
        machine.registers = simulator.machine.registers ∧
        (∀ index < count, machine.read (destination.offset (UInt32.ofNat index)).physical =
          simulator.machine.read (source.offset (UInt32.ofNat index)).physical) ∧
        ∀ other : UInt32,
          (∀ index < count,
            cell other ≠ cell (destination.offset (UInt32.ofNat index)).physical) →
          machine.read other = simulator.machine.read other) ∧
    (simulator.failOn = none → 2 ≤ link.retryLimit →
      ∃ after, (link.copy source destination count).through simulator = (.ok (), after)) := by
  refine ⟨?_, ?_⟩
  · intro after led
    let bytes := simulator.machine.bytesFrom source count
    have length : bytes.length = count := Machine.length_bytesFrom _ _ _
    have enough : 2 ≤ (⟨2⟩ : Link).reads := Nat.le_refl 2
    obtain ⟨-, likewise⟩ := copy_confirms enough source destination count simulator after () quiet led
    rw [Simulator.through_copy (Simulator.ready_mended quiet) enough below room] at likewise
    have written : after.mended = simulator.mended.written destination.physical bytes :=
      (Prod.mk.inj likewise).2.symm
    have device : after.failOn = simulator.failOn := by
      have kept := Simulator.through_failOn (link.copy source destination count).run simulator
      rwa [show Dialogue.through _ _ = _ from led] at kept
    refine ⟨simulator.machine.writeBytes destination.physical bytes, ?_,
      Machine.writeBytes_registers _ _ _, ?_, ?_⟩
    · calc after = { after.mended with failOn := after.failOn } := rfl
        _ = { simulator with machine := simulator.machine.writeBytes destination.physical bytes } := by
          rw [written, device]
          rfl
    · intro index small
      rw [Address.physical_offset (room.mono small), Machine.read_writeBytes_of_unaliased _
        (length.symm ▸ unaliased) (length.symm ▸ small)]
      exact Machine.getD_bytesFrom _ _ small
    · intro other apart
      apply Machine.read_writeBytes_of_apart
      intro index small
      have inside : index < count := length ▸ small
      rw [← Address.physical_offset (room.mono inside)]
      exact apart index inside
  · intro working patient
    have reads : 2 ≤ link.reads := Nat.le_trans patient (Nat.le_max_left _ _)
    exact ⟨_, Simulator.through_copy ⟨quiet, working⟩ reads below room⟩

/-- A monitor with the numbers from one on in the view. -/
def Simulator.numbered : Simulator where
  machine := ({ registers := {} } : Machine).writeBytes (Address.cpu 0x2000).physical
    ((List.range 22).map fun index => UInt8.ofNat (index + 1))

theorem Link.copy_moves_overlapping :
    ∃ after,
      (Link.copy ⟨3⟩ (.cpu 0x2000) (.flat 0x07772002) 20).through Simulator.numbered =
        (.ok (), after) ∧
      (∀ index < 20, after.machine.read
        ((Address.flat 0x07772002).offset (UInt32.ofNat index)).physical = UInt8.ofNat (index + 1)) ∧
      after.machine.read (Address.cpu 0x2001).physical = 2 := by
  have below : (Address.cpu 0x2000).Fits 20 := by decide
  have room : (Address.flat 0x07772002).Fits 20 := by decide
  have unaliased : Unaliased (Address.flat 0x07772002).physical 20 :=
    Machine.unaliased_of_le _ (by decide)
  obtain ⟨moves, succeeds⟩ := @copy_moves ⟨3⟩ Simulator.numbered _ _ 20 rfl below room unaliased
  obtain ⟨after, led⟩ := succeeds rfl (by decide)
  obtain ⟨machine, rfl, -, moved, kept⟩ := moves after led
  have numbers : ∀ index < 20, Simulator.numbered.machine.read
      ((Address.cpu 0x2000).offset (UInt32.ofNat index)).physical = UInt8.ofNat (index + 1) := by
    decide +kernel
  have apart := kept (Address.cpu 0x2001).physical (by decide +kernel)
  exact ⟨_, led, fun index small => (moved index small).trans (numbers index small),
    apart.trans (by decide +kernel)⟩

end RemoteDebugger
