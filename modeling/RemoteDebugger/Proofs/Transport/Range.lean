import RemoteDebugger.Proofs.Machine.Physical
import RemoteDebugger.Proofs.Memory.Address
import RemoteDebugger.Proofs.Transport.Simulator

/-!
Ranges of the simulated monitor's memory. A range is written by pieces of eight bytes and read by
blocks of two hundred and fifty-six and windows of sixteen, each found by moving the address. Below
the top of the address form all of these meet the same bytes, so reading gives what was written.
-/

set_option autoImplicit false

namespace RemoteDebugger

theorem Exchange.through_mapM_of_ok {ι α τ : Type} [Transport τ] {exchange : ι → Exchange α}
    {value : ι → α} {remote : τ} {items : List ι}
    (each : ∀ item ∈ items, (exchange item).through remote = (.ok (value item), remote)) :
    (items.mapM exchange).through remote = (.ok (items.map value), remote) := by
  induction items with
  | nil => rfl
  | cons item items ih =>
    have first := each item List.mem_cons_self
    have others := ih fun other member => each other (List.mem_cons_of_mem item member)
    rw [List.mapM_cons, through_bind_of_ok first, through_bind_of_ok others]
    rfl

theorem flatMap_range_map {α : Type} {size : Nat} (positive : 0 < size) (count : Nat)
    (entry : Nat → Nat → α) :
    ((List.range count).flatMap fun row => (List.range size).map (entry row)) =
      (List.range (size * count)).map fun index => entry (index / size) (index % size) := by
  induction count with
  | zero => rfl
  | succ count ih =>
    have last : ((List.range size).map fun column => size * count + column).map
        (fun index => entry (index / size) (index % size)) = (List.range size).map (entry count) := by
      rw [List.map_map]
      apply List.map_congr_left
      intro column member
      have small : column < size := List.mem_range.mp member
      show entry ((size * count + column) / size) ((size * count + column) % size) = _
      rw [Nat.mul_add_div positive, Nat.mul_add_mod, Nat.div_eq_of_lt small, Nat.mod_eq_of_lt small,
        Nat.add_zero]
    rw [List.range_succ, List.flatMap_append, ih, List.flatMap_singleton, Nat.mul_succ,
      List.range_add, List.map_append, last]

theorem getD_map_range {α : Type} (entry : Nat → α) (default : α) {length index : Nat}
    (small : index < length) : ((List.range length).map entry).getD index default = entry index := by
  rw [← List.getElem_eq_getD default]
  · rw [List.getElem_map, List.getElem_range]
  · rwa [List.length_map, List.length_range]

namespace Machine

/-- The next bytes of memory from an address on, so many of them. -/
def bytesFrom (machine : Machine) (address : Address) (count : Nat) : List UInt8 :=
  (List.range count).map fun distance =>
    machine.read (address.offset (UInt32.ofNat distance)).physical

theorem length_bytesFrom (machine : Machine) (address : Address) (count : Nat) :
    (machine.bytesFrom address count).length = count := by
  rw [bytesFrom, List.length_map, List.length_range]

theorem getD_bytesFrom (machine : Machine) (address : Address) {count index : Nat}
    (small : index < count) : (machine.bytesFrom address count).getD index 0 =
      machine.read (address.offset (UInt32.ofNat index)).physical :=
  getD_map_range _ 0 small

theorem take_bytesFrom (machine : Machine) (address : Address) {few count : Nat}
    (less : few ≤ count) :
    (machine.bytesFrom address count).take few = machine.bytesFrom address few := by
  rw [bytesFrom, ← List.map_take, List.take_range, Nat.min_eq_left less]
  rfl

end Machine

/-- Where the block or window of a range read starts that carries a byte. -/
def blockStart (length index : Nat) : Nat :=
  if index < 256 * (length / 256) then 256 * (index / 256) else 16 * (index / 16)

theorem blockStart_le (length index : Nat) : blockStart length index ≤ index := by
  rw [blockStart]
  split <;> omega

namespace Simulator

variable {simulator : Simulator} {link : Link}

theorem toList_window (machine : Machine) (physical : UInt32) :
    (window machine physical).bytes.toList =
      (List.range 16).map fun index => machine.read (physical + UInt32.ofNat index) := by
  rw [window, Vector.toList_ofFn]
  apply List.ext_getElem
  · rw [List.length_ofFn, List.length_map, List.length_range]
  · intro index _ _
    rw [List.getElem_ofFn, List.getElem_map, List.getElem_range]

theorem firstByte_window (machine : Machine) (physical : UInt32) :
    (window machine physical).firstByte = machine.read physical := by
  have start : physical + UInt32.ofNat 0 = physical := UInt32.add_zero _
  rw [window, Window.firstByte, Vector.getElem_ofFn, start]

theorem flatMap_bulk (machine : Machine) (physical : UInt32) :
    ((bulk machine physical).flatMap fun window => window.bytes.toList) =
      (List.range 256).map fun index => machine.read (physical + UInt32.ofNat index) := by
  have tiled := flatMap_range_map (show 0 < 16 by decide) 16 fun row index =>
    machine.read (physical + UInt32.ofNat (16 * row) + UInt32.ofNat index)
  rw [bulk, List.flatMap_map]
  simp only [toList_window]
  rw [tiled]
  apply List.map_congr_left
  intro index _
  rw [UInt32.add_assoc, ← UInt32.ofNat_add, Nat.div_add_mod]

/-! Writing. -/

/-- The monitor with bytes written from an address on. -/
def written (simulator : Simulator) (physical : UInt32) (bytes : List UInt8) : Simulator :=
  { simulator with machine := simulator.machine.writeBytes physical bytes }

theorem Ready.written (ready : simulator.Ready) (physical : UInt32) (bytes : List UInt8) :
    (simulator.written physical bytes).Ready :=
  ⟨ready.quiet, ready.working⟩

theorem written_take_drop (simulator : Simulator) (physical : UInt32) (size : Nat)
    (bytes : List UInt8) :
    (simulator.written physical (bytes.take size)).written (physical + UInt32.ofNat size)
      (bytes.drop size) = simulator.written physical bytes := by
  rw [Simulator.written, Simulator.written, Simulator.written,
    Machine.writeBytes_take_drop simulator.machine physical size bytes]

theorem through_write (ready : simulator.Ready) (link : Link) (address : Address)
    (bytes : List UInt8) :
    (link.tell (.write address.physical bytes)).through simulator =
      (.ok (), simulator.written address.physical bytes) := by
  have silent : (Command.write address.physical bytes).IsSilent := trivial
  rw [through_tell link silent ready.quiet (ready.takes _), Command.cut, Address.physical_and_mask]
  rfl

theorem through_writePieces (ready : simulator.Ready) (link : Link) {address : Address}
    {left start : Nat} {bytes : List UInt8} (enough : bytes.length ≤ left)
    (fits : ∀ index < bytes.length, address.Fits (start + index + 1)) :
    (link.writePieces address start (piecesWithin Link.writeLimit left bytes)).through simulator =
      (.ok (), simulator.written (address.physical + UInt32.ofNat start) bytes) := by
  induction left generalizing simulator start bytes with
  | zero =>
    rw [List.eq_nil_of_length_eq_zero (Nat.le_zero.mp enough)]
    rfl
  | succ left ih =>
    cases bytes with
    | nil => rfl
    | cons byte others =>
      let piece := (byte :: others).take Link.writeLimit
      let rest := (byte :: others).drop Link.writeLimit
      have limit : Link.writeLimit = 8 := rfl
      have length : rest.length = others.length + 1 - Link.writeLimit := List.length_drop
      rw [List.length_cons] at enough fits
      have told : (link.tell (.write (address.offset (UInt32.ofNat start)).physical piece)).through
          simulator = (.ok (), simulator.written (address.physical + UInt32.ofNat start) piece) := by
        rw [through_write ready, Address.physical_offset (fits 0 (Nat.zero_lt_succ _))]
      -- The rest may be empty and its start past the top, so the bound is one on its bytes.
      have fewer : rest.length ≤ left := by omega
      have below : ∀ index < rest.length,
          address.Fits (start + Link.writeLimit + index + 1) := by
        intro index small
        rw [Nat.add_assoc start]
        exact fits (Link.writeLimit + index) (by omega)
      have later := ih (ready.written (address.physical + UInt32.ofNat start) piece) fewer below
      refine (Exchange.through_bind_of_ok told).trans (later.trans ?_)
      rw [UInt32.ofNat_add, ← UInt32.add_assoc, written_take_drop]

theorem through_writeRange (ready : simulator.Ready) (link : Link) {address : Address}
    {bytes : List UInt8} (fits : address.Fits bytes.length) :
    (link.writeRange address bytes).through simulator =
      (.ok (), simulator.written address.physical bytes) := by
  have start : address.physical + UInt32.ofNat 0 = address.physical := UInt32.add_zero _
  have each : ∀ index < bytes.length, address.Fits (0 + index + 1) := by
    intro index small
    exact fits.mono (by omega)
  have led := through_writePieces ready link (Nat.le_refl bytes.length) each
  rw [start] at led
  exact led

theorem through_writeMemory (ready : simulator.Ready) (link : Link) {address : Address}
    {bytes : List UInt8} (fits : address.Fits bytes.length) :
    (link.writeMemory address bytes).through simulator =
      (.ok (), simulator.written address.physical bytes) := by
  rw [Link.writeMemory]
  split
  · exact through_writeRange ready link fits
  · split
    · rename_i empty
      rw [List.isEmpty_iff.mp empty]
      rfl
    · exact through_write ready link address bytes

/-! Reading. -/

/-- The monitor address that a range read takes a byte from: the monitor counts on from the moved
address of the block or window. -/
def source (address : Address) (length index : Nat) : UInt32 :=
  (address.offset (UInt32.ofNat (blockStart length index))).physical +
    UInt32.ofNat (index - blockStart length index)

theorem through_readBlocks (ready : simulator.Ready) (patient : 2 ≤ link.reads) (address : Address)
    (count : Nat) :
    (link.readBlocks address count).through simulator =
      (.ok ((List.range (256 * count)).map fun index => simulator.machine.read
        ((address.offset (UInt32.ofNat (256 * (index / 256)))).physical +
          UInt32.ofNat (index % 256))), simulator) := by
  have blocks : ((List.range count).mapM fun index =>
      link.readBulk (address.offset (UInt32.ofNat (256 * index)))).through simulator =
      (.ok ((List.range count).map fun index => bulk simulator.machine
        (address.offset (UInt32.ofNat (256 * index))).physical), simulator) :=
    Exchange.through_mapM_of_ok fun index _ =>
      through_readBulk ready.quiet (ready.takes _) patient
  have tiled := flatMap_range_map (show 0 < 256 by decide) count fun block index =>
    simulator.machine.read ((address.offset (UInt32.ofNat (256 * block))).physical +
      UInt32.ofNat index)
  rw [Link.readBlocks, Exchange.through_bind_of_ok blocks, Exchange.through_pure, ← tiled,
    ← List.flatMap_def, List.flatMap_assoc]
  simp only [flatMap_bulk]

theorem through_readWindows (ready : simulator.Ready) (patient : 2 ≤ link.reads)
    (address : Address) (start count : Nat) :
    (link.readWindows address start count).through simulator =
      (.ok ((List.range (16 * count)).map fun index => simulator.machine.read
        ((address.offset (UInt32.ofNat (start + 16 * (index / 16)))).physical +
          UInt32.ofNat (index % 16))), simulator) := by
  have windows : ((List.range count).mapM fun index =>
      link.readWindow (address.offset (UInt32.ofNat (start + 16 * index)))).through simulator =
      (.ok ((List.range count).map fun index => window simulator.machine
        (address.offset (UInt32.ofNat (start + 16 * index))).physical), simulator) := by
    apply Exchange.through_mapM_of_ok
    intro index _
    rw [through_readWindow ready.quiet (ready.takes _), if_pos patient]
  have tiled := flatMap_range_map (show 0 < 16 by decide) count fun row index =>
    simulator.machine.read ((address.offset (UInt32.ofNat (start + 16 * row))).physical +
      UInt32.ofNat index)
  rw [Link.readWindows, Exchange.through_bind_of_ok windows, Exchange.through_pure, ← tiled,
    List.flatMap_map]
  simp only [toList_window]

theorem through_readRange (ready : simulator.Ready) (patient : 2 ≤ link.reads) (address : Address)
    (length : Nat) :
    (link.readRange address length).through simulator =
      (.ok ((List.range length).map fun index =>
        simulator.machine.read (source address length index)), simulator) := by
  rw [Link.readRange, Exchange.through_bind_of_ok (through_readBlocks ready patient address _),
    Exchange.through_bind_of_ok (through_readWindows ready patient address _ _),
    Exchange.through_pure]
  congr 2
  apply List.ext_getElem
  · simp only [List.length_take, List.length_append, List.length_map, List.length_range]
    omega
  · intro index small _
    have inside : index < length := by
      simp only [List.length_take] at small
      omega
    rw [List.getElem_take, List.getElem_append]
    simp only [List.length_map, List.length_range, List.getElem_map, List.getElem_range, source,
      blockStart]
    split
    · rw [Nat.mod_eq_sub]
    · -- The windows start where the last whole block ends, which is a multiple of sixteen.
      have start : 256 * (length / 256) + 16 * ((index - 256 * (length / 256)) / 16) =
          16 * (index / 16) := by omega
      have column : (index - 256 * (length / 256)) % 16 = index - 16 * (index / 16) := by omega
      rw [start, column]

theorem source_of_fits {address : Address} {length index : Nat} (fits : address.Fits (index + 1)) :
    source address length index = address.physical + UInt32.ofNat index := by
  have below : blockStart length index ≤ index := blockStart_le length index
  rw [source, Address.physical_offset (fits.mono (by omega)), UInt32.add_assoc,
    ← UInt32.ofNat_add, Nat.add_sub_cancel' below]

theorem through_readRange_of_fits {address : Address} {length : Nat} (ready : simulator.Ready)
    (patient : 2 ≤ link.reads) (fits : address.Fits length) :
    (link.readRange address length).through simulator =
      (.ok (simulator.machine.bytesFrom address length), simulator) := by
  have sources : ((List.range length).map fun index =>
      simulator.machine.read (source address length index)) =
      simulator.machine.bytesFrom address length := by
    apply List.map_congr_left
    intro index member
    have below : address.Fits (index + 1) := fits.mono (List.mem_range.mp member)
    rw [source_of_fits below, Address.physical_offset below]
  rw [through_readRange ready patient, sources]

end Simulator

open Machine (cell Unaliased)

/-- Bytes that are written below the top of the address form, over no byte twice, are read back
afterwards. Whichever way they are written, nothing else changes: no register, not whether the
processor runs, and no byte that none of the addresses shows. -/
theorem Link.readRange_written {link : Link} {simulator : Simulator} {address : Address}
    {bytes : List UInt8} (ready : simulator.Ready) (patient : 3 ≤ link.retryLimit)
    (fits : address.Fits bytes.length) (unaliased : Unaliased address.physical bytes.length) :
    ∃ machine : Machine,
      (link.writeRange address bytes).through simulator = (.ok (), { simulator with machine }) ∧
      (link.writeMemory address bytes).through simulator = (.ok (), { simulator with machine }) ∧
      (link.readRange address bytes.length).through { simulator with machine } =
        (.ok bytes, { simulator with machine }) ∧
      machine.registers = simulator.machine.registers ∧
      ∀ other : UInt32,
        (∀ index < bytes.length, cell other ≠ cell (address.physical + UInt32.ofNat index)) →
        machine.read other = simulator.machine.read other := by
  have reads : 2 ≤ link.reads :=
    Nat.le_trans (Nat.le_of_succ_le patient) (Nat.le_max_left _ _)
  have read := Simulator.through_readRange (ready.written address.physical bytes) reads address
    bytes.length
  have back : ((List.range bytes.length).map fun index =>
      (simulator.written address.physical bytes).machine.read
        (Simulator.source address bytes.length index)) = bytes := by
    apply List.ext_getElem
    · rw [List.length_map, List.length_range]
    · intro index _ small
      rw [List.getElem_map, List.getElem_range, Simulator.source_of_fits (fits.mono small)]
      exact (Machine.read_writeBytes_of_unaliased _ unaliased small).trans
        (List.getElem_eq_getD 0).symm
  rw [back] at read
  refine ⟨simulator.machine.writeBytes address.physical bytes,
    Simulator.through_writeRange ready link fits, Simulator.through_writeMemory ready link fits,
    read, Machine.writeBytes_registers _ _ _, ?_⟩
  intro other apart
  exact Machine.read_writeBytes_of_apart _ apart

theorem Link.readRange_written_across :
    ∃ machine : Machine,
      (Link.writeRange ⟨3⟩ (.flat 0xFFFA) [1, 2, 3, 4, 5, 6, 7, 8, 9]).through ({} : Simulator) =
        (.ok (), { machine }) ∧
      (Link.readRange ⟨3⟩ (.flat 0xFFFA) 9).through ({ machine } : Simulator) =
        (.ok [1, 2, 3, 4, 5, 6, 7, 8, 9], { machine }) ∧
      machine.read (Address.cpu 0xFFF9).physical = 0 := by
  let bytes : List UInt8 := [1, 2, 3, 4, 5, 6, 7, 8, 9]
  have fits : (Address.flat 0xFFFA).Fits bytes.length := by decide +kernel
  have unaliased : Unaliased (Address.flat 0xFFFA).physical bytes.length :=
    Machine.unaliased_of_le _ (by decide)
  obtain ⟨machine, written, -, read, -, kept⟩ :=
    @readRange_written ⟨3⟩ {} (.flat 0xFFFA) bytes ⟨rfl, rfl⟩ (Nat.le_refl 3) fits unaliased
  have apart := kept (Address.cpu 0xFFF9).physical (by decide +kernel)
  exact ⟨machine, written, read, apart.trans (by decide +kernel)⟩

end RemoteDebugger
