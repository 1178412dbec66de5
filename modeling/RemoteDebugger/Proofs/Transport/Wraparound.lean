import RemoteDebugger.Proofs.Transport.Range

/-!
Range reads past the top of an address form. A moved address wraps there, but within a block or a
window the monitor counts on, past the top of the view or of all its addresses. So a range that
wraps is read as its addresses say if and only if no block of the read has the top inside it, which
depends on where the blocks happen to start; and then reads can be put together from shorter ones.
-/

set_option autoImplicit false

namespace RemoteDebugger

theorem Address.cell_add_ne_offset {address : Address} {distance : Nat} (near : distance < 0x100)
    (beyond : ¬ address.Fits (distance + 1)) :
    Machine.cell (address.physical + UInt32.ofNat distance) ≠
      Machine.cell (address.offset (UInt32.ofNat distance)).physical := by
  obtain ⟨bottom, top⟩ := address.base_add_span_bounds
  have inside := address.place_lt_span
  have past : address.span < address.place + (distance + 1) := Nat.lt_of_not_le beyond
  have counted : (address.physical + UInt32.ofNat distance).toNat =
      address.base + address.place + distance := by
    rw [UInt32.toNat_add, UInt32.toNat_ofNat', toNat_physical]
    omega
  have moved : (address.offset (UInt32.ofNat distance)).physical.toNat <
      address.base + address.span := by
    have wrapped := (address.offset (UInt32.ofNat distance)).place_lt_span
    rw [toNat_physical, base_offset]
    rw [span_offset] at wrapped
    omega
  have flat : Machine.isView (address.physical + UInt32.ofNat distance) = false :=
    Machine.isView_eq_false (by omega)
  intro same
  rw [Machine.cell, flat, if_neg Bool.false_ne_true, Machine.cell] at same
  split at same
  · exact absurd same (by simp)
  · have equal := congrArg UInt32.toNat (Sum.inr.inj same)
    omega

/-- No block or window of a range read runs past the top of the address form. -/
def Unbroken (address : Address) (length : Nat) : Prop :=
  ∀ index < length, (address.offset (UInt32.ofNat (blockStart length index))).Fits
    (index - blockStart length index + 1)

instance (address : Address) (length : Nat) : Decidable (Unbroken address length) :=
  inferInstanceAs (Decidable (∀ index < length, _))

theorem blockStart_mono {length one other : Nat} (less : one ≤ other) :
    blockStart length one ≤ blockStart length other := by
  rw [blockStart, blockStart]
  split <;> split <;> omega

theorem sub_blockStart_lt (length index : Nat) : index - blockStart length index < 0x100 := by
  rw [blockStart]
  split <;> omega

theorem blockStart_le_of_le {short long index : Nat} (less : short ≤ long) (inside : index < short) :
    blockStart long index ≤ blockStart short index := by
  rw [blockStart, blockStart]
  split <;> split <;> omega

namespace Unbroken

variable {address : Address} {length index : Nat}

theorem source (unbroken : Unbroken address length) (small : index < length) :
    Simulator.source address length index = (address.offset (UInt32.ofNat index)).physical := by
  have below := blockStart_le length index
  rw [Simulator.source, ← Address.physical_offset (unbroken index small), Address.offset_offset,
    Nat.add_sub_cancel' below]

theorem mono {short : Nat} (unbroken : Unbroken address length) (less : short ≤ length) :
    Unbroken address short := by
  intro index small
  have early := blockStart_le_of_le less small
  have late := blockStart_le short index
  have whole := unbroken index (Nat.lt_of_lt_of_le small less)
  rw [show index - blockStart length index + 1 = (blockStart short index - blockStart length index) +
    (index - blockStart short index) + 1 by omega] at whole
  have rest := whole.offset
  rwa [Address.offset_offset, Nat.add_sub_cancel' early] at rest

end Unbroken

theorem unbroken_iff {address : Address} {length : Nat}
    (wraps : address.span < address.place + length)
    (once : address.place + length ≤ 2 * address.span) :
    Unbroken address length ↔
      blockStart length (address.span - address.place) = address.span - address.place := by
  have inside := address.place_lt_span
  constructor
  · intro unbroken
    have early := blockStart_le length (address.span - address.place)
    have fits : _ ≤ _ := unbroken (address.span - address.place) (by omega)
    rw [Address.place_offset, Address.span_offset] at fits
    by_contra late
    rw [Nat.mod_eq_of_lt (by omega)] at fits
    omega
  · intro starts index small
    have early := blockStart_le length index
    show _ ≤ _
    rw [Address.place_offset, Address.span_offset]
    rcases Nat.lt_or_ge index (address.span - address.place) with before | behind
    · rw [Nat.mod_eq_of_lt (by omega)]
      omega
    · have late : address.span - address.place ≤ blockStart length index := by
        rw [← starts]
        exact blockStart_mono behind
      rw [Nat.mod_eq_sub_mod (by omega), Nat.mod_eq_of_lt (by omega)]
      omega

/-- Two windows can meet at the top of the view; a window that starts one byte before it cannot stop
there. -/
example : Unbroken (.cpu 0xFFF0) 32 ∧ ¬ Unbroken (.cpu 0xFFFF) 2 := by decide +kernel

namespace Simulator

variable {simulator : Simulator} {link : Link} {address : Address} {length : Nat}

theorem through_peek (ready : simulator.Ready) (patient : 2 ≤ link.reads) (address : Address) :
    (link.peek address).through simulator =
      (.ok (simulator.machine.read address.physical), simulator) := by
  have led : (link.readWindow address).through simulator =
      (.ok (window simulator.machine address.physical), simulator) := by
    rw [through_readWindow ready.quiet (ready.takes _), if_pos patient]
  rw [Link.peek, Exchange.through_bind_of_ok led, firstByte_window]
  rfl

theorem through_readRange_of_unbroken (ready : simulator.Ready) (patient : 2 ≤ link.reads)
    (unbroken : Unbroken address length) :
    (link.readRange address length).through simulator =
      (.ok ((List.range length).map fun index =>
        simulator.machine.read (address.offset (UInt32.ofNat index)).physical), simulator) := by
  have sources : ((List.range length).map fun index =>
      simulator.machine.read (source address length index)) =
      (List.range length).map fun index =>
        simulator.machine.read (address.offset (UInt32.ofNat index)).physical := by
    apply List.map_congr_left
    intro index member
    rw [unbroken.source (List.mem_range.mp member)]
  rw [through_readRange ready patient, sources]

theorem exists_read_ne (broken : ¬ Unbroken address length) :
    ∃ machine : Machine, ∃ index < length,
      machine.read (source address length index) ≠
        machine.read (address.offset (UInt32.ofNat index)).physical := by
  simp only [Unbroken, not_forall] at broken
  obtain ⟨index, small, beyond⟩ := broken
  have apart : Machine.cell (source address length index) ≠
      Machine.cell (address.offset (UInt32.ofNat index)).physical := by
    have counted := Address.cell_add_ne_offset (sub_blockStart_lt length index) beyond
    rwa [Address.offset_offset, Nat.add_sub_cancel' (blockStart_le length index)] at counted
  let blank : Machine := { registers := {} }
  have zero : ∀ physical, blank.read physical = 0 := by
    intro physical
    rw [Machine.read]
    split <;> exact Cells.read_blank _ _
  refine ⟨blank.write (source address length index) 1, index, small, ?_⟩
  rw [Machine.read_write, if_pos rfl, Machine.read_write, if_neg apart.symm, zero]
  decide

theorem unbroken_of_peeked (patient : 2 ≤ link.reads)
    (peeked : ∀ simulator : Simulator, simulator.Ready →
      ∃ bytes, (link.readRange address length).through simulator = (.ok bytes, simulator) ∧
        bytes.length = length ∧ ∀ index < length,
          (link.peek (address.offset (UInt32.ofNat index))).through simulator =
            (.ok (bytes.getD index 0), simulator)) : Unbroken address length := by
  by_contra broken
  obtain ⟨machine, index, small, apart⟩ := exists_read_ne broken
  have ready : ({ machine } : Simulator).Ready := ⟨rfl, rfl⟩
  obtain ⟨bytes, read, -, alone⟩ := peeked { machine } ready
  have byte := alone index small
  rw [through_readRange ready patient] at read
  rw [through_peek ready patient] at byte
  have whole := Except.ok.inj (Prod.mk.inj read).1
  have value := Except.ok.inj (Prod.mk.inj byte).1
  rw [← whole, getD_map_range _ _ small] at value
  exact apart value.symm

theorem peeked_of_unbroken (ready : simulator.Ready) (patient : 2 ≤ link.reads)
    (unbroken : Unbroken address length) :
    ∃ bytes, (link.readRange address length).through simulator = (.ok bytes, simulator) ∧
      bytes.length = length ∧ ∀ index < length,
        (link.peek (address.offset (UInt32.ofNat index))).through simulator =
          (.ok (bytes.getD index 0), simulator) := by
  refine ⟨_, through_readRange_of_unbroken ready patient unbroken, ?_, ?_⟩
  · rw [List.length_map, List.length_range]
  · intro index small
    rw [through_peek ready patient, getD_map_range _ _ small]

theorem through_readRange_add (ready : simulator.Ready) (patient : 2 ≤ link.reads)
    {first second : Nat} (whole : Unbroken address (first + second))
    (rest : Unbroken (address.offset (UInt32.ofNat first)) second) :
    ∃ one other, (link.readRange address first).through simulator = (.ok one, simulator) ∧
      (link.readRange (address.offset (UInt32.ofNat first)) second).through simulator =
        (.ok other, simulator) ∧
      (link.readRange address (first + second)).through simulator =
        (.ok (one ++ other), simulator) := by
  have beginning := whole.mono (Nat.le_add_right first second)
  refine ⟨_, _, through_readRange_of_unbroken ready patient beginning,
    through_readRange_of_unbroken ready patient rest, ?_⟩
  rw [through_readRange_of_unbroken ready patient whole, List.range_add, List.map_append,
    List.map_map]
  simp only [Address.offset_offset, Function.comp_def]

end Simulator

/-- A range read gives each byte as it is read alone, in every memory, if and only if no block of it
runs past the top of the address form. Reads without such a block can be joined: the whole is read
as its beginning and then the rest. -/
theorem Link.readRange_compose {link : Link} (patient : 3 ≤ link.retryLimit) (address : Address) :
    (∀ length, Unbroken address length ↔ ∀ simulator : Simulator, simulator.Ready →
      ∃ bytes, (link.readRange address length).through simulator = (.ok bytes, simulator) ∧
        bytes.length = length ∧ ∀ index < length,
          (link.peek (address.offset (UInt32.ofNat index))).through simulator =
            (.ok (bytes.getD index 0), simulator)) ∧
    ∀ first second, Unbroken address (first + second) →
      Unbroken (address.offset (UInt32.ofNat first)) second →
      ∀ simulator : Simulator, simulator.Ready →
        ∃ one other, (link.readRange address first).through simulator = (.ok one, simulator) ∧
          (link.readRange (address.offset (UInt32.ofNat first)) second).through simulator =
            (.ok other, simulator) ∧
          (link.readRange address (first + second)).through simulator =
            (.ok (one ++ other), simulator) := by
  have reads : 2 ≤ link.reads :=
    Nat.le_trans (Nat.le_of_succ_le patient) (Nat.le_max_left _ _)
  refine ⟨?_, ?_⟩
  · intro length
    constructor
    · intro unbroken simulator ready
      exact Simulator.peeked_of_unbroken ready reads unbroken
    · exact Simulator.unbroken_of_peeked reads
  · intro first second whole rest simulator ready
    exact Simulator.through_readRange_add ready reads whole rest

/-- A monitor with `$A5` at the top of the view and `$5A` at its bottom. -/
def Simulator.wrapping : Simulator :=
  { machine := ({ registers := {} : Machine }.setByte 0xFFFF 0xA5).setByte 0x0000 0x5A }

theorem Link.readRange_compose_windows :
    ∃ one other, (Link.readRange ⟨3⟩ (.cpu 0xFFF0) 16).through Simulator.wrapping =
        (.ok one, Simulator.wrapping) ∧
      (Link.readRange ⟨3⟩ (.cpu 0x0000) 16).through Simulator.wrapping =
        (.ok other, Simulator.wrapping) ∧
      (Link.readRange ⟨3⟩ (.cpu 0xFFF0) 32).through Simulator.wrapping =
        (.ok (one ++ other), Simulator.wrapping) ∧
      other.getD 0 0 = 0x5A := by
  have whole : Unbroken (.cpu 0xFFF0) (16 + 16) := by decide +kernel
  have rest : Unbroken (.cpu 0x0000) 16 := by decide +kernel
  obtain ⟨one, other, first, second, joined⟩ := (@readRange_compose ⟨3⟩ (Nat.le_refl 3)
    (.cpu 0xFFF0)).2 16 16 whole rest Simulator.wrapping ⟨rfl, rfl⟩
  rw [show (Address.cpu 0xFFF0).offset (UInt32.ofNat 16) = .cpu 0x0000 by decide +kernel] at second
  have bottom : some other = some (0x5A :: List.replicate 15 0) :=
    (congrArg (·.1.toOption) second).symm.trans (by decide +kernel)
  refine ⟨one, other, first, second, joined, ?_⟩
  rw [Option.some.inj bottom]
  rfl

theorem Link.readRange_breaks :
    ¬ ∀ (link : Link) (simulator : Simulator) (address : Address) (first second : Nat),
      3 ≤ link.retryLimit → simulator.Ready →
        ∃ one other, (link.readRange address first).through simulator = (.ok one, simulator) ∧
          (link.readRange (address.offset (UInt32.ofNat first)) second).through simulator =
            (.ok other, simulator) ∧
          (link.readRange address (first + second)).through simulator =
            (.ok (one ++ other), simulator) := by
  intro composes
  obtain ⟨one, other, first, second, whole⟩ :=
    composes ⟨3⟩ Simulator.wrapping (.cpu 0xFFFF) 1 1 (Nat.le_refl 3) ⟨rfl, rfl⟩
  have top : some one = some [0xA5] :=
    (congrArg (·.1.toOption) first).symm.trans (by decide +kernel)
  have bottom : some other = some [0x5A] :=
    (congrArg (·.1.toOption) second).symm.trans (by decide +kernel)
  have both : some (one ++ other) = some [0xA5, 0x00] :=
    (congrArg (·.1.toOption) whole).symm.trans (by decide +kernel)
  rw [Option.some.inj top, Option.some.inj bottom] at both
  exact absurd both (by decide)

end RemoteDebugger
