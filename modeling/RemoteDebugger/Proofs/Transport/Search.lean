import RemoteDebugger.Proofs.Transport.Range

/-!
Searching the simulated monitor's memory. A range is read whole, whatever blocks and windows it takes,
and the pattern is looked for at every distance into it. So no occurrence is lost at the seam of two
blocks or behind another one that it overlaps, and each is reported once, the lowest first.
-/

set_option autoImplicit false

namespace RemoteDebugger

namespace Link

variable {pattern bytes : List UInt8} {start index : Nat}

theorem mem_occurrencesFrom :
    index ∈ occurrencesFrom pattern start bytes ↔
      ∃ distance < bytes.length, index = start + distance ∧ pattern <+: bytes.drop distance := by
  induction bytes generalizing start with
  | nil => simp [occurrencesFrom]
  | cons byte rest ih =>
    have later : index ∈ occurrencesFrom pattern (start + 1) rest ↔
        ∃ distance, distance + 1 < (byte :: rest).length ∧ index = start + (distance + 1) ∧
          pattern <+: (byte :: rest).drop (distance + 1) := by
      simp only [ih, List.length_cons, Nat.add_lt_add_iff_right, List.drop_succ_cons,
        Nat.add_assoc, Nat.add_comm 1]
    have split : (∃ distance < (byte :: rest).length, index = start + distance ∧
          pattern <+: (byte :: rest).drop distance) ↔
        (index = start ∧ pattern <+: byte :: rest) ∨
          index ∈ occurrencesFrom pattern (start + 1) rest := by
      rw [later]
      constructor
      · rintro ⟨_ | distance, inside, found, occurs⟩
        · exact .inl ⟨found, occurs⟩
        · exact .inr ⟨distance, inside, found, occurs⟩
      · rintro (⟨found, occurs⟩ | ⟨distance, inside, found, occurs⟩)
        · exact ⟨0, Nat.zero_lt_succ _, found, occurs⟩
        · exact ⟨distance + 1, inside, found, occurs⟩
    rw [split, occurrencesFrom]
    by_cases here : pattern <+: byte :: rest
    · rw [if_pos (List.isPrefixOf_iff_prefix.mpr here), List.mem_cons]
      simp only [here, and_true]
    · rw [if_neg (mt List.isPrefixOf_iff_prefix.mp here)]
      simp only [here, and_false, false_or]

theorem pairwise_occurrencesFrom (pattern : List UInt8) (start : Nat) (bytes : List UInt8) :
    (occurrencesFrom pattern start bytes).Pairwise (· < ·) := by
  induction bytes generalizing start with
  | nil => exact .nil
  | cons byte rest ih =>
    have behind : ∀ later ∈ occurrencesFrom pattern (start + 1) rest, start < later := by
      intro later member
      obtain ⟨distance, -, rfl, -⟩ := mem_occurrencesFrom.mp member
      omega
    rw [occurrencesFrom]
    split
    · exact .cons behind (ih (start + 1))
    · exact ih (start + 1)

end Link

namespace Machine

theorem drop_bytesFrom (machine : Machine) (address : Address) (count distance : Nat) :
    (machine.bytesFrom address count).drop distance =
      machine.bytesFrom (address.offset (UInt32.ofNat distance)) (count - distance) := by
  apply List.ext_getElem
  · rw [List.length_drop, length_bytesFrom, length_bytesFrom]
  · intro index _ _
    simp only [bytesFrom, List.getElem_drop, List.getElem_map, List.getElem_range,
      Address.offset_offset]

theorem mem_occurrencesFrom_bytesFrom {machine : Machine} {address : Address} {length index : Nat}
    {pattern : List UInt8} (nonempty : pattern ≠ []) :
    index ∈ Link.occurrencesFrom pattern 0 (machine.bytesFrom address length) ↔
      index + pattern.length ≤ length ∧
        machine.bytesFrom (address.offset (UInt32.ofNat index)) pattern.length = pattern := by
  have positive : 0 < pattern.length := List.length_pos_of_ne_nil nonempty
  simp only [Link.mem_occurrencesFrom, Nat.zero_add, length_bytesFrom, drop_bytesFrom]
  constructor
  · rintro ⟨distance, inside, rfl, occurs⟩
    have short := occurs.length_le
    rw [length_bytesFrom] at short
    have taken := List.prefix_iff_eq_take.mp occurs
    rw [take_bytesFrom _ _ short] at taken
    exact ⟨by omega, taken.symm⟩
  · rintro ⟨ends, holds⟩
    have short : pattern.length ≤ length - index := by omega
    refine ⟨index, by omega, rfl, ?_⟩
    rw [List.prefix_iff_eq_take, take_bytesFrom _ _ short, holds]

end Machine

/-- A search over a working link finds the addresses in the range at which memory holds the pattern
with its end still in the range: all of these and no others, in ascending order and each once. An
empty pattern is found nowhere. The range may not run past the top of its address form. -/
theorem Link.search_finds {link : Link} {simulator : Simulator} {address : Address} {length : Nat}
    (ready : simulator.Ready) (patient : 2 ≤ link.retryLimit) (fits : address.Fits length)
    (pattern : List UInt8) :
    ∃ found : List Address,
      (link.search address length pattern).through simulator = (.ok found, simulator) ∧
      found.Pairwise (fun one other => one.physical < other.physical) ∧
      ∀ place, place ∈ found ↔ pattern ≠ [] ∧ ∃ index, index + pattern.length ≤ length ∧
        place = address.offset (UInt32.ofNat index) ∧
        simulator.machine.bytesFrom place pattern.length = pattern := by
  have reads : 2 ≤ link.reads := Nat.le_trans patient (Nat.le_max_left _ _)
  by_cases vain : (pattern.isEmpty || decide (length < pattern.length)) = true
  · refine ⟨[], ?_, .nil, ?_⟩
    · rw [Link.search, if_pos vain]
      rfl
    · intro place
      simp only [Bool.or_eq_true, List.isEmpty_iff, decide_eq_true_eq] at vain
      refine iff_of_false List.not_mem_nil ?_
      rintro ⟨nonempty, index, ends, -⟩
      rcases vain with none | long
      · exact nonempty none
      · omega
  · have read := Simulator.through_readRange_of_fits ready reads fits
    refine ⟨(occurrencesFrom pattern 0 (simulator.machine.bytesFrom address length)).map
      fun index => address.offset (UInt32.ofNat index), ?_, ?_, ?_⟩
    · rw [Link.search, if_neg vain, Exchange.through_bind_of_ok read]
      rfl
    · apply List.pairwise_map.mpr
      apply (pairwise_occurrencesFrom _ _ _).imp_of_mem
      intro one other _ member less
      obtain ⟨distance, inside, rfl, -⟩ := mem_occurrencesFrom.mp member
      rw [Machine.length_bytesFrom] at inside
      exact Address.physical_offset_lt (fits.mono (by omega)) less
    · intro place
      have nonempty : pattern ≠ [] := by
        rintro rfl
        exact vain rfl
      simp only [List.mem_map, Machine.mem_occurrencesFrom_bytesFrom nonempty]
      constructor
      · rintro ⟨index, ⟨ends, holds⟩, rfl⟩
        exact ⟨nonempty, index, ends, rfl, holds⟩
      · rintro ⟨-, index, ends, rfl, holds⟩
        exact ⟨index, ⟨ends, holds⟩, rfl⟩

/-- A monitor with the same byte at the four addresses around the end of a page. -/
def Simulator.uniform : Simulator where
  machine := ({ registers := {} } : Machine).writeBytes (Address.cpu 0x20FE).physical
    (List.replicate 4 0xAA)

/-- The range is read by a block and a window that meet at the end of the page: occurrences before the
seam, across it and behind it are found, and they overlap. -/
theorem Link.search_finds_across :
    ∃ found, (Link.search ⟨2⟩ (.cpu 0x2000) 0x110 [0xAA, 0xAA]).through Simulator.uniform =
        (.ok found, Simulator.uniform) ∧
      .cpu 0x20FE ∈ found ∧ .cpu 0x20FF ∈ found ∧ .cpu 0x2100 ∈ found ∧ .cpu 0x2101 ∉ found := by
  have fits : (Address.cpu 0x2000).Fits 0x110 := by decide
  obtain ⟨found, led, -, exactly⟩ :=
    @search_finds ⟨2⟩ Simulator.uniform (.cpu 0x2000) 0x110 ⟨rfl, rfl⟩ (Nat.le_refl 2) fits
      [0xAA, 0xAA]
  refine ⟨found, led, ?_, ?_, ?_, ?_⟩
  · exact (exactly _).mpr ⟨by decide, 0xFE, by decide, by decide +kernel, by decide +kernel⟩
  · exact (exactly _).mpr ⟨by decide, 0xFF, by decide, by decide +kernel, by decide +kernel⟩
  · exact (exactly _).mpr ⟨by decide, 0x100, by decide, by decide +kernel, by decide +kernel⟩
  · intro member
    obtain ⟨-, -, -, -, holds⟩ := (exactly _).mp member
    exact absurd holds (by decide +kernel)

end RemoteDebugger
