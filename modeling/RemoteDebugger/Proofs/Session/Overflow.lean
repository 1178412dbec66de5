import Mathlib.Algebra.Group.Action.Defs
import Mathlib.Algebra.Order.BigOperators.Group.List
import RemoteDebugger.Session.Checked
import RemoteDebugger.Proofs.Session.Locals
import RemoteDebugger.Proofs.Symbols.Lookup

/-!
Which locals overflow. Sixteen-bit words and eight callers cannot exceed a signed word of thirty-two
bits, but sizes and offsets are what the symbol file says. All sums are those of the exact numbers
iff neither the base of the locals nor a place counted from it is past the largest word; otherwise a
checked build stops, unless the size of a local was cut.
-/

set_option autoImplicit false

namespace RemoteDebugger

section Sums

theorem exists_toInt_iff {number : Int} :
    (∃ word : Int32, word.toInt = number) ↔ -0x80000000 ≤ number ∧ number ≤ 0x7FFFFFFF := by
  constructor
  · rintro ⟨word, rfl⟩
    have low := word.le_toInt
    have high := word.toInt_lt
    omega
  · rintro ⟨low, high⟩
    exact ⟨Int32.ofInt number, Int32.toInt_ofInt_of_le (by omega) (by omega)⟩

theorem toInt_ofNat_iff {number : Nat} :
    (Int32.ofNat number).toInt = number ↔ (number : Int) ≤ 0x7FFFFFFF := by
  constructor
  · intro equal
    exact (exists_toInt_iff.mp ⟨_, equal⟩).2
  · intro small
    exact Int32.toInt_ofNat_of_lt (by omega)

variable {first second start sum : Int32} {terms : List Int32}

theorem addChecked?_eq_add (added : addChecked? first second = some sum) :
    sum = first + second := by
  rw [addChecked?] at added
  split at added
  · exact (Option.some.inj added).symm
  · cases added

theorem addChecked?_eq_some_iff :
    addChecked? first second = some sum ↔ sum.toInt = first.toInt + second.toInt := by
  constructor
  · intro added
    rw [addChecked?_eq_add added]
    rw [addChecked?] at added
    split at added
    · assumption
    · cases added
  · intro equal
    have same : first + second = sum := by
      rw [← Int32.toInt_inj, Int32.toInt_add, ← equal]
      exact sum.toInt_bmod
    rw [addChecked?, same, if_pos equal]

theorem sumChecked?_eq_add (added : sumChecked? start terms = some sum) :
    sum = start + terms.sum := by
  induction terms generalizing start with
  | nil =>
    rw [List.sum_nil, Int32.add_zero]
    exact (Option.some.inj added).symm
  | cons term terms ih =>
    rw [sumChecked?, List.foldlM_cons] at added
    obtain ⟨middle, now, later⟩ := Option.bind_eq_some_iff.mp added
    rw [ih later, addChecked?_eq_add now, List.sum_cons, Int32.add_assoc]

/-- If nothing is taken away, a checked sum is right as soon as the total is a word: those before it
are no larger. -/
theorem sumChecked?_eq_some_iff (positive : ∀ term ∈ terms, 0 ≤ term.toInt) :
    sumChecked? start terms = some sum ↔
      sum.toInt = start.toInt + (terms.map Int32.toInt).sum := by
  induction terms generalizing start with
  | nil =>
    rw [List.map_nil, List.sum_nil, Int.add_zero, Int32.toInt_inj]
    exact Option.some_inj.trans eq_comm
  | cons term terms ih =>
    have rest := fun middle => @ih middle fun other member =>
      positive other (List.mem_cons_of_mem term member)
    rw [sumChecked?, List.foldlM_cons, List.map_cons, List.sum_cons, ← Int.add_assoc]
    constructor
    · intro added
      obtain ⟨middle, now, later⟩ := Option.bind_eq_some_iff.mp added
      rw [(rest middle).mp later, addChecked?_eq_some_iff.mp now]
    · intro equal
      have above : 0 ≤ (terms.map Int32.toInt).sum :=
        List.sum_nonneg (List.forall_mem_map.mpr fun other member =>
          positive other (List.mem_cons_of_mem term member))
      have more := positive term List.mem_cons_self
      have low := start.le_toInt
      have high := sum.toInt_lt
      obtain ⟨middle, now⟩ := exists_toInt_iff.mpr
        (⟨by omega, by omega⟩ : -0x80000000 ≤ start.toInt + term.toInt ∧ _ ≤ (0x7FFFFFFF : Int))
      exact Option.bind_eq_some_iff.mpr ⟨middle, addChecked?_eq_some_iff.mpr now,
        (rest middle).mpr (now ▸ equal)⟩

end Sums

namespace Function

/-- Counted from this base, the locals have places that a signed word of thirty-two bits can hold,
and so has the base. -/
structure Within (function : Function) (base : Int) : Prop where
  start : base ≤ 0x7FFFFFFF
  places : ∀ entry ∈ function.locals, base + entry.offset.toInt ≤ 0x7FFFFFFF

instance (function : Function) (base : Int) : Decidable (function.Within base) :=
  decidable_of_iff (base ≤ 0x7FFFFFFF ∧
    ∀ entry ∈ function.locals, base + entry.offset.toInt ≤ 0x7FFFFFFF)
    ⟨fun ⟨start, places⟩ => ⟨start, places⟩, fun within => ⟨within.start, within.places⟩⟩

/-- No size that counts towards the base is changed where it is cut to thirty-two bits. -/
def Converts (function : Function) : Prop :=
  ∀ entry ∈ function.locals, entry.offset < 0 → (Int32.ofNat entry.size).toInt = entry.size

variable {function : Function} {base : Int}

theorem Within.of_le {bound : Int} (within : function.Within bound) (small : base ≤ bound) :
    function.Within base :=
  ⟨small.trans within.start, fun entry member => by
    have place := within.places entry member
    omega⟩

theorem size_le_negativeSize {entry : LocalVariable} (member : entry ∈ function.locals)
    (below : entry.offset < 0) : entry.size ≤ function.negativeSize :=
  List.single_le_sum (fun _ _ => Nat.zero_le _) _
    (List.mem_map_of_mem (List.mem_filter.mpr ⟨member, decide_eq_true below⟩))

theorem Within.converts (within : function.Within base)
    (contains : (function.negativeSize : Int) ≤ base) : function.Converts := by
  intro entry member below
  have size := size_le_negativeSize member below
  have small := within.start
  exact toInt_ofNat_iff.mpr (by omega)

end Function

namespace Action

section Base

variable {functionAt : UInt16 → Option Function} {callers : List UInt16} {function : Function}
  {pointer : UInt16}

theorem toInt_parameterBytes (callers : List UInt16) :
    (((callers.map functionAt).map parameterBytes).map Int32.toInt).sum =
      parameterSize functionAt callers := by
  induction callers with
  | nil => rfl
  | cons caller callers ih =>
    rw [List.map_cons, List.map_cons, List.map_cons, List.sum_cons, ih, parameterSize, parameterSize,
      List.filterMap_cons]
    cases functionAt caller with
    | none => exact Int.zero_add _
    | some function =>
      have small := function.paramSize.toNat_lt
      rw [List.map_cons, List.sum_cons, Nat.cast_add, parameterBytes,
        Int32.toInt_ofNat_of_lt (by omega)]

theorem toInt_parameterBytes_nonneg {callers : List (Option Function)} :
    ∀ size ∈ callers.map parameterBytes, 0 ≤ size.toInt := by
  refine List.forall_mem_map.mpr fun caller _ => ?_
  cases caller with
  | none => exact Int.le_refl 0
  | some function =>
    have small := function.paramSize.toNat_lt
    rw [parameterBytes, Int32.toInt_ofNat_of_lt (by omega)]
    exact Int.natCast_nonneg _

theorem parameterSize_le (callers : List UInt16) :
    parameterSize functionAt callers ≤ callers.length * 65535 := by
  have small : ∀ size ∈ (callers.filterMap functionAt).map fun caller => caller.paramSize.toNat,
      size ≤ 65535 :=
    List.forall_mem_map.mpr fun caller _ => Nat.le_of_lt_succ caller.paramSize.toNat_lt
  calc parameterSize functionAt callers
      ≤ ((callers.filterMap functionAt).map fun caller => caller.paramSize.toNat).length • 65535 :=
        List.sum_le_card_nsmul _ _ small
    _ ≤ callers.length * 65535 := by
        rw [List.length_map, smul_eq_mul]
        exact Nat.mul_le_mul_right _ (List.length_filterMap_le _ _)

theorem toInt_sizes {entries : List LocalVariable}
    (equal : ∀ entry ∈ entries, (Int32.ofNat entry.size).toInt = entry.size) :
    ((entries.map fun entry => Int32.ofNat entry.size).map Int32.toInt).sum =
      ((entries.map LocalVariable.size).sum : Nat) := by
  induction entries with
  | nil => rfl
  | cons entry entries ih =>
    rw [List.map_cons, List.map_cons, List.sum_cons, equal entry List.mem_cons_self, List.map_cons,
      List.sum_cons, Nat.cast_add, ih fun other member => equal other (List.mem_cons_of_mem _ member)]

theorem localBaseChecked?_eq_localBase {callers : List (Option Function)} {base : Int32}
    (added : localBaseChecked? function pointer callers = some base) :
    base = localBase function pointer callers := by
  obtain ⟨passed, above, added⟩ := Option.bind_eq_some_iff.mp added
  obtain ⟨below, negative, added⟩ := Option.bind_eq_some_iff.mp added
  rw [addChecked?_eq_add added, sumChecked?_eq_add above, sumChecked?_eq_add negative,
    List.map_reverse, List.sum_reverse, Int32.zero_add]
  rfl

theorem sumChecked?_parameterBytes {sum : Int32} :
    sumChecked? (Int32.ofNat pointer.toNat) ((callers.map functionAt).reverse.map parameterBytes) =
      some sum ↔ sum.toInt = pointer.toNat + parameterSize functionAt callers := by
  have small := pointer.toNat_lt
  rw [sumChecked?_eq_some_iff toInt_parameterBytes_nonneg, List.map_reverse, List.map_reverse,
    List.sum_reverse, toInt_parameterBytes, Int32.toInt_ofNat_of_lt (by omega)]

theorem sumChecked?_sizes (converts : function.Converts) {sum : Int32} :
    sumChecked? 0 ((function.locals.filter fun entry => entry.offset < 0).map fun entry =>
      Int32.ofNat entry.size) = some sum ↔ sum.toInt = function.negativeSize := by
  have sizes : ∀ entry ∈ function.locals.filter fun entry => entry.offset < 0,
      (Int32.ofNat entry.size).toInt = entry.size := fun entry member =>
    converts entry (List.mem_of_mem_filter member) (of_decide_eq_true (List.mem_filter.mp member).2)
  rw [sumChecked?_eq_some_iff, toInt_sizes sizes]
  · exact iff_of_eq (congrArg _ (Int.zero_add _))
  · exact List.forall_mem_map.mpr fun entry member =>
      (sizes entry member).symm ▸ Int.natCast_nonneg entry.size

theorem localBaseChecked?_eq_some_iff {base : Int32} (converts : function.Converts) :
    localBaseChecked? function pointer (callers.map functionAt) = some base ↔
      base.toInt = pointer.toNat + parameterSize functionAt callers + function.negativeSize := by
  constructor
  · intro added
    obtain ⟨first, above, added⟩ := Option.bind_eq_some_iff.mp added
    obtain ⟨second, negative, added⟩ := Option.bind_eq_some_iff.mp added
    rw [addChecked?_eq_some_iff.mp added, sumChecked?_parameterBytes.mp above,
      (sumChecked?_sizes converts).mp negative]
  · intro equal
    have high := base.toInt_lt
    obtain ⟨first, above⟩ := exists_toInt_iff.mpr (⟨by omega, by omega⟩ : -0x80000000 ≤
      (pointer.toNat + parameterSize functionAt callers : Int) ∧ _ ≤ (0x7FFFFFFF : Int))
    obtain ⟨second, negative⟩ := exists_toInt_iff.mpr (⟨by omega, by omega⟩ : -0x80000000 ≤
      (function.negativeSize : Int) ∧ _ ≤ (0x7FFFFFFF : Int))
    refine Option.bind_eq_some_iff.mpr ⟨first, sumChecked?_parameterBytes.mpr above,
      Option.bind_eq_some_iff.mpr ⟨second, (sumChecked?_sizes converts).mpr negative,
        addChecked?_eq_some_iff.mpr ?_⟩⟩
    rw [equal, above, negative]

theorem within_iff {base : Int}
    (total : base = pointer.toNat + parameterSize functionAt callers + function.negativeSize) :
    function.Within base ↔
      (∃ word, localBaseChecked? function pointer (callers.map functionAt) = some word ∧
        ∀ entry ∈ function.locals, (addChecked? word entry.offset).isSome) ∧
      function.Converts := by
  constructor
  · intro within
    have converts := within.converts (by omega)
    obtain ⟨word, equal⟩ := exists_toInt_iff.mpr
      (⟨by omega, within.start⟩ : -0x80000000 ≤ base ∧ base ≤ 0x7FFFFFFF)
    refine ⟨⟨word, (localBaseChecked?_eq_some_iff converts).mpr (equal.trans total), ?_⟩, converts⟩
    intro entry member
    have low := entry.offset.le_toInt
    obtain ⟨place, there⟩ := exists_toInt_iff.mpr
      (⟨by omega, within.places entry member⟩ : -0x80000000 ≤ base + entry.offset.toInt ∧ _)
    exact Option.isSome_of_eq_some (addChecked?_eq_some_iff.mpr (equal.symm ▸ there))
  · rintro ⟨⟨word, added, placed⟩, converts⟩
    have equal := ((localBaseChecked?_eq_some_iff converts).mp added).trans total.symm
    refine ⟨equal ▸ (exists_toInt_iff.mp ⟨word, rfl⟩).2, fun entry member => ?_⟩
    obtain ⟨place, there⟩ := Option.isSome_iff_exists.mp (placed entry member)
    rw [addChecked?_eq_some_iff, equal] at there
    exact (exists_toInt_iff.mp ⟨place, there⟩).2

end Base

section Reading

variable {session : Session} {machine : Machine} (legible : session.Legible machine)

include legible

theorem exists_learns_readLocal (address : UInt16) (size : Nat) :
    ∃ data, (readLocal (.cpu address) size).Learns session machine data := by
  unfold readLocal
  split
  · exact ⟨_, (learns_window legible (.cpu address) Window.firstByte).map LocalData.byte⟩
  · exact ⟨_, (learns_window legible (.cpu address) Window.firstWord).map LocalData.word⟩
  · exact ⟨_, (learns_window legible (.cpu address) Window.firstDword).map LocalData.dword⟩
  · exact ⟨_, (learns_readRange legible (.cpu address) size).map LocalData.raw⟩

theorem learns_readLocalsChecked (base : Int32) (entries : List LocalVariable) :
    ∃ outcome, (readLocalsChecked base entries).Learns session machine outcome ∧
      (outcome.isSome ↔ ∀ entry ∈ entries, (addChecked? base entry.offset).isSome) ∧
      ∀ values, outcome = some values →
        (readLocals base entries).Learns session machine values ∧
        List.Forall₂ (fun entry value => value.name = entry.name ∧
          value.address = (base + entry.offset).toInt16.toUInt16) entries values := by
  induction entries with
  | nil =>
    refine ⟨some [], learns_pure _, by simp, ?_⟩
    rintro values ⟨⟩
    exact ⟨learns_pure _, .nil⟩
  | cons entry entries ih =>
    obtain ⟨outcome, read, whole, plain⟩ := ih
    rw [readLocalsChecked]
    cases added : addChecked? base entry.offset with
    | none => exact ⟨none, learns_pure _, by simp [added], nofun⟩
    | some place =>
      obtain rfl := addChecked?_eq_add added
      obtain ⟨data, first⟩ := exists_learns_readLocal legible
        (base + entry.offset).toInt16.toUInt16 entry.size
      refine ⟨_, first.bind (read.bind (learns_pure _)), by simp [added, whole], ?_⟩
      intro values given
      obtain ⟨others, rfl, rfl⟩ := Option.map_eq_some_iff.mp given
      obtain ⟨later, named⟩ := plain others rfl
      exact ⟨first.bind (later.bind (learns_pure _)), .cons ⟨rfl, rfl⟩ named⟩

variable {functionAt : UInt16 → Option Function}

theorem learns_localsCheckedBy_none
    (unknown : functionAt (machine.frameAddresses.getD session.frame.index 0) = none) :
    (localsCheckedBy functionAt).Learns session machine (some []) := by
  apply learns_get.bind
  apply (learns_frameAddresses legible).bind
  rw [unknown]
  exact learns_pure (some [])

theorem learns_localsCheckedBy_some {function : Function} {pointer : UInt16} {base : Int}
    (known : functionAt (machine.frameAddresses.getD session.frame.index 0) = some function)
    (read : (onLink (·.peekWord (.cpu session.config.softStackPointer))).Learns session machine
      pointer)
    (total : base = pointer.toNat +
      parameterSize functionAt (machine.frameAddresses.tail.take session.frame.index) +
      function.negativeSize) :
    ∃ outcome, (localsCheckedBy functionAt).Learns session machine outcome ∧
      (function.Within base ↔ outcome.isSome ∧ function.Converts) ∧
      ∀ values, outcome = some values →
        (localsBy functionAt).Learns session machine values ∧
        List.Forall₂ (fun entry value => value.name = entry.name ∧
          (value.address.toNat : Int) = (base + entry.offset.toInt) % 65536)
          function.locals values := by
  have asked {result : Option (List LocalValue)}
      (rest : (readLocalsFrom function.locals (localBaseChecked? function pointer
        ((machine.frameAddresses.tail.take session.frame.index).map functionAt))).Learns session
        machine result) : (localsCheckedBy functionAt).Learns session machine result := by
    apply learns_get.bind
    apply (learns_frameAddresses legible).bind
    rw [known]
    exact read.bind rest
  have bounded := within_iff total
  cases added : localBaseChecked? function pointer
      ((machine.frameAddresses.tail.take session.frame.index).map functionAt) with
  | none =>
    rw [added] at asked bounded
    exact ⟨none, asked (learns_pure none), by simp [bounded], nofun⟩
  | some word =>
    rw [added] at asked bounded
    obtain ⟨outcome, listed, whole, plain⟩ := learns_readLocalsChecked legible word function.locals
    refine ⟨outcome, asked listed, by simp [bounded, whole], fun values given => ?_⟩
    obtain ⟨wrapped, placed⟩ := plain values given
    obtain rfl := localBaseChecked?_eq_localBase added
    refine ⟨learns_localsBy_of_readLocals legible known read wrapped, ?_⟩
    refine placed.imp fun entry value ⟨named, there⟩ => ⟨named, ?_⟩
    rw [there, toNat_localAddress, localPlace, total]

end Reading

/-- What can overflow where a stopped target is asked for locals. The base is the exact sum of the
pointer, of the parameters of the callers and of the sizes of the locals with negative offsets.
Locals come out of the checked build with no size cut iff the base and the places counted from it
are signed words of thirty-two bits. Those that do come out are the ones of the build that wraps, at
their places cut to sixteen bits. -/
theorem locals_exact_iff {session : Session} {target : Simulator} (symbols : Symbols)
    (ready : target.Ready) (stopped : target.running = false)
    (legible : session.Legible target.machine) (inside : session.frame.index ≤ FrameCursor.limit) :
    ∃ frames frame pointer looked asked,
      backtrace.through session target = ((.ok frames, session), looked) ∧
      frames[session.frame.index]? = some frame ∧
      (onLink (·.peekWord (.cpu session.config.softStackPointer))).through session target =
        ((.ok pointer, session), asked) ∧
      (symbols.functionContaining frame.address = none →
        ∃ after, (localsChecked symbols).through session target =
          ((.ok (some []), session), after)) ∧
      ∀ (function : Function) (base : Int),
        symbols.functionContaining frame.address = some function →
        base = pointer.toNat + parameterSize symbols.functionContaining
          ((frames.tail.take session.frame.index).map Frame.address) + function.negativeSize →
        ∃ outcome after,
          (localsChecked symbols).through session target = ((.ok outcome, session), after) ∧
          (function.Within base ↔ outcome.isSome ∧ function.Converts) ∧
          ∀ values, outcome = some values →
            (∃ later, (locals symbols).through session target = ((.ok values, session), later)) ∧
            List.Forall₂ (fun entry value => value.name = entry.name ∧
              (value.address.toNat : Int) = (base + entry.offset.toInt) % 65536)
              function.locals values := by
  have paused : target.Paused target.machine := ⟨ready.quiet, stopped, rfl⟩
  obtain ⟨looked, traced, -, -⟩ := learns_backtrace legible target ready paused
  have read := learns_window legible (.cpu session.config.softStackPointer) Window.firstWord
  obtain ⟨asked, peeked, -, -⟩ := read target ready paused
  refine ⟨_, _, _, looked, asked, traced, target.machine.getElem?_frames inside, peeked, ?_, ?_⟩
  · intro unknown
    obtain ⟨after, listed, -, -⟩ := learns_localsCheckedBy_none legible unknown target ready paused
    exact ⟨after, listed⟩
  · intro function base known total
    rw [List.map_take, List.map_tail, Machine.map_address_frames] at total
    obtain ⟨outcome, learned, whole, plain⟩ :=
      learns_localsCheckedBy_some legible known read total
    obtain ⟨after, listed, -, -⟩ := learned target ready paused
    refine ⟨outcome, after, listed, whole, fun values given => ?_⟩
    obtain ⟨wrapped, placed⟩ := plain values given
    obtain ⟨later, ended, -, -⟩ := wrapped target ready paused
    exact ⟨⟨later, ended⟩, placed⟩

theorem locals_exact_iff_caller :
    ∃ values after later,
      (localsChecked ⟨[caller], []⟩).through { frame := ⟨1⟩ } calledWithLocals =
        ((.ok (some values), { frame := ⟨1⟩ }), after) ∧
      (locals ⟨[caller], []⟩).through { frame := ⟨1⟩ } calledWithLocals =
        ((.ok values, { frame := ⟨1⟩ }), later) := by
  have legible : Session.Legible { frame := ⟨1⟩ } calledWithLocals.machine :=
    ⟨by decide, by decide +kernel⟩
  obtain ⟨frames, frame, pointer, looked, asked, traced, found, -, -, known⟩ :=
    locals_exact_iff ⟨[caller], []⟩ ⟨rfl, rfl⟩ rfl legible (by decide)
  have site := address_caller traced found
  obtain ⟨outcome, after, listed, whole, plain⟩ := known caller _ (by rw [site]; decide) rfl
  have passed := @parameterSize_le (Symbols.functionContaining ⟨[caller], []⟩)
    ((frames.tail.take 1).map Frame.address)
  have few : ((frames.tail.take 1).map Frame.address).length ≤ 1 := by
    rw [List.length_map]
    exact List.length_take_le _ _
  have word := pointer.toNat_lt
  have room : caller.Within (2 * 65535 + caller.negativeSize) := by decide
  have below : (pointer.toNat + parameterSize (Symbols.functionContaining ⟨[caller], []⟩)
      ((frames.tail.take 1).map Frame.address) + caller.negativeSize : Int) ≤
        2 * 65535 + caller.negativeSize := by omega
  obtain ⟨values, rfl⟩ := Option.isSome_iff_exists.mp (whole.mp (room.of_le below)).1
  obtain ⟨⟨later, ended⟩, -⟩ := plain values rfl
  exact ⟨values, after, later, listed, ended⟩

/-- A function, found at every address, with a local as far behind its base as an offset can say. -/
def withFarLocal : Symbols :=
  .ofDeclarations [{ name := "main".toList, address := 0, locals := [⟨"i".toList, 2147483647, 1⟩] }] []

theorem localsChecked_overflows :
    ¬ ∀ (symbols : Symbols) (session : Session) (target : Simulator),
      target.Ready → target.running = false → session.Legible target.machine →
      session.frame.index ≤ FrameCursor.limit →
      ((localsChecked symbols).through session target).1.1 ≠ .ok none := by
  intro never
  have stops := eq_of_toOption (show ((localsChecked withFarLocal).through {}
    calledWithLocals).1.1.toOption = some none by decide +kernel)
  have legible : Session.Legible {} calledWithLocals.machine := ⟨by decide, by decide +kernel⟩
  exact never withFarLocal {} calledWithLocals ⟨rfl, rfl⟩ rfl legible (by decide) (by rw [stops])

/-- A symbol file whose functions leave room for nine words of sixteen bits is safe, whatever the
memory of the target holds. -/
theorem localsChecked_of_room {session : Session} {target : Simulator} {symbols : Symbols}
    (room : ∀ function ∈ symbols.functions, function.Within (9 * 65535 + function.negativeSize))
    (ready : target.Ready) (stopped : target.running = false)
    (legible : session.Legible target.machine) (inside : session.frame.index ≤ FrameCursor.limit) :
    ∃ values after,
      (localsChecked symbols).through session target = ((.ok (some values), session), after) := by
  have paused : target.Paused target.machine := ⟨ready.quiet, stopped, rfl⟩
  cases known : symbols.functionContaining
      (target.machine.frameAddresses.getD session.frame.index 0) with
  | none =>
    obtain ⟨after, listed, -, -⟩ := learns_localsCheckedBy_none legible known target ready paused
    exact ⟨[], after, listed⟩
  | some function =>
    have read := learns_window legible (.cpu session.config.softStackPointer) Window.firstWord
    obtain ⟨outcome, learned, whole, -⟩ := learns_localsCheckedBy_some legible known read rfl
    have passed := @parameterSize_le symbols.functionContaining
      (target.machine.frameAddresses.tail.take session.frame.index)
    have few : (target.machine.frameAddresses.tail.take session.frame.index).length ≤ 8 :=
      (List.length_take_le _ _).trans inside
    have word := (Simulator.window target.machine
      (Address.cpu session.config.softStackPointer).physical).firstWord.toNat_lt
    obtain ⟨values, rfl⟩ := Option.isSome_iff_exists.mp
      (whole.mp ((room function (symbols.mem_of_functionContaining known)).of_le (by omega))).1
    obtain ⟨after, listed, -, -⟩ := learned target ready paused
    exact ⟨values, after, listed⟩

end Action

end RemoteDebugger
