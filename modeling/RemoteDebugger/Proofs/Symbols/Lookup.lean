import Mathlib.Data.List.Basic
import RemoteDebugger.Symbols.Basic

/-!
Finding the function of an address. The functions of a symbol file are sorted by address, and a
bisection finds the last one that does not start behind the address. Sorting keeps the order of
functions that start at one address, so of those the one that is declared last is found.
-/

set_option autoImplicit false

namespace RemoteDebugger

section Bisection

variable {α : Type}

/-- Where the test is not passed again once it failed, bisecting a range ends at the last place that
passes it, or at the first place. -/
theorem bisect_spec {passes : Nat → Bool}
    (falling : ∀ early late, early ≤ late → passes late = true → passes early = true)
    {rounds first size : Nat} (enough : size ≤ rounds) :
    (bisect passes rounds first size = first ∨
        passes (bisect passes rounds first size) = true) ∧
      ∀ place, bisect passes rounds first size < place → place < first + size →
        passes place = false := by
  induction rounds generalizing first size with
  | zero =>
    refine ⟨.inl rfl, fun place behind inside => ?_⟩
    have : first < place := behind
    omega
  | succ rounds ih =>
    rw [bisect]
    split
    · exact ⟨.inl rfl, fun place behind inside => by omega⟩
    · rename_i several
      have smaller : size - size / 2 ≤ rounds := by omega
      by_cases middle : passes (first + size / 2) = true
      · rw [if_pos middle]
        obtain ⟨here, later⟩ := @ih (first + size / 2) _ smaller
        refine ⟨.inr ?_, fun place behind inside => later place behind (by omega)⟩
        rcases here with same | passed
        · rwa [same]
        · exact passed
      · rw [if_neg middle]
        obtain ⟨here, later⟩ := @ih first _ smaller
        refine ⟨here, fun place behind inside => ?_⟩
        by_cases near : place < first + (size - size / 2)
        · exact later place behind near
        · exact Bool.eq_false_iff.mpr fun passed => middle (falling _ place (by omega) passed)

theorem lt_partitionPoint_iff {test : α → Bool} {items : List α}
    (sorted : items.Pairwise fun early late => test late = true → test early = true) (place : Nat) :
    place < partitionPoint test items ↔ ∃ item, items[place]? = some item ∧ test item = true := by
  have falling : ∀ early late : Nat, early ≤ late → items[late]?.any test = true →
      items[early]?.any test = true := by
    intro early late before passed
    rcases Nat.eq_or_lt_of_le before with rfl | before
    · exact passed
    · obtain ⟨item, found, passes⟩ := (Option.any_eq_true _ _).mp passed
      obtain ⟨inside, rfl⟩ := List.getElem?_eq_some_iff.mp found
      rw [List.getElem?_eq_getElem (Nat.lt_trans before inside)]
      exact List.pairwise_iff_getElem.mp sorted early late _ inside before passes
  obtain ⟨here, later⟩ := @bisect_spec _ falling items.length 0 _ (Nat.le_refl _)
  rw [← Option.any_eq_true, partitionPoint]
  simp only
  split
  · rename_i passed
    refine ⟨fun before => falling place _ (Nat.le_of_lt_succ before) passed, fun passes => ?_⟩
    by_contra behind
    obtain ⟨item, found, -⟩ := (Option.any_eq_true _ _).mp passes
    obtain ⟨inside, -⟩ := List.getElem?_eq_some_iff.mp found
    have failed := later place (by omega) (by omega)
    rw [passes] at failed
    cases failed
  · rename_i failed
    have none := here.resolve_right failed
    rw [none] at failed ⊢
    exact ⟨fun before => absurd before (Nat.not_lt_zero place), fun passes =>
      absurd (falling 0 place (Nat.zero_le place) passes) failed⟩

theorem getLast?_filter_eq_some_iff {test : α → Bool} {items : List α} {item : α} :
    (items.filter test).getLast? = some item ↔ test item = true ∧
      ∃ before after, items = before ++ item :: after ∧ ∀ other ∈ after, test other = false := by
  rw [List.getLast?_filter, List.find?_eq_some_iff_append]
  refine and_congr_right fun _ => ⟨?_, ?_⟩
  · rintro ⟨after, before, parts, none⟩
    refine ⟨before.reverse, after.reverse, ?_, fun other member => ?_⟩
    · have whole := congrArg List.reverse parts
      simpa using whole
    · simpa using none other (List.mem_reverse.mp member)
  · rintro ⟨before, after, rfl, none⟩
    refine ⟨after.reverse, before.reverse, by simp, fun other member => ?_⟩
    simpa using none other (List.mem_reverse.mp member)

end Bisection

namespace Symbols

variable {functions : List Function} {lines : List LineRange} {pc : UInt16} {found : Function}

/-- The function starts at or before the address, none of the others starts between them, and none
that is declared behind it starts where it does. -/
structure IsNearest (functions : List Function) (pc : UInt16) (found : Function) : Prop where
  starts : found.address ≤ pc
  greatest : ∀ function ∈ functions, function.address ≤ pc → function.address ≤ found.address
  last : ∃ before after, functions = before ++ found :: after ∧
    ∀ function ∈ after, function.address ≠ found.address

private theorem ascending_trans (first second third : Function) :
    decide (first.address ≤ second.address) = true →
      decide (second.address ≤ third.address) = true →
        decide (first.address ≤ third.address) = true := by
  simpa using UInt16.le_trans

private theorem ascending_total (first second : Function) :
    (decide (first.address ≤ second.address) || decide (second.address ≤ first.address)) = true := by
  simpa using UInt16.le_total first.address second.address

theorem pairwise_ofDeclarations (functions : List Function) (lines : List LineRange) :
    (ofDeclarations functions lines).functions.Pairwise fun first second =>
      first.address ≤ second.address :=
  (List.pairwise_mergeSort ascending_trans ascending_total functions).imp of_decide_eq_true

theorem mem_ofDeclarations {function : Function} :
    function ∈ (ofDeclarations functions lines).functions ↔ function ∈ functions :=
  List.mem_mergeSort

theorem filter_ofDeclarations (functions : List Function) (lines : List LineRange)
    (address : UInt16) :
    ((ofDeclarations functions lines).functions.filter fun function =>
        function.address == address) =
      functions.filter fun function => function.address == address := by
  have level : (functions.filter fun function => function.address == address).Pairwise
      fun first second => decide (first.address ≤ second.address) = true := by
    refine List.pairwise_of_forall_mem_list fun first one second other => ?_
    rw [List.mem_filter, beq_iff_eq] at one other
    exact decide_eq_true (UInt16.le_of_eq (one.2.trans other.2.symm))
  have kept := (List.sublist_mergeSort ascending_trans ascending_total level
    List.filter_sublist).filter fun function => function.address == address
  rw [List.filter_filter] at kept
  simp only [Bool.and_self] at kept
  have sorted : (ofDeclarations functions lines).functions.Perm functions :=
    List.mergeSort_perm functions _
  have count := (sorted.filter fun function => function.address == address).length_eq
  exact (kept.eq_of_length count.symm).symm

private theorem lt_partitionPoint (functions : List Function) (lines : List LineRange) (pc : UInt16)
    (place : Nat) :
    place < partitionPoint (fun function => decide (function.address ≤ pc))
        (ofDeclarations functions lines).functions ↔
      ∃ function, (ofDeclarations functions lines).functions[place]? = some function ∧
        function.address ≤ pc := by
  rw [lt_partitionPoint_iff]
  · simp only [decide_eq_true_eq]
  · refine (pairwise_ofDeclarations functions lines).imp fun first second => ?_
    exact decide_eq_true (UInt16.le_trans first (of_decide_eq_true second))

theorem mem_of_functionContaining {symbols : Symbols}
    (hit : symbols.functionContaining pc = some found) : found ∈ symbols.functions := by
  rw [functionContaining] at hit
  split at hit
  · cases hit
  · exact List.mem_of_getElem? hit

theorem functionContaining_eq_none_iff :
    (ofDeclarations functions lines).functionContaining pc = none ↔
      ∀ function ∈ functions, pc < function.address := by
  have early := lt_partitionPoint functions lines pc
  rw [functionContaining]
  split
  · rename_i nothing
    refine ⟨fun _ function member => ?_, fun _ => rfl⟩
    obtain ⟨place, there⟩ := List.mem_iff_getElem?.mp (mem_ofDeclarations.mpr member)
    by_contra starts
    have before := (early place).mpr ⟨function, there, UInt16.not_lt.mp starts⟩
    rw [nothing] at before
    exact Nat.not_lt_zero place before
  · rename_i index count
    rw [count] at early
    obtain ⟨function, there, starts⟩ := (early index).mp (Nat.lt_succ_self index)
    have member := mem_ofDeclarations.mp (List.mem_of_getElem? there)
    rw [there]
    exact ⟨nofun, fun late => absurd (late function member) (UInt16.not_lt.mpr starts)⟩

theorem parts_of_functionContaining
    (hit : (ofDeclarations functions lines).functionContaining pc = some found) :
    found.address ≤ pc ∧ ∃ before after,
      (ofDeclarations functions lines).functions = before ++ found :: after ∧
        ∀ function ∈ after, pc < function.address := by
  have early := lt_partitionPoint functions lines pc
  rw [functionContaining] at hit
  split at hit
  · cases hit
  · rename_i index count
    rw [count] at early
    obtain ⟨function, there, starts⟩ := (early index).mp (Nat.lt_succ_self index)
    obtain rfl := Option.some.inj (there.symm.trans hit)
    obtain ⟨inside, same⟩ := List.getElem?_eq_some_iff.mp hit
    refine ⟨starts, (ofDeclarations functions lines).functions.take index,
      (ofDeclarations functions lines).functions.drop (index + 1), ?_, ?_⟩
    · rw [← same, ← List.drop_eq_getElem_cons inside, List.take_append_drop]
    · intro other member
      obtain ⟨further, place⟩ := List.mem_iff_getElem?.mp member
      rw [List.getElem?_drop] at place
      by_contra soon
      have before := (early _).mpr ⟨other, place, UInt16.not_lt.mp soon⟩
      omega

theorem isNearest_of_functionContaining
    (hit : (ofDeclarations functions lines).functionContaining pc = some found) :
    IsNearest functions pc found := by
  obtain ⟨starts, before, after, parts, late⟩ := parts_of_functionContaining hit
  have ascending := pairwise_ofDeclarations functions lines
  rw [parts, List.pairwise_append] at ascending
  refine ⟨starts, ?_, ?_⟩
  · intro function member near
    rw [← @mem_ofDeclarations functions lines, parts, List.mem_append, List.mem_cons] at member
    rcases member with earlier | rfl | later
    · exact ascending.2.2 function earlier found List.mem_cons_self
    · exact UInt16.le_refl _
    · exact absurd near (UInt16.not_le.mpr (late function later))
  · -- Sorting keeps the order of the functions at this address, so their last one stays the last.
    have behind : ∀ function ∈ after, (function.address == found.address) = false := by
      intro function member
      have apart : function.address ≠ found.address := fun same =>
        UInt16.not_le.mpr (late function member) (same ▸ starts)
      simpa using apart
    have last : ((ofDeclarations functions lines).functions.filter fun function =>
        function.address == found.address).getLast? = some found :=
      getLast?_filter_eq_some_iff.mpr ⟨beq_self_eq_true _, before, after, parts, behind⟩
    rw [filter_ofDeclarations] at last
    obtain ⟨-, before, after, declared, apart⟩ := getLast?_filter_eq_some_iff.mp last
    exact ⟨before, after, declared, fun function member => by simpa using apart function member⟩

theorem IsNearest.unique {other : Function} (one : IsNearest functions pc found)
    (second : IsNearest functions pc other) : found = other := by
  have level : found.address = other.address := by
    obtain ⟨before, after, parts, -⟩ := one.last
    obtain ⟨front, back, pieces, -⟩ := second.last
    refine UInt16.le_antisymm (second.greatest found ?_ one.starts)
      (one.greatest other ?_ second.starts)
    · rw [parts]
      exact List.mem_append_right before List.mem_cons_self
    · rw [pieces]
      exact List.mem_append_right front List.mem_cons_self
  have last : ∀ {function : Function}, IsNearest functions pc function →
      (functions.filter fun entry => entry.address == function.address).getLast? =
        some function := by
    intro function nearest
    obtain ⟨before, after, parts, apart⟩ := nearest.last
    exact getLast?_filter_eq_some_iff.mpr ⟨beq_self_eq_true _, before, after, parts,
      fun entry member => by simpa using apart entry member⟩
  have same := last one
  rw [level, last second] at same
  exact (Option.some.inj same).symm

theorem functionContaining_eq_some_iff :
    (ofDeclarations functions lines).functionContaining pc = some found ↔
      IsNearest functions pc found := by
  refine ⟨isNearest_of_functionContaining, fun nearest => ?_⟩
  cases looked : (ofDeclarations functions lines).functionContaining pc with
  | none =>
    obtain ⟨before, after, parts, -⟩ := nearest.last
    have late := functionContaining_eq_none_iff.mp looked found (parts ▸
      List.mem_append_right before List.mem_cons_self)
    exact absurd nearest.starts (UInt16.not_le.mpr late)
  | some other => rw [nearest.unique (isNearest_of_functionContaining looked)]

/-- Looking up an address in a symbol file finds nothing where all functions of the file start behind
it. Otherwise it finds the function with the greatest start that is not behind the address, and of
several functions that start there the one that the file declares last. Any reader may find the
declarations in the file. -/
theorem functionContaining_ofText {declared? : Text → Option Symbols} {text : Text}
    {declared : Symbols} (read : declared? text = some declared) :
    ∃ symbols, ofText? declared? text = some symbols ∧ ∀ pc,
      (symbols.functionContaining pc = none ↔
        ∀ function ∈ declared.functions, pc < function.address) ∧
      ∀ found, symbols.functionContaining pc = some found ↔
        IsNearest declared.functions pc found := by
  refine ⟨ofDeclarations declared.functions declared.lines, ?_, fun pc => ?_⟩
  · rw [ofText?, read]
    rfl
  · exact ⟨functionContaining_eq_none_iff, fun found => functionContaining_eq_some_iff⟩

/-- Three functions out of order, two of them at one address. -/
def shuffled : Symbols where
  functions :=
    [{ name := "helper".toList, address := 0x2100, paramSize := 2 },
      { name := "start".toList, address := 0x2000 },
      { name := "main".toList, address := 0x2000 }]

def shuffledText : Text :=
  "[[functions]]\nname = \"helper\"\naddress = 0x2100\nparam_size = 2\n" ++
    "[[functions]]\nname = \"start\"\naddress = 0x2000\n" ++
    "[[functions]]\nname = \"main\"\naddress = 0x2000\n"

/-- Knows one file. -/
def readShuffled (text : Text) : Option Symbols :=
  if text = shuffledText then some shuffled else none

theorem functionContaining_ofText_shuffled :
    ∃ symbols, ofText? readShuffled shuffledText = some symbols ∧
      symbols.functionContaining 0x1FFF = none ∧
      symbols.functionContaining 0x20FF = some { name := "main".toList, address := 0x2000 } := by
  have read : readShuffled shuffledText = some shuffled := if_pos rfl
  obtain ⟨symbols, built, found⟩ := functionContaining_ofText read
  exact ⟨symbols, built, (found 0x1FFF).1.mpr (by decide),
    ((found 0x20FF).2 _).mpr ⟨by decide, by decide, [_, _], [], rfl, nofun⟩⟩

end Symbols

end RemoteDebugger
