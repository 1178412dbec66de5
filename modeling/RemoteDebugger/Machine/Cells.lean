/-!
Memory cells. A store is a tree that branches on the bits of an address from the highest one down,
so that reading and writing take as many steps as an address has bits. Cells that were never
written hold zero.
-/

set_option autoImplicit false

namespace RemoteDebugger

inductive Cells where
  | blank
  | cell (value : UInt8)
  | fork (low high : Cells)
  deriving DecidableEq, Repr

namespace Cells

def read : Nat → Cells → Nat → UInt8
  | 0, cell value, _ => value
  | bits + 1, fork low high, address =>
    if address.testBit bits then read bits high address else read bits low address
  | _, _, _ => 0

/-- Both branches of a store; those of a blank one are blank. -/
def branches : Cells → Cells × Cells
  | fork low high => (low, high)
  | _ => (blank, blank)

def write : Nat → Cells → Nat → UInt8 → Cells
  | 0, _, _, value => cell value
  | bits + 1, cells, address, value =>
    let (low, high) := cells.branches
    if address.testBit bits then fork low (write bits high address value)
    else fork (write bits low address value) high

theorem read_blank (bits address : Nat) : read bits blank address = 0 := by
  cases bits <;> rfl

theorem read_succ (bits : Nat) (cells : Cells) (address : Nat) :
    read (bits + 1) cells address =
      if address.testBit bits then read bits cells.branches.2 address
      else read bits cells.branches.1 address := by
  cases cells with
  | blank => simp [read, branches, read_blank]
  | cell value => simp [read, branches, read_blank]
  | fork low high => rfl

theorem read_write (bits : Nat) (cells : Cells) (written address : Nat) (value : UInt8) :
    read bits (write bits cells written value) address =
      if ∀ i < bits, address.testBit i = written.testBit i then value
      else read bits cells address := by
  induction bits generalizing cells with
  | zero => simp [write, read]
  | succ bits ih =>
    rw [read_succ bits cells]
    simp only [write]
    cases there : written.testBit bits <;> cases here : address.testBit bits
    · have same : (∀ i < bits + 1, address.testBit i = written.testBit i) ↔
          ∀ i < bits, address.testBit i = written.testBit i := by
        constructor
        · intro all i small
          exact all i (by omega)
        · intro all i small
          rcases Nat.lt_succ_iff_lt_or_eq.mp small with below | rfl
          · exact all i below
          · rw [here, there]
      simp only [same]
      simp [read, here, ih]
    · have other : ¬ ∀ i < bits + 1, address.testBit i = written.testBit i := by
        intro all
        have := all bits (Nat.lt_succ_self _)
        rw [here, there] at this
        exact absurd this (by decide)
      rw [if_neg other]
      simp [read, here]
    · have other : ¬ ∀ i < bits + 1, address.testBit i = written.testBit i := by
        intro all
        have := all bits (Nat.lt_succ_self _)
        rw [here, there] at this
        exact absurd this (by decide)
      rw [if_neg other]
      simp [read, here]
    · have same : (∀ i < bits + 1, address.testBit i = written.testBit i) ↔
          ∀ i < bits, address.testBit i = written.testBit i := by
        constructor
        · intro all i small
          exact all i (by omega)
        · intro all i small
          rcases Nat.lt_succ_iff_lt_or_eq.mp small with below | rfl
          · exact all i below
          · rw [here, there]
      simp only [same]
      simp [read, here, ih]

theorem read_write_of_lt {bits written address : Nat} (cells : Cells) (value : UInt8)
    (writtenSmall : written < 1 <<< bits) (addressSmall : address < 1 <<< bits) :
    read bits (write bits cells written value) address =
      if address = written then value else read bits cells address := by
  rw [Nat.one_shiftLeft] at writtenSmall addressSmall
  have same : (∀ i < bits, address.testBit i = written.testBit i) ↔ address = written := by
    constructor
    · intro all
      apply Nat.eq_of_testBit_eq
      intro i
      by_cases small : i < bits
      · exact all i small
      · have large : 2 ^ bits ≤ 2 ^ i := Nat.pow_le_pow_right (by decide) (by omega)
        rw [Nat.testBit_lt_two_pow (by omega), Nat.testBit_lt_two_pow (by omega)]
    · rintro rfl i _
      rfl
  rw [read_write]
  simp only [same]

end Cells

end RemoteDebugger
