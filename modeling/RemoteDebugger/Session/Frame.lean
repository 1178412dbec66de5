import RemoteDebugger.Instruction.Basic

/-!
Frames of the call stack and the cursor that selects one of them. Frame 0 is the program counter;
the others are guesses from the words above the stack pointer.
-/

set_option autoImplicit false

namespace RemoteDebugger

structure Frame where
  index : Nat
  address : UInt16
  instruction : Instruction
  deriving DecidableEq, Repr

/-- Towards the program counter, or towards the callers. -/
inductive FrameDirection where
  | up
  | down
  deriving DecidableEq, Repr

inductive FrameMove where
  | moved (index : Nat)
  | atBoundary (index : Nat)
  deriving DecidableEq, Repr

def FrameMove.message : FrameMove → String
  | .moved index => s!"frame #{index}"
  | .atBoundary 0 => "Already at highest frame"
  | .atBoundary index => s!"Already at lowest frame (#{index})"

def FrameMove.index : FrameMove → Nat
  | .moved index | .atBoundary index => index

structure FrameCursor where
  index : Nat := 0
  deriving DecidableEq, Repr

namespace FrameCursor

/-- How many frames are looked for above the program counter. -/
def limit : Nat := 8

/-- Moves by one frame, unless the cursor is at that end. -/
def move (cursor : FrameCursor) : FrameDirection → FrameMove × FrameCursor
  | .up =>
    match cursor.index with
    | 0 => (.atBoundary 0, cursor)
    | index + 1 => (.moved index, ⟨index⟩)
  | .down =>
    if cursor.index = limit then (.atBoundary limit, cursor)
    else (.moved (cursor.index + 1), ⟨cursor.index + 1⟩)

/-- A cursor moved down so many times from the first frame. -/
def descended (count : Nat) : FrameCursor := ⟨min count limit⟩

theorem move_down_descended (count : Nat) :
    ((descended count).move .down).2 = descended (count + 1) := by
  unfold move descended
  by_cases full : limit ≤ count
  · have first : min count limit = limit := Nat.min_eq_right full
    have second : min (count + 1) limit = limit := Nat.min_eq_right (by omega)
    simp [first, second]
  · have first : min count limit = count := Nat.min_eq_left (by omega)
    have second : min (count + 1) limit = count + 1 := Nat.min_eq_left (by omega)
    have other : count ≠ limit := by omega
    simp [first, second, other]

end FrameCursor

end RemoteDebugger
