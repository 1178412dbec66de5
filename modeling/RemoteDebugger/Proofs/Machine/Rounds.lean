import Mathlib.Algebra.GroupWithZero.Nat
import Mathlib.Logic.Function.Iterate
import Mathlib.Order.Bounds.Basic
import RemoteDebugger.Proofs.Instruction.Table
import RemoteDebugger.Proofs.Machine.Execution
import RemoteDebugger.Symbols.Basic
import RemoteDebugger.Transport.Simulator

/-!
Rounds of moves. A stepping command lets the machine make moves until it is where the command waits
for it: instructions, until a subroutine has come back, or steps over, until a source line is left.
A round is as many moves as it takes to get there for the first time, and a command is one round
after another.
-/

set_option autoImplicit false

namespace RemoteDebugger

variable {σ : Type} {move : σ → σ} {wanted : σ → Prop} {start : σ} {count : Nat}

/-- So many moves, at least one, lead to a wanted state, and fewer do not. -/
def FirstAfter (move : σ → σ) (wanted : σ → Prop) (start : σ) (count : Nat) : Prop :=
  IsLeast {moves | 1 ≤ moves ∧ wanted (move^[moves] start)} count

namespace FirstAfter

theorem one (here : wanted (move start)) : FirstAfter move wanted start 1 :=
  ⟨⟨Nat.le_refl 1, here⟩, fun _ other => other.1⟩

theorem succ (further : ¬ wanted (move start)) (first : FirstAfter move wanted (move start) count) :
    FirstAfter move wanted start (count + 1) := by
  refine ⟨⟨Nat.succ_pos count, first.1.2⟩, ?_⟩
  rintro moves ⟨some, there⟩
  obtain ⟨rest, rfl⟩ := Nat.exists_eq_succ_of_ne_zero (Nat.ne_of_gt some)
  rcases Nat.eq_zero_or_pos rest with rfl | positive
  · exact absurd there further
  · exact Nat.succ_le_succ (first.2 ⟨positive, there⟩)

theorem eq_one_or (first : FirstAfter move wanted start count) :
    (count = 1 ∧ wanted (move start)) ∨
      ∃ rest, count = rest + 1 ∧ ¬ wanted (move start) ∧
        FirstAfter move wanted (move start) rest := by
  by_cases here : wanted (move start)
  · exact .inl ⟨first.unique (one here), here⟩
  · obtain ⟨rest, rfl⟩ := Nat.exists_eq_succ_of_ne_zero (Nat.ne_of_gt first.1.1)
    have positive : 1 ≤ rest := by
      by_contra none
      obtain rfl : rest = 0 := by omega
      exact here first.1.2
    refine .inr ⟨rest, rfl, here, ⟨positive, first.1.2⟩, ?_⟩
    rintro moves ⟨-, there⟩
    exact Nat.le_of_succ_le_succ (first.2 ⟨Nat.succ_pos moves, there⟩)

end FirstAfter

theorem firstAfter_iff : FirstAfter move wanted start count ↔
    1 ≤ count ∧ wanted (move^[count] start) ∧
      ∀ earlier < count, 1 ≤ earlier → ¬ wanted (move^[earlier] start) := by
  constructor
  · intro first
    refine ⟨first.1.1, first.1.2, fun earlier before some there => ?_⟩
    exact absurd (first.2 ⟨some, there⟩) (Nat.not_le_of_lt before)
  · rintro ⟨some, there, before⟩
    refine ⟨⟨some, there⟩, fun moves other => ?_⟩
    exact Nat.le_of_not_lt fun less => before moves less other.1 other.2

instance [DecidablePred wanted] : Decidable (FirstAfter move wanted start count) :=
  decidable_of_iff _ firstAfter_iff.symm

/-- Rounds made one after another, with the number of moves of each. -/
inductive Rounds (move : σ → σ) (round : σ → Nat → Prop) : σ → List Nat → Prop where
  | none (start : σ) : Rounds move round start []
  | more {start : σ} {moves : Nat} {others : List Nat} (first : round start moves)
      (rest : Rounds move round (move^[moves] start) others) :
      Rounds move round start (moves :: others)

namespace Rounds

variable {round other : σ → Nat → Prop} {counts : List Nat}

theorem imp (weaker : ∀ state moves, round state moves → other state moves)
    (rounds : Rounds move round start counts) : Rounds move other start counts := by
  induction rounds with
  | none start => exact .none start
  | more first rest ih => exact .more (weaker _ _ first) ih

theorem sum_eq_length (rounds : Rounds move (fun _ moves => moves = 1) start counts) :
    counts.sum = counts.length := by
  induction rounds with
  | none start => rfl
  | more first rest ih => rw [List.sum_cons, List.length_cons, first, ih, Nat.add_comm]

end Rounds

theorem iterate_sum_cons (move : σ → σ) (start : σ) (moves : Nat) (others : List Nat) :
    move^[(moves :: others).sum] start = move^[others.sum] (move^[moves] start) := by
  rw [List.sum_cons, Nat.add_comm, Function.iterate_add_apply]

namespace Machine

variable {machine : Machine} {address : UInt16} {steps limit : Nat}

theorem executeUntil_eq_iterate
    (first : FirstAfter execute (fun other => other.registers.pc = address) machine steps)
    (enough : steps ≤ limit) : executeUntil address limit machine = execute^[steps] machine := by
  induction limit generalizing machine steps with
  | zero => exact absurd first.1.1 (by omega)
  | succ limit ih =>
    rw [executeUntil]
    rcases first.eq_one_or with ⟨rfl, here⟩ | ⟨rest, rfl, further, later⟩
    · exact if_pos here
    · simp only [if_neg further]
      exact ih later (by omega)

theorem nextAddress_of_isCall (call : machine.current.isCall = true) :
    machine.current.nextAddress = machine.registers.pc + 3 := by
  have size : machine.current.size = 3 := Opcode.size_of_call (of_decide_eq_true call)
  rw [Instruction.nextAddress, size]
  rfl

/-- How many instructions a step over executes. A call lasts until the program counter is at the
address after it for the first time, whoever has brought it there. -/
def StepsOver (machine : Machine) (steps : Nat) : Prop :=
  if machine.current.isCall then
    FirstAfter execute (fun other => other.registers.pc = machine.registers.pc + 3) machine steps
  else steps = 1

theorem stepsOver_call (call : machine.current.isCall = true) : machine.StepsOver steps ↔
    FirstAfter execute (fun other => other.registers.pc = machine.registers.pc + 3) machine
      steps := by
  rw [StepsOver, if_pos call]

theorem stepsOver_single (plain : ¬ machine.current.isCall = true) :
    machine.StepsOver steps ↔ steps = 1 := by
  rw [StepsOver, if_neg plain]

theorem StepsOver.stepOver_eq (passes : machine.StepsOver steps)
    (enough : steps ≤ Simulator.stepOverLimit) :
    Simulator.stepOver machine = execute^[steps] machine := by
  show (if machine.current.isCall = true then
      executeUntil machine.current.nextAddress Simulator.stepOverLimit machine
    else machine.execute) = _
  by_cases call : machine.current.isCall = true
  · rw [if_pos call, nextAddress_of_isCall call]
    exact executeUntil_eq_iterate ((stepsOver_call call).mp passes) enough
  · rw [if_neg call, (stepsOver_single call).mp passes]
    rfl

theorem stepOver_rounds {counts : List Nat}
    (rounds : Rounds execute (fun other moves => other.StepsOver moves ∧
      moves ≤ Simulator.stepOverLimit) machine counts) :
    Rounds Simulator.stepOver (fun _ moves => moves = 1) machine
        (List.replicate counts.length 1) ∧
      Simulator.stepOver^[counts.length] machine = execute^[counts.sum] machine := by
  induction rounds with
  | none machine => exact ⟨.none machine, rfl⟩
  | more first rest ih =>
    obtain ⟨others, same⟩ := ih
    have once := first.1.stepOver_eq first.2
    rw [List.length_cons, iterate_sum_cons, Function.iterate_succ_apply, once]
    refine ⟨.more rfl ?_, same⟩
    rwa [Function.iterate_one, once]

/-- The call at the program counter has come back after so many instructions: for the first time,
the program counter is behind it with the stack pointer as it was. -/
def ComesBack (machine : Machine) (steps : Nat) : Prop :=
  FirstAfter execute (fun other => other.registers.pc = machine.registers.pc + 3 ∧
    other.registers.sp = machine.registers.sp) machine steps

theorem comesBack_iff (first : FirstAfter execute
      (fun other => other.registers.pc = machine.registers.pc + 3) machine steps) :
    (execute^[steps] machine).registers.sp = machine.registers.sp ↔ machine.ComesBack steps := by
  constructor
  · intro back
    exact ⟨⟨first.1.1, first.1.2, back⟩, fun moves other => first.2 ⟨other.1, other.2.1⟩⟩
  · exact fun back => back.1.2.2

theorem isCall_of_opcode (call : machine.current.opcode = 0x20) :
    machine.current.isCall = true := by
  have entry : machine.current.mnemonic = (Opcode.ofByte machine.current.opcode).mnemonic := rfl
  rw [Instruction.isCall, entry, call]
  rfl

/-- How many of the monitor's own steps over it takes to leave a source line. One is enough where no
line is known. -/
def LeavesLine (lineAt : UInt16 → Option LineRange) (machine : Machine) (moves : Nat) : Prop :=
  match lineAt machine.registers.pc with
  | none => moves = 1
  | some range => FirstAfter Simulator.stepOver
      (fun other => range.contains other.registers.pc = false) machine moves

theorem leavesLine_known {lineAt : UInt16 → Option LineRange} {range : LineRange}
    (known : lineAt machine.registers.pc = some range) : machine.LeavesLine lineAt steps ↔
      FirstAfter Simulator.stepOver (fun other => range.contains other.registers.pc = false)
        machine steps := by
  rw [LeavesLine, known]

theorem leavesLine_unknown {lineAt : UInt16 → Option LineRange}
    (unknown : lineAt machine.registers.pc = none) :
    machine.LeavesLine lineAt steps ↔ steps = 1 := by
  rw [LeavesLine, unknown]

/-- The next instruction is a return, and it finds the stack pointer at a given place. -/
def ReturnsAt (sp : UInt16) (machine : Machine) : Prop :=
  machine.current.isReturn = true ∧ machine.registers.sp = sp

end Machine

end RemoteDebugger
