import RemoteDebugger.Proofs.Machine.Memory

/-!
What one instruction does. Of all instructions only a few do more than move the program counter;
these are the effects. Each stores at known bytes and takes values from known bytes, so memory
elsewhere is kept, and machines that differ elsewhere stay alike.
-/

set_option autoImplicit false

namespace RemoteDebugger

inductive Effect where
  /-- Goes to an address. -/
  | jump (target : UInt16)
  /-- Pushes the address of the call's last byte and goes to an address. -/
  | call (target : UInt16)
  /-- Pulls an address and goes behind it. -/
  | leave
  /-- Pulls a status byte, which is lost, and an address, and goes there. -/
  | resume
  /-- Pushes the accumulator. -/
  | push
  /-- Pulls the accumulator. -/
  | pull
  /-- Sets the accumulator. -/
  | load (value : UInt8)

def Instruction.effect (instruction : Instruction) : Effect :=
  match instruction.opcode, instruction.operand with
  | 0x20, .word target => .call target
  | 0x63, .target target => .call target
  | 0x4C, .word target => .jump target
  | 0x60, _ => .leave
  | 0x40, _ => .resume
  | 0x48, _ => .push
  | 0x68, _ => .pull
  | 0xA9, .byte value => .load value
  | _, _ => .jump instruction.nextAddress

def Registers.noting (registers : Registers) (opcode : UInt8) : Registers :=
  { registers with lastOp := opcode }

namespace Machine

def below (sp : UInt16) : UInt16 := 0x0100 ||| ((sp - 1) &&& 0xFF)

def above (sp : UInt16) : UInt16 := 0x0100 ||| ((sp + 1) &&& 0xFF)

/-- Has an effect on the machine, before the address of the next instruction. -/
def undergo (machine : Machine) (next : UInt16) : Effect → Machine
  | .jump target => machine.jump target
  | .call target => machine.call next target
  | .leave => machine.pullWord.2.jump (machine.pullWord.1 + 1)
  | .resume => machine.pull.2.pullWord.2.jump machine.pull.2.pullWord.1
  | .push => (machine.push machine.registers.a).jump next
  | .pull =>
    { machine.pull.2 with registers :=
        { machine.pull.2.registers with a := machine.pull.1, pc := next } }
  | .load value =>
    { machine with registers := { machine.registers with a := value, pc := next } }

theorem perform_eq_undergo (machine : Machine) (instruction : Instruction) :
    machine.perform instruction = machine.undergo instruction.nextAddress instruction.effect := by
  simp only [perform, Instruction.effect]
  generalize instruction.opcode = opcode
  generalize instruction.operand = operand
  split <;> simp_all [undergo]

end Machine

/-- The bytes that an effect stores, with the stack pointer before it. -/
def Effect.stores (sp : UInt16) : Effect → List UInt16
  | call _ => [sp, Machine.below sp]
  | push => [sp]
  | _ => []

/-- The bytes from which an effect takes a value, with the stack pointer before it. The status byte
that is pulled and lost is not one of them. -/
def Effect.loads (sp : UInt16) : Effect → List UInt16
  | leave => [Machine.above sp, Machine.above (Machine.above sp)]
  | resume =>
    [Machine.above (Machine.above sp), Machine.above (Machine.above (Machine.above sp))]
  | pull => [Machine.above sp]
  | _ => []

namespace Machine

variable {machine : Machine}

def current (machine : Machine) : Instruction := machine.instructionAt machine.registers.pc

def stores (machine : Machine) : List UInt16 :=
  machine.current.effect.stores machine.registers.sp

/-- The bytes from which the next instruction takes a value. -/
def loads (machine : Machine) : List UInt16 :=
  machine.current.effect.loads machine.registers.sp

def noting (machine : Machine) (opcode : UInt8) : Machine :=
  { machine with registers := machine.registers.noting opcode }

theorem execute_eq (machine : Machine) :
    machine.execute = (machine.noting machine.current.opcode).undergo machine.current.nextAddress
      machine.current.effect :=
  perform_eq_undergo _ _

theorem byteAt_undergo (machine : Machine) {effect : Effect} {address : UInt16} (next : UInt16)
    (apart : address ∉ effect.stores machine.registers.sp) :
    (machine.undergo next effect).byteAt address = machine.byteAt address := by
  cases effect with
  | call target =>
    simp only [Effect.stores, List.mem_cons, List.not_mem_nil, or_false, not_or] at apart
    show ((machine.setByte _ _).setByte _ _).byteAt address = _
    rw [byteAt_setByte, byteAt_setByte, if_neg apart.1, if_neg]
    exact apart.2
  | push =>
    simp only [Effect.stores, List.mem_cons, List.not_mem_nil, or_false] at apart
    show (machine.setByte _ _).byteAt address = _
    rw [byteAt_setByte, if_neg apart]
  | _ => rfl

theorem byteAt_execute {address : UInt16} (apart : address ∉ machine.stores) :
    machine.execute.byteAt address = machine.byteAt address := by
  rw [execute_eq]
  exact byteAt_undergo (machine.noting machine.current.opcode) _ apart

theorem execute_flat (machine : Machine) : machine.execute.flat = machine.flat := by
  rw [execute_eq]
  cases machine.current.effect <;> rfl

theorem execute_maph (machine : Machine) :
    machine.execute.registers.maph = machine.registers.maph := by
  rw [execute_eq]
  cases machine.current.effect <;> rfl

theorem execute_flags (machine : Machine) :
    machine.execute.registers.flags = machine.registers.flags := by
  rw [execute_eq]
  cases machine.current.effect <;> rfl

theorem executeUntil_flags (address : UInt16) (limit : Nat) (machine : Machine) :
    (executeUntil address limit machine).registers.flags = machine.registers.flags := by
  induction limit generalizing machine with
  | zero => rfl
  | succ limit ih =>
    simp only [executeUntil]
    split
    · exact execute_flags machine
    · exact (ih machine.execute).trans (execute_flags machine)

/-- Machines with the same registers, up to the last opcode, and the same memory outside an area. -/
structure AgreesOff (area : UInt16 → Prop) (one other : Machine) : Prop where
  registers : other.registers.noting one.registers.lastOp = one.registers
  bytes : ∀ address, ¬ area address → other.byteAt address = one.byteAt address
  flat : other.flat = one.flat

namespace AgreesOff

variable {area : UInt16 → Prop} {one other : Machine}

theorem field {α : Type} (agrees : AgreesOff area one other) {look : Registers → α}
    (blind : ∀ registers opcode, look (registers.noting opcode) = look registers) :
    look other.registers = look one.registers := by
  rw [← agrees.registers, blind]

theorem sp (agrees : AgreesOff area one other) : other.registers.sp = one.registers.sp :=
  agrees.field fun _ _ => rfl

theorem pc (agrees : AgreesOff area one other) : other.registers.pc = one.registers.pc :=
  agrees.field fun _ _ => rfl

theorem withRegisters (agrees : AgreesOff area one other) (change : Registers → Registers)
    (keeps : ∀ registers opcode, change (registers.noting opcode) =
      (change registers).noting opcode) :
    AgreesOff area { one with registers := change one.registers }
      { other with registers := change other.registers } := by
  have kept : (change one.registers).lastOp = one.registers.lastOp := by
    have same := congrArg Registers.lastOp (keeps one.registers one.registers.lastOp)
    exact same
  refine ⟨?_, agrees.bytes, agrees.flat⟩
  show (change other.registers).noting (change one.registers).lastOp = _
  rw [kept, ← keeps, agrees.registers]

theorem setByte (agrees : AgreesOff area one other) (address : UInt16) (value : UInt8) :
    AgreesOff area (one.setByte address value) (other.setByte address value) := by
  refine ⟨agrees.registers, fun third outside => ?_, agrees.flat⟩
  rw [byteAt_setByte, byteAt_setByte, agrees.bytes third outside]

theorem noting (agrees : AgreesOff area one other) (opcode : UInt8) :
    AgreesOff area (one.noting opcode) (other.noting opcode) := by
  have same := congrArg (Registers.noting · opcode) agrees.registers
  exact ⟨same, agrees.bytes, agrees.flat⟩

theorem jump (agrees : AgreesOff area one other) (target : UInt16) :
    AgreesOff area (one.jump target) (other.jump target) :=
  agrees.withRegisters (fun registers => { registers with pc := target })
    fun _ _ => rfl

theorem push (agrees : AgreesOff area one other) (value : UInt8) :
    AgreesOff area (one.push value) (other.push value) := by
  have stored := agrees.setByte one.registers.sp value
  rw [Machine.push, Machine.push, agrees.sp]
  exact stored.withRegisters
    (fun registers => { registers with sp := below registers.sp }) fun _ _ => rfl

theorem raiseStack (agrees : AgreesOff area one other) :
    AgreesOff area one.raiseStack other.raiseStack :=
  agrees.withRegisters (fun registers => { registers with sp := above registers.sp })
    fun _ _ => rfl

theorem pull_fst (agrees : AgreesOff area one other) (outside : ¬ area (above one.registers.sp)) :
    other.pull.1 = one.pull.1 := by
  show other.raiseStack.byteAt (above other.registers.sp) = _
  rw [agrees.sp]
  exact agrees.raiseStack.bytes _ outside

theorem pull_snd (agrees : AgreesOff area one other) : AgreesOff area one.pull.2 other.pull.2 :=
  agrees.raiseStack

theorem pullWord_fst (agrees : AgreesOff area one other)
    (low : ¬ area (above one.registers.sp)) (high : ¬ area (above (above one.registers.sp))) :
    other.pullWord.1 = one.pullWord.1 := by
  show wordOf other.pull.1 other.pull.2.pull.1 = wordOf one.pull.1 one.pull.2.pull.1
  rw [agrees.pull_fst low, agrees.pull_snd.pull_fst high]

theorem pullWord_snd (agrees : AgreesOff area one other) :
    AgreesOff area one.pullWord.2 other.pullWord.2 :=
  agrees.pull_snd.pull_snd

theorem undergo (agrees : AgreesOff area one other) {effect : Effect} (next : UInt16)
    (outside : ∀ address ∈ effect.loads one.registers.sp, ¬ area address) :
    AgreesOff area (one.undergo next effect) (other.undergo next effect) := by
  cases effect with
  | jump target => exact agrees.jump target
  | call target => exact ((agrees.push _).push _).jump target
  | leave =>
    have low := outside (above one.registers.sp) (by simp [Effect.loads])
    have high := outside (above (above one.registers.sp)) (by simp [Effect.loads])
    simp only [Machine.undergo, agrees.pullWord_fst low high]
    exact agrees.pullWord_snd.jump _
  | resume =>
    have low := outside (above (above one.registers.sp)) (by simp [Effect.loads])
    have high := outside (above (above (above one.registers.sp))) (by simp [Effect.loads])
    simp only [Machine.undergo, agrees.pull_snd.pullWord_fst low high]
    exact agrees.pull_snd.pullWord_snd.jump _
  | push =>
    have value : other.registers.a = one.registers.a := agrees.field fun _ _ => rfl
    simp only [Machine.undergo, value]
    exact (agrees.push _).jump next
  | pull =>
    have pulled := outside (above one.registers.sp) (by simp [Effect.loads])
    simp only [Machine.undergo, agrees.pull_fst pulled]
    exact agrees.pull_snd.withRegisters
      (fun registers => { registers with a := one.pull.1, pc := next }) fun _ _ => rfl
  | load value =>
    exact agrees.withRegisters
      (fun registers => { registers with a := value, pc := next }) fun _ _ => rfl

end AgreesOff

end Machine

end RemoteDebugger
