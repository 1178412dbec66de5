import RemoteDebugger.Proofs.Assembly.Program
import RemoteDebugger.Proofs.Session.Obedience
import RemoteDebugger.Proofs.Session.Preservation
import RemoteDebugger.Proofs.Transport.Range

/-!
One instruction out of the scratch area. On a stopped processor the commands of a one-shot execution
depend on nothing but the settings, the encoding, the program counter and the bytes at the scratch
address. Obeyed to the end they execute that instruction once, and put the program counter and the
bytes back. Nothing is put back if one of them fails: the machine stays as the commands before it
have left it.
-/

set_option autoImplicit false

namespace RemoteDebugger

namespace Machine

variable {machine : Machine} {scratch : UInt16} {code : List UInt8}

/-- The bytes of the view from an address on, so many of them. -/
def bytesAt (machine : Machine) (address : UInt16) (count : Nat) : List UInt8 :=
  (Simulator.window machine (Address.cpu address).physical).bytes.toList.take count

/-- The machine with bytes of code at an address of the view. -/
def coded (machine : Machine) (address : UInt16) (code : List UInt8) : Machine :=
  machine.writeBytes (Address.cpu address).physical code

/-- The machine about to execute bytes of code at an address. -/
def staged (machine : Machine) (address : UInt16) (code : List UInt8) : Machine :=
  (machine.coded address code).jump address

/-- The machine after it has executed an instruction at an address. -/
def executedAt (machine : Machine) (address : UInt16) (code : List UInt8) : Machine :=
  (machine.staged address code).execute

theorem length_bytesAt (machine : Machine) (address : UInt16) {count : Nat} (few : count ≤ 16) :
    (machine.bytesAt address count).length = count := by
  rw [bytesAt, List.length_take, Vector.length_toList, Nat.min_eq_left few]

theorem getD_bytesAt {count index : Nat} (small : index < count) (few : count ≤ 16)
    (fits : scratch.toNat + count ≤ 0x10000) (default : UInt8) :
    (machine.bytesAt scratch count).getD index default =
      machine.byteAt (scratch + UInt16.ofNat index) := by
  have inRange : index < 16 := by omega
  rw [bytesAt, Simulator.toList_window, List.getD_eq_getElem?_getD, List.getElem?_take_of_lt small,
    List.getElem?_map, List.getElem?_range inRange, Option.map_some, Option.getD_some,
    physical_cpu_add (by omega), read_cpu]

theorem coded_registers (machine : Machine) (address : UInt16) (code : List UInt8) :
    (machine.coded address code).registers = machine.registers :=
  writeBytes_registers machine _ code

theorem executedAt_flags (machine : Machine) (address : UInt16) (code : List UInt8) :
    (machine.executedAt address code).registers.flags = machine.registers.flags := by
  have placed := congrArg Registers.flags (machine.coded_registers address code)
  exact (execute_flags _).trans placed

theorem coded_bytesAt (machine other : Machine) (few : code.length ≤ 16)
    (fits : scratch.toNat + code.length ≤ 0x10000) :
    (other.coded scratch (machine.bytesAt scratch code.length)).flat = other.flat ∧
      ∀ address, (other.coded scratch (machine.bytesAt scratch code.length)).byteAt address =
        if (address - scratch).toNat < code.length then machine.byteAt address
        else other.byteAt address := by
  have length := machine.length_bytesAt scratch few
  obtain ⟨flat, bytes⟩ := writeBytes_cpu other scratch (machine.bytesAt scratch code.length)
    (by rwa [length])
  refine ⟨flat, fun address => ?_⟩
  rw [coded, bytes]
  split
  · rename_i inside
    rw [getD_bytesAt inside few fits, ← eq_add_sub]
  · rename_i outside
    rw [List.getD_eq_getElem?_getD, List.getElem?_eq_none (by omega), Option.getD_none]

end Machine

namespace Action

variable {session next : Session} {target final : Simulator} {machine : Machine} {line : Text}
  {encoding : Encoding} {scratch : UInt16} {failure : Failure}

/-- The commands that execute code at an address and put everything back. -/
def executionCommands (machine : Machine) (scratch : UInt16) (code : List UInt8) : List Command :=
  [.write (Address.cpu scratch).physical code, .setPc scratch, .singleStep, .readRegisters,
    .setPc machine.registers.pc,
    .write (Address.cpu scratch).physical (machine.bytesAt scratch code.length)]

/-- The commands before these: those that find out whether the processor is stopped, the one that
stops a processor that seems to run, and the questions for what will be put back. -/
def surveyCommands (config : Config) : List Command :=
  List.replicate config.stopSamples .readRegisters ++
    ((if config.RecognisesStop then [] else [.setRunning false]) ++
      [.readRegisters, .readWindow (Address.cpu config.scratchAddress).physical])

theorem isIdle_of_mem_samples {samples : Nat} {command : Command}
    (member : command ∈ List.replicate samples .readRegisters) : command.IsIdle := by
  rw [List.eq_of_mem_replicate member]
  trivial

theorem isIdle_of_mem_survey {config : Config} {command : Command}
    (member : command ∈ surveyCommands config) : command.IsIdle := by
  rcases List.mem_append.mp member with sample | other
  · exact isIdle_of_mem_samples sample
  · split at other <;> simp only [List.nil_append, List.cons_append, List.mem_cons,
      List.not_mem_nil, or_false] at other
    · rcases other with rfl | rfl <;> trivial
    · rcases other with rfl | rfl | rfl <;> trivial

/-- What has become of the machine when one of the commands behind the first write is lost, with the
command. It is not the question for the registers, which the survey has asked already. -/
def remains (machine : Machine) (scratch : UInt16) (code : List UInt8) :
    List (Command × Machine) :=
  [(.setPc scratch, machine.coded scratch code),
    (.singleStep, machine.staged scratch code),
    (.setPc machine.registers.pc, machine.executedAt scratch code),
    (.write (Address.cpu scratch).physical (machine.bytesAt scratch code.length),
      (machine.executedAt scratch code).jump machine.registers.pc)]

theorem performs_executeAt (occupied : encoding.bytes ≠ []) (few : encoding.bytes.length ≤ 3) :
    (executeAt scratch encoding).Performs session machine
      (.readRegisters :: .readWindow (Address.cpu scratch).physical ::
        executionCommands machine scratch encoding.bytes)
      (machine.executedAt scratch encoding.bytes).registers.shown := by
  have length := machine.length_bytesAt scratch (show encoding.bytes.length ≤ 16 by omega)
  have limit : 3 ≤ Link.writeLimit := by decide
  have kept : machine.bytesAt scratch encoding.bytes.length ≠ [] := by
    rw [← List.length_pos_iff, length]
    exact List.length_pos_iff.mpr occupied
  apply performs_readRegisters.bind_cons
  apply (performs_readWindow _).bind_cons
  apply (performs_writeMemory occupied (few.trans limit)).bind_cons
  rw [Machine.obey_write]
  apply (performs_setPc scratch).bind_cons
  apply performs_singleStep.bind_cons
  apply performs_readRegisters.bind_cons
  apply (performs_setPc machine.registers.pc).bind_cons
  apply (performs_writeMemory kept (length.trans_le (few.trans limit))).bind_cons
  exact performs_pure _

theorem length_encoding {address : UInt16} (made : Encoding.ofLine line address = .ok encoding) :
    0 < encoding.bytes.length ∧ encoding.bytes.length ≤ 3 := by
  obtain ⟨whole, -, -⟩ := Encoding.ofLine_decode made
  rw [whole]
  exact ⟨Mode.size_pos _, Mode.size_le_three _⟩

theorem performs_executeOneShot
    (made : Encoding.ofLine line session.config.scratchAddress = .ok encoding) :
    (executeOneShot line).Performs session machine
      (surveyCommands session.config ++
        executionCommands machine session.config.scratchAddress encoding.bytes)
      (machine.executedAt session.config.scratchAddress encoding.bytes).registers.shown := by
  obtain ⟨occupied, few⟩ := length_encoding made
  have assembled : (assembled line session.config.scratchAddress).Performs session machine []
      encoding := by
    rw [assembled, made]
    exact performs_pure encoding
  have execution := fun machine => @performs_executeAt session machine encoding
    session.config.scratchAddress (List.length_pos_iff.mp occupied) few
  rw [executeOneShot_eq, surveyCommands, List.append_assoc]
  apply performs_get.bind_silent
  apply assembled.bind_silent
  apply performs_isStopped.bind
  rw [Machine.obeying_of_idle fun command => isIdle_of_mem_samples]
  by_cases recognised : session.config.RecognisesStop
  · rw [if_pos recognised, if_pos (decide_eq_true recognised)]
    exact execution machine
  · rw [if_neg recognised, if_neg (by simpa using recognised)]
    exact performs_halt.bind_cons (execution machine)

theorem obeying_executionCommands (machine : Machine) (scratch : UInt16) (code : List UInt8) :
    machine.obeying (executionCommands machine scratch code) =
      ((machine.executedAt scratch code).jump machine.registers.pc).coded scratch
        (machine.bytesAt scratch code.length) := by
  simp only [executionCommands, Machine.obeying_cons, Machine.obeying_nil, Machine.obey_write,
    Machine.obey_setPc, Machine.obey_singleStep, Machine.obey_readRegisters]
  rfl

theorem obeying_of_lost {config : Config} {code : List UInt8} {done rest : List Command}
    {lost : Command} (fresh : lost ∉ done)
    (split : surveyCommands config ++ executionCommands machine scratch code =
      done ++ lost :: rest) :
    (.write (Address.cpu scratch).physical code ∉ done ∧ machine.obeying done = machine) ∨
      (.write (Address.cpu scratch).physical code ∈ done ∧
        (lost, machine.obeying done) ∈ remains machine scratch code) := by
  have unwritten {commands : List Command} (idle : ∀ command ∈ commands, command.IsIdle) :
      .write (Address.cpu scratch).physical code ∉ commands ∧
        machine.obeying commands = machine :=
    ⟨fun member => idle _ member, Machine.obeying_of_idle idle machine⟩
  rcases List.append_eq_append_iff.mp split with ⟨more, rfl, execution⟩ | ⟨left, survey, -⟩
  · cases more with
    | nil =>
      rw [List.append_nil]
      exact .inl (unwritten fun _ => isIdle_of_mem_survey)
    | cons command more =>
      rw [executionCommands, List.cons_append] at execution
      obtain ⟨rfl, later⟩ := List.cons.inj execution
      have met := (machine.coded scratch code).mem_stages more lost rest
      have asked : Command.readRegisters ∈ surveyCommands config := by simp [surveyCommands]
      have first : lost ≠ .readRegisters := by
        rintro rfl
        exact fresh (List.mem_append_left _ asked)
      rw [← later] at met
      refine .inr ⟨List.mem_append_right _ List.mem_cons_self, ?_⟩
      rw [Machine.obeying_append, Machine.obeying_of_idle fun _ => isIdle_of_mem_survey,
        Machine.obeying_cons, Machine.obey_write]
      simp only [Machine.stages, List.mem_cons, List.not_mem_nil, or_false, Prod.mk.injEq,
        first, false_and, false_or] at met
      simp only [remains, List.mem_cons, List.not_mem_nil, or_false, Prod.mk.injEq]
      exact met
  · exact .inl (unwritten fun command member => isIdle_of_mem_survey
      (survey ▸ List.mem_append_left _ member))

/-- Nothing is undone when a one-shot execution fails. Either the code was not written, and nothing
has changed, or the machine is as the first command that fails would have found it. -/
theorem executeOneShot_undoes_nothing (quiet : target.pending = [])
    (stopped : target.running = false)
    (made : Encoding.ofLine line session.config.scratchAddress = .ok encoding)
    (led : (executeOneShot line).through session target = ((.error failure, next), final)) :
    next = session ∧ final.running = false ∧
      ∃ done lost rest,
        surveyCommands session.config ++
          executionCommands target.machine session.config.scratchAddress encoding.bytes =
            done ++ lost :: rest ∧
        (∀ command ∈ done, ¬ command.Fails session target) ∧ lost.Fails session target ∧
        ((.write (Address.cpu session.config.scratchAddress).physical encoding.bytes ∉ done ∧
            final.machine = target.machine) ∨
          (.write (Address.cpu session.config.scratchAddress).physical encoding.bytes ∈ done ∧
            (lost, final.machine) ∈
              remains target.machine session.config.scratchAddress encoding.bytes)) := by
  rcases performs_executeOneShot made target ⟨quiet, stopped, rfl⟩ with
    ⟨after, ended, -⟩ | ⟨cause, done, lost, rest, after, ended, split, sound, fails, halted, left⟩
  · rw [led] at ended
    simp at ended
  · rw [led] at ended
    cases ended
    have fresh : lost ∉ done := fun member => sound lost member fails
    have outcome := obeying_of_lost fresh split
    rw [← left] at outcome
    exact ⟨rfl, halted, done, lost, rest, split, sound, fails, outcome⟩

/-- A stopped monitor that loses the single step. -/
def losingStep : Simulator := { failOn := some Command.singleStep.line }

def loadLine : Text := "lda #$42".toList

theorem ofLine_loadLine :
    Encoding.ofLine loadLine ({} : Config).scratchAddress = .ok ⟨[0xA9, 0x42], 0xA9, .immediate⟩ :=
  Encoding.ofLine_of_toOption (by decide +kernel)

theorem executeOneShot_losingStep :
    ∃ failure next final, (executeOneShot loadLine).through {} losingStep =
        ((.error failure, next), final) ∧
      final.machine.registers.pc = 0x00F0 ∧ final.machine.byteAt 0x00F0 = 0xA9 := by
  obtain ⟨failure, led⟩ := eq_error_of_toOption
    (show ((executeOneShot loadLine).through {} losingStep).1.1.toOption.isNone = true by
      decide +kernel)
  exact ⟨failure, _, _, led, by decide +kernel⟩

theorem executeOneShot_undoes_nothing_step :
    ∃ failure final, (executeOneShot loadLine).through {} losingStep =
        ((.error failure, {}), final) ∧
      final.machine = losingStep.machine.staged 0x00F0 [0xA9, 0x42] := by
  obtain ⟨failure, next, final, led, moved, -⟩ := executeOneShot_losingStep
  obtain ⟨rfl, -, done, lost, rest, -, -, fails, ⟨-, unmoved⟩ | ⟨-, left⟩⟩ :=
    executeOneShot_undoes_nothing rfl rfl ofLine_loadLine led
  · rw [unmoved] at moved
    exact absurd moved (by decide +kernel)
  refine ⟨failure, final, led, ?_⟩
  have taken {command : Command} (silent : command.IsSilent) (other : command.line ≠ []) :
      ¬ command.Fails {} losingStep := by
    intro fails
    exact other (Option.some.inj (silent.fails_iff.mp fails)).symm
  simp only [remains, List.mem_cons, List.not_mem_nil, or_false, Prod.mk.injEq] at left
  rcases left with ⟨rfl, -⟩ | ⟨-, image⟩ | ⟨rfl, -⟩ | ⟨rfl, -⟩
  · exact absurd fails (taken trivial (List.cons_ne_nil _ _))
  · exact image
  · exact absurd fails (taken trivial (List.cons_ne_nil _ _))
  · exact absurd fails (taken trivial (List.cons_ne_nil _ _))

theorem executeOneShot_strays :
    ¬ ∀ (session next : Session) (target final : Simulator) (line : Text) (encoding : Encoding)
      (failure : Failure), target.pending = [] → target.running = false →
      Encoding.ofLine line session.config.scratchAddress = .ok encoding →
      (executeOneShot line).through session target = ((.error failure, next), final) →
      final.machine.registers.pc = target.machine.registers.pc ∧
        ∀ index < encoding.bytes.length,
          final.machine.byteAt (session.config.scratchAddress + UInt16.ofNat index) =
            target.machine.byteAt (session.config.scratchAddress + UInt16.ofNat index) := by
  intro restores
  obtain ⟨failure, next, final, led, moved, written⟩ := executeOneShot_losingStep
  obtain ⟨pc, -⟩ := restores _ _ _ _ _ _ _ rfl rfl ofLine_loadLine led
  rw [moved] at pc
  exact absurd pc (by decide +kernel)

/-- A line that assembles is executed once, as the code at the scratch address. The registers after
it are the answer. Afterwards the program counter and the bytes under the code are the old ones, and
everything else is as that execution has left it. -/
theorem executeOneShot_executes (ready : target.Ready) (stopped : target.running = false)
    (marked : target.machine.registers.flags ≠ [])
    (solid : Text.Solid target.machine.registers.flags)
    (patient : 3 ≤ session.config.linkRetryLimit)
    (made : Encoding.ofLine line session.config.scratchAddress = .ok encoding)
    (fits : session.config.scratchAddress.toNat + encoding.bytes.length ≤ 0x10000) :
    ∃ final, (executeOneShot line).through session target =
        ((.ok (target.machine.executedAt session.config.scratchAddress encoding.bytes).registers,
          session), final) ∧
      final.running = false ∧
      final.machine.registers =
        { (target.machine.executedAt session.config.scratchAddress encoding.bytes).registers with
          pc := target.machine.registers.pc } ∧
      final.machine.flat =
        (target.machine.executedAt session.config.scratchAddress encoding.bytes).flat ∧
      ∀ address, final.machine.byteAt address =
        if (address - session.config.scratchAddress).toNat < encoding.bytes.length then
          target.machine.byteAt address
        else
          (target.machine.executedAt session.config.scratchAddress encoding.bytes).byteAt
            address := by
  obtain ⟨-, few⟩ := length_encoding made
  have words := Text.words_of_solid marked solid
  have legible : session.Legible target.machine :=
    ⟨patient.trans (Nat.le_max_left _ _), words ▸ List.cons_ne_nil _ _⟩
  rcases performs_executeOneShot made target ⟨ready.quiet, stopped, rfl⟩ with
    ⟨final, led, -, paused⟩ | ⟨failure, done, lost, rest, final, -, -, -, fails, -⟩
  · have flags := target.machine.executedAt_flags session.config.scratchAddress encoding.bytes
    have image := paused.holds
    rw [Machine.obeying_append, Machine.obeying_of_idle fun command => isIdle_of_mem_survey,
      obeying_executionCommands] at image
    obtain ⟨flat, bytes⟩ := Machine.coded_bytesAt target.machine
      ((target.machine.executedAt session.config.scratchAddress encoding.bytes).jump
        target.machine.registers.pc) (show encoding.bytes.length ≤ 16 by omega) fits
    refine ⟨final, ?_, paused.stopped, ?_, image ▸ flat, image ▸ bytes⟩
    · rw [led, Registers.shown, flags, words, List.headD_cons, ← flags]
    · rw [image, Machine.coded_registers]
      rfl
  · exact absurd fails (Command.not_fails ready.working legible lost)

/-- A call out of a scratch area that is on the stack. Of the return address, the byte that hits the
area is gone afterwards, and the one below it stays. -/
theorem executeOneShot_executes_call :
    ∃ registers final, (executeOneShot "jsr $1234".toList).through
        { config := { scratchAddress := 0x01FD } } (Simulator.loaded 0x01FD [0x60]) =
          ((.ok registers, { config := { scratchAddress := 0x01FD } }), final) ∧
      registers.pc = 0x1234 ∧ registers.sp = 0x01FB ∧ final.machine.registers.pc = 0x2000 ∧
      final.machine.byteAt 0x01FD = 0x00 ∧ final.machine.byteAt 0x01FC = 0xFF := by
  have made : Encoding.ofLine "jsr $1234".toList 0x01FD =
      .ok ⟨[0x20, 0x34, 0x12], 0x20, .absolute⟩ :=
    Encoding.ofLine_of_toOption (by decide +kernel)
  have plain : (Simulator.loaded 0x01FD [0x60]).machine.registers.flags.all
      (fun c => !Text.isBlank c) = true := by
    decide +kernel
  have solid : Text.Solid (Simulator.loaded 0x01FD [0x60]).machine.registers.flags :=
    fun c member => by simpa using List.all_eq_true.mp plain c member
  obtain ⟨final, led, -, registers, -, bytes⟩ := @executeOneShot_executes
    { config := { scratchAddress := 0x01FD } } (.loaded 0x01FD [0x60]) _ _ ⟨rfl, rfl⟩ rfl
    (by decide +kernel) solid (by decide) made (by decide)
  refine ⟨_, final, led, by decide +kernel, by decide +kernel, ?_, ?_, ?_⟩
  · rw [registers]
    decide +kernel
  · rw [bytes]
    decide +kernel
  · rw [bytes]
    decide +kernel

end Action

end RemoteDebugger
