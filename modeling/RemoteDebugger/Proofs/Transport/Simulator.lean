import RemoteDebugger.Link.Range
import RemoteDebugger.Proofs.Link.Exchange
import RemoteDebugger.Proofs.Monitor.Command
import RemoteDebugger.Proofs.Monitor.ValueLine
import RemoteDebugger.Transport.Simulator

/-!
Exchanges with the simulated monitor. A monitor with no reply waiting takes a command, and the
exchange has the command's effect and takes every reply away again. A command without an answer
always succeeds; a question succeeds if the link reads far enough to meet the value line.
-/

set_option autoImplicit false

namespace RemoteDebugger

def Command.IsSilent : Command → Prop
  | readRegisters | readWindow _ | readBulk _ => False
  | _ => True

namespace Simulator

variable {simulator : Simulator} {command : Command} {link : Link}

/-- A register poll whose replies have been taken. -/
def polled (simulator : Simulator) : Simulator := { simulator.poll with pending := [] }

/-- No reply waits and no command fails. -/
structure Ready (simulator : Simulator) : Prop where
  quiet : simulator.pending = []
  working : simulator.failOn = none

theorem Ready.takes (ready : simulator.Ready) (line : Text) : simulator.failOn ≠ some line := by
  rw [ready.working]
  exact Option.some_ne_none line |>.symm

theorem runSlice_pending (count : Nat) (simulator : Simulator) (pending : List Text) :
    runSlice count { simulator with pending } = { runSlice count simulator with pending } := by
  induction count generalizing simulator with
  | zero => rfl
  | succ count ih =>
    simp only [runSlice]
    split
    · rfl
    · split
      · rfl
      · exact ih { simulator with machine := simulator.machine.execute }

theorem elapse_pending (simulator : Simulator) (pending : List Text) :
    elapse { simulator with pending } = { elapse simulator with pending } := by
  simp only [elapse]
  split
  · rfl
  · exact runSlice_pending _ _ _

/-- A property of the simulator that executing an instruction and stopping at the hardware breakpoint
keep is kept by a slice. -/
theorem runSlice_induction (property : Simulator → Prop)
    (executed : ∀ simulator, property simulator → simulator.running = true →
      simulator.breakpoint ≠ some simulator.machine.registers.pc →
        property { simulator with machine := simulator.machine.execute })
    (stopped : ∀ simulator, property simulator →
      simulator.breakpoint = some simulator.machine.registers.pc →
        property { simulator with running := false })
    (count : Nat) {simulator : Simulator} (initial : property simulator) :
    property (runSlice count simulator) := by
  induction count generalizing simulator with
  | zero => exact initial
  | succ count ih =>
    simp only [runSlice]
    split
    · exact initial
    · rename_i runs
      split
      · rename_i here
        exact stopped simulator initial here
      · rename_i apart
        exact ih (executed simulator initial (by simpa using runs) apart)

theorem elapse_induction (property : Simulator → Prop)
    (executed : ∀ simulator, property simulator → simulator.running = true →
      simulator.breakpoint ≠ some simulator.machine.registers.pc →
        property { simulator with machine := simulator.machine.execute })
    (stopped : ∀ simulator, property simulator →
      simulator.breakpoint = some simulator.machine.registers.pc →
        property { simulator with running := false })
    {simulator : Simulator} (initial : property simulator) : property simulator.elapse := by
  rw [elapse]
  split
  · exact initial
  · exact runSlice_induction property executed stopped _ initial

theorem elapse_of_stopped (stopped : simulator.running = false) : simulator.elapse = simulator := by
  rw [elapse]
  split
  · rfl
  · cases simulator.instructionsPerPoll with
    | zero => rfl
    | succ count => simp [runSlice, stopped]

theorem elapse_failOn (simulator : Simulator) : simulator.elapse.failOn = simulator.failOn :=
  elapse_induction (fun other => other.failOn = simulator.failOn)
    (fun _ same _ _ => same) (fun _ same _ => same) rfl

@[simp] theorem polled_machine (simulator : Simulator) :
    simulator.polled.machine = simulator.elapse.machine := rfl

@[simp] theorem polled_running (simulator : Simulator) :
    simulator.polled.running = simulator.elapse.running := rfl

theorem Ready.polled (ready : simulator.Ready) : simulator.polled.Ready :=
  ⟨rfl, (elapse_failOn simulator).trans ready.working⟩

theorem handle_failOn (simulator : Simulator) (command : Command) :
    (simulator.handle command).failOn = simulator.failOn := by
  cases command with
  | readRegisters => exact elapse_failOn simulator
  | _ => rfl

theorem obey_failOn (simulator : Simulator) (line : Text) :
    (simulator.obey line).failOn = simulator.failOn := by
  rw [obey]
  split
  · exact handle_failOn _ _
  · rfl

theorem send_failOn (simulator : Simulator) (line : Text) :
    (simulator.send line).2.failOn = simulator.failOn := by
  have checked : (if simulator.pending.isEmpty then simulator
      else simulator.note (.undrained line)).failOn = simulator.failOn := by
    split <;> rfl
  simp only [send]
  generalize (if simulator.pending.isEmpty then simulator
    else simulator.note (.undrained line)) = noted at checked ⊢
  split
  · exact checked
  · exact (obey_failOn _ _).trans checked

theorem through_failOn {α : Type} (dialogue : Dialogue α) (simulator : Simulator) :
    (dialogue.through simulator).2.failOn = simulator.failOn := by
  induction dialogue generalizing simulator with
  | done value => rfl
  | send line next ih => exact (ih _ _).trans (send_failOn simulator line)
  | receive next ih =>
    refine (ih _ _).trans ?_
    show simulator.receive.2.failOn = _
    rw [receive]
    split <;> rfl
  | pause milliseconds next ih => exact ih _
  | interrupted next ih => exact ih _ _

theorem send_line (quiet : simulator.pending = [])
    (working : simulator.failOn ≠ some command.line) :
    Transport.send simulator command.line =
      (.ok (), { simulator with pending := [command.line] }.handle command.cut) := by
  show simulator.send command.line = _
  have checked : (if simulator.pending.isEmpty then simulator
      else simulator.note (.undrained command.line)) = simulator := by
    rw [quiet]
    rfl
  have echoed : simulator.reply [command.line] =
      { simulator with pending := [command.line] } := by
    rw [reply, quiet]
    rfl
  rw [send]
  simp only [checked, if_neg working, obey, Command.ofLine?_line, echoed]

theorem send_failing (quiet : simulator.pending = []) {line : Text}
    (failing : simulator.failOn = some line) :
    Transport.send simulator line = (.error lost, simulator) := by
  show simulator.send line = _
  have checked : (if simulator.pending.isEmpty then simulator
      else simulator.note (.undrained line)) = simulator := by
    rw [quiet]
    rfl
  rw [send]
  simp only [checked, if_pos failing]

theorem receive_nil (quiet : simulator.pending = []) :
    Transport.receive simulator = (.ok none, simulator) := by
  show simulator.receive = _
  rw [receive, quiet]

theorem receive_cons (simulator : Simulator) (line : Text) (others : List Text) :
    Transport.receive { simulator with pending := line :: others } =
      (.ok (some line), { simulator with pending := others }) :=
  rfl

theorem through_ask {α : Type} {read? : Text → Option α} (quiet : simulator.pending = [])
    (working : simulator.failOn ≠ some command.line) :
    (link.ask command read?).through simulator =
      (link.await command read?).through
        ({ simulator with pending := [command.line] }.handle command.cut) := by
  rw [Link.ask, Exchange.through_bind, Exchange.through_send, send_line quiet working]
  rfl

theorem through_ask_failing {α : Type} {read? : Text → Option α} (quiet : simulator.pending = [])
    (failing : simulator.failOn = some command.line) :
    (link.ask command read?).through simulator = (.error (.io lost), simulator) := by
  rw [Link.ask, Exchange.through_bind, Exchange.through_send, send_failing quiet failing]
  rfl

theorem through_awaitWithin_of_quiet {α : Type} {read? : Text → Option α} {line : Text}
    (quiet : simulator.pending = []) (count : Nat) :
    (link.awaitWithin line read? count).through simulator =
      (.error (.timeout line link.reads), simulator) := by
  induction count with
  | zero => rfl
  | succ count ih => rw [Link.through_awaitWithin_of_none (receive_nil quiet), ih]

theorem through_awaitWithin_snd {α : Type} (link : Link) (line : Text) (read? : Text → Option α)
    (count : Nat) (simulator : Simulator) :
    ∃ pending, ((link.awaitWithin line read? count).through simulator).2 =
      { simulator with pending } := by
  induction count generalizing simulator with
  | zero => exact ⟨simulator.pending, rfl⟩
  | succ count ih =>
    cases waiting : simulator.pending with
    | nil =>
      rw [Link.through_awaitWithin_of_none (receive_nil waiting)]
      exact ih simulator
    | cons first others =>
      have received : Transport.receive simulator =
          (.ok (some first), { simulator with pending := others }) := by
        show simulator.receive = _
        rw [receive, waiting]
      cases read : read? first with
      | none =>
        rw [Link.through_awaitWithin_of_skipped received read]
        obtain ⟨pending, taken⟩ := ih { simulator with pending := others }
        exact ⟨pending, taken⟩
      | some answer =>
        rw [Link.through_awaitWithin_of_read received read]
        exact ⟨others, rfl⟩

/-- What a command keeps of the monitor, whichever replies wait, holds after a question with it,
whatever comes of the question. -/
theorem ask_induction {α : Type} {read? : Text → Option α} (property : Simulator → Prop)
    (replied : ∀ simulator pending, property simulator → property { simulator with pending })
    (handled : ∀ simulator, property simulator → property (simulator.handle command.cut))
    (quiet : simulator.pending = []) (initial : property simulator) :
    property ((link.ask command read?).through simulator).2 := by
  by_cases failing : simulator.failOn = some command.line
  · rw [through_ask_failing quiet failing]
    exact initial
  · rw [through_ask quiet failing]
    obtain ⟨pending, taken⟩ := through_awaitWithin_snd link command.line read? link.reads
      ({ simulator with pending := [command.line] }.handle command.cut)
    rw [Link.await, taken]
    exact replied _ _ (handled _ (replied _ _ initial))

theorem through_tell (link : Link) (silent : command.IsSilent) (quiet : simulator.pending = [])
    (working : simulator.failOn ≠ some command.line) :
    (link.tell command).through simulator = (.ok (), simulator.handle command.cut) := by
  have received : Transport.receive ({ simulator with pending := [command.line] }.handle
      command.cut) = (.ok (some command.line), simulator.handle command.cut) := by
    cases simulator
    subst quiet
    cases command <;> first | exact silent.elim | rfl
  rw [Link.tell, through_ask quiet working]
  exact Link.through_await_of_read received rfl

theorem through_tell_eq_or (link : Link) (silent : command.IsSilent)
    (quiet : simulator.pending = []) :
    (simulator.failOn = some command.line ∧
        (link.tell command).through simulator = (.error (.io lost), simulator)) ∨
      (simulator.failOn ≠ some command.line ∧
        (link.tell command).through simulator = (.ok (), simulator.handle command.cut)) := by
  by_cases failing : simulator.failOn = some command.line
  · exact .inl ⟨failing, through_ask_failing quiet failing⟩
  · exact .inr ⟨failing, through_tell link silent quiet failing⟩

private theorem through_awaitWithin_of_found {α : Type} {read? : Text → Option α}
    {line value : Text} {answer : α} (read : read? value = some answer) {skipped : List Text}
    (unusable : ∀ other ∈ skipped, read? other = none) (others : List Text) (count : Nat) :
    (link.awaitWithin line read? count).through
        { simulator with pending := skipped ++ value :: others } =
      if skipped.length < count then (.ok answer, { simulator with pending := others })
      else (.error (.timeout line link.reads),
        { simulator with pending := (skipped ++ value :: others).drop count }) := by
  induction skipped generalizing count with
  | nil =>
    cases count with
    | zero => rfl
    | succ count => exact Link.through_awaitWithin_of_read (receive_cons _ _ _) read
  | cons first skipped ih =>
    cases count with
    | zero => rfl
    | succ count =>
      have later := ih (fun other member => unusable other (List.mem_cons_of_mem _ member)) count
      rw [List.cons_append, Link.through_awaitWithin_of_skipped (receive_cons _ _ _)
        (unusable first List.mem_cons_self), later]
      simp only [List.length_cons, Nat.add_lt_add_iff_right, List.drop_succ_cons]

private theorem through_awaitWithin_of_unusable {α : Type} {read? : Text → Option α} {line : Text}
    {skipped : List Text} (unusable : ∀ other ∈ skipped, read? other = none) (count : Nat) :
    (link.awaitWithin line read? count).through { simulator with pending := skipped } =
      (.error (.timeout line link.reads),
        { simulator with pending := skipped.drop count }) := by
  induction skipped generalizing count with
  | nil => rw [through_awaitWithin_of_quiet rfl, List.drop_nil]
  | cons first skipped ih =>
    cases count with
    | zero => rfl
    | succ count =>
      rw [Link.through_awaitWithin_of_skipped (receive_cons _ _ _)
        (unusable first List.mem_cons_self), List.drop_succ_cons]
      exact ih (fun other member => unusable other (List.mem_cons_of_mem _ member)) count

/-- The echo of a question for memory is a letter with digits, so it is no memory line. -/
private theorem echo_not_window {letter : Char} (printed : Text.isBlank letter = false)
    (other : letter ≠ ':') (width number : Nat) :
    Window.ofLine? (letter :: Text.hex width number) = none :=
  Window.ofLine?_of_solid (Text.solid_cons.mpr ⟨printed, Text.solid_hex width number⟩) other

theorem through_readWindow {address : Address} (quiet : simulator.pending = [])
    (working : simulator.failOn ≠ some (Command.readWindow address.physical).line) :
    (link.readWindow address).through simulator =
      if 2 ≤ link.reads then (.ok (window simulator.machine address.physical), simulator)
      else (.error (.timeout (Command.readWindow address.physical).line link.reads),
        { simulator with pending := [(window simulator.machine address.physical).line] }) := by
  have answered : { simulator with pending := [(Command.readWindow address.physical).line] }.handle
      (Command.readWindow address.physical).cut = { simulator with
        pending := [(Command.readWindow address.physical).line] ++
          [(window simulator.machine address.physical).line] } := by
    rw [Command.cut, Address.physical_and_mask]
    rfl
  rw [Link.readWindow, through_ask quiet working, Link.await, answered,
    through_awaitWithin_of_found (Window.ofLine?_line _)]
  · have whole : { simulator with pending := [] } = simulator := by rw [← quiet]
    split
    · rw [if_pos (by assumption), whole]
    · rename_i few
      have one : link.reads = 1 := by
        have := link.reads_pos
        simp only [List.length_cons, List.length_nil] at few
        omega
      rw [if_neg (by omega), one]
      rfl
  · intro other member
    rw [List.mem_singleton.mp member]
    exact echo_not_window (by decide) (by decide) _ _

/-- The rows of a bulk read, one window after another. -/
def bulk (machine : Machine) (physical : UInt32) : List Window :=
  (List.range 16).map fun row => window machine (physical + UInt32.ofNat (16 * row))

private theorem through_bulkLines {indices : List Nat} {windows : List Window}
    (enough : indices.length = windows.length) :
    (link.bulkLines command indices).through
        { simulator with pending := windows.map Window.line } =
      (.ok windows, { simulator with pending := [] }) := by
  induction indices generalizing windows with
  | nil =>
    rw [List.length_nil] at enough
    rw [List.eq_nil_of_length_eq_zero enough.symm]
    rfl
  | cons index indices ih =>
    cases windows with
    | nil => exact absurd enough (by simp)
    | cons first windows =>
      have awaited : (link.await command some).through
          { simulator with pending := (first :: windows).map Window.line } =
          (.ok first.line, { simulator with pending := windows.map Window.line }) :=
        Link.through_await_of_read (receive_cons _ _ _) rfl
      have later := ih (Nat.succ.inj enough)
      rw [Link.bulkLines, Exchange.through_bind_of_ok awaited]
      simp only [Window.ofLine?_line]
      rw [Exchange.through_bind_of_ok later]
      rfl

theorem through_readBulk {address : Address} (quiet : simulator.pending = [])
    (working : simulator.failOn ≠ some (Command.readBulk address.physical).line)
    (patient : 2 ≤ link.reads) :
    (link.readBulk address).through simulator =
      (.ok (bulk simulator.machine address.physical), simulator) := by
  have answered : { simulator with pending := [(Command.readBulk address.physical).line] }.handle
      (Command.readBulk address.physical).cut = { simulator with
        pending := [(Command.readBulk address.physical).line] ++
          (bulk simulator.machine address.physical).map Window.line } := by
    rw [Command.cut, Address.physical_and_mask, bulk, List.map_map]
    rfl
  have rows : bulk simulator.machine address.physical =
      window simulator.machine address.physical ::
        (List.range' 1 15).map fun row => window simulator.machine
          (address.physical + UInt32.ofNat (16 * row)) := by
    rw [bulk, List.range_eq_range', List.range'_succ, List.map_cons]
    rw [show address.physical + UInt32.ofNat (16 * 0) = address.physical from UInt32.add_zero _]
  have first : (link.ask (.readBulk address.physical) Window.ofLine?).through simulator =
      (.ok (window simulator.machine address.physical), { simulator with
        pending := ((List.range' 1 15).map fun row => window simulator.machine
          (address.physical + UInt32.ofNat (16 * row))).map Window.line }) := by
    rw [through_ask quiet working, Link.await, answered, rows, List.map_cons,
      through_awaitWithin_of_found (Window.ofLine?_line _)]
    · rw [if_pos (by exact patient)]
    · intro other member
      rw [List.mem_singleton.mp member]
      exact echo_not_window (by decide) (by decide) _ _
  have whole : { simulator with pending := [] } = simulator := by rw [← quiet]
  rw [Link.readBulk, Exchange.through_bind_of_ok first,
    Exchange.through_bind_of_ok (through_bulkLines (by rw [List.length_map])), whole, rows]
  rfl

theorem readBulk_eq_ok {address : Address} {read : List Window} {after : Simulator}
    (quiet : simulator.pending = [])
    (led : (link.readBulk address).through simulator = (.ok read, after)) :
    after = simulator ∧ read = bulk simulator.machine address.physical := by
  by_cases failing : simulator.failOn = some (Command.readBulk address.physical).line
  · rw [Link.readBulk, Exchange.through_bind, through_ask_failing quiet failing] at led
    simp at led
  · by_cases patient : 2 ≤ link.reads
    · rw [through_readBulk quiet failing patient] at led
      simp only [Prod.mk.injEq, Except.ok.injEq] at led
      exact ⟨led.2.symm, led.1.symm⟩
    · have one : link.reads = 1 := by
        have := link.reads_pos
        omega
      have echoed : Window.ofLine? (Command.readBulk address.physical).line = none :=
        echo_not_window (by decide) (by decide) _ _
      -- The only read meets the echo.
      have waiting : ∃ others, { simulator with
          pending := [(Command.readBulk address.physical).line] }.handle
            (Command.readBulk address.physical).cut = { simulator with
          pending := (Command.readBulk address.physical).line :: others } := ⟨_, rfl⟩
      obtain ⟨others, answered⟩ := waiting
      rw [Link.readBulk, Exchange.through_bind, through_ask quiet failing, Link.await, answered, one,
        Link.through_awaitWithin_of_skipped (receive_cons _ _ _) echoed, Link.awaitWithin] at led
      simp at led

private theorem handle_readRegisters (pending : List Text) :
    { simulator with pending }.handle Command.readRegisters.cut = { simulator.polled with
      pending := pending ++ [Registers.header, simulator.polled.machine.registers.line] } := by
  show ({ simulator with pending } : Simulator).poll = _
  simp only [poll, elapse_pending]
  rfl

private theorem registers_unusable :
    ∀ other ∈ [Command.readRegisters.line, Registers.header],
      Registers.ofLine? other = none := by
  intro other member
  simp only [List.mem_cons, List.not_mem_nil, or_false] at member
  rcases member with rfl | rfl
  · rfl
  · exact Registers.ofLine?_header

theorem through_readRegisters {flags : Text} (quiet : simulator.pending = [])
    (working : simulator.failOn ≠ some Command.readRegisters.line)
    (shown : (Text.words simulator.polled.machine.registers.flags).head? = some flags) :
    link.readRegisters.through simulator =
      if 3 ≤ link.reads then
        (.ok { simulator.polled.machine.registers with flags }, simulator.polled)
      else (.error (.timeout Command.readRegisters.line link.reads),
        { simulator.polled with pending := [Command.readRegisters.line, Registers.header,
            simulator.polled.machine.registers.line].drop link.reads }) := by
  have read := Registers.ofLine?_line simulator.polled.machine.registers
  rw [shown, Option.map_some] at read
  rw [Link.readRegisters, through_ask quiet working, Link.await, handle_readRegisters]
  exact through_awaitWithin_of_found read registers_unusable [] link.reads

theorem through_readRegisters_of_blank (quiet : simulator.pending = [])
    (working : simulator.failOn ≠ some Command.readRegisters.line)
    (blank : Text.words simulator.polled.machine.registers.flags = []) :
    link.readRegisters.through simulator =
      (.error (.timeout Command.readRegisters.line link.reads),
        { simulator.polled with pending := [Command.readRegisters.line, Registers.header,
            simulator.polled.machine.registers.line].drop link.reads }) := by
  have unread := Registers.ofLine?_line simulator.polled.machine.registers
  rw [blank, List.head?_nil, Option.map_none] at unread
  rw [Link.readRegisters, through_ask quiet working, Link.await, handle_readRegisters]
  apply through_awaitWithin_of_unusable
  intro other member
  rcases List.mem_append.mp member with echo | reply
  · exact registers_unusable other (List.mem_cons.mpr (.inl (List.mem_singleton.mp echo)))
  · simp only [List.mem_cons, List.not_mem_nil, or_false] at reply
    rcases reply with rfl | rfl
    · exact Registers.ofLine?_header
    · exact unread

theorem readRegisters_eq_ok {registers : Registers} {after : Simulator}
    (quiet : simulator.pending = [])
    (read : link.readRegisters.through simulator = (.ok registers, after)) :
    after = simulator.polled ∧
      registers = { simulator.polled.machine.registers with flags := registers.flags } := by
  by_cases failing : simulator.failOn = some Command.readRegisters.line
  · rw [Link.readRegisters, through_ask_failing quiet failing] at read
    simp at read
  · cases shown : Text.words simulator.polled.machine.registers.flags with
    | nil =>
      rw [through_readRegisters_of_blank quiet failing shown] at read
      simp at read
    | cons flags others =>
      rw [through_readRegisters quiet failing (congrArg List.head? shown)] at read
      split at read
      · simp only [Prod.mk.injEq, Except.ok.injEq] at read
        obtain ⟨rfl, rfl⟩ := read
        exact ⟨rfl, rfl⟩
      · simp at read

theorem readWindow_eq_ok {address : Address} {read : Window} {after : Simulator}
    (quiet : simulator.pending = [])
    (led : (link.readWindow address).through simulator = (.ok read, after)) :
    after = simulator ∧ read = window simulator.machine address.physical := by
  by_cases failing : simulator.failOn = some (Command.readWindow address.physical).line
  · rw [Link.readWindow, through_ask_failing quiet failing] at led
    simp at led
  · rw [through_readWindow quiet failing] at led
    split at led
    · simp only [Prod.mk.injEq, Except.ok.injEq] at led
      exact ⟨led.2.symm, led.1.symm⟩
    · simp at led

end Simulator

end RemoteDebugger
