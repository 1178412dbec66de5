import RemoteDebugger.Link.Basic
import RemoteDebugger.Proofs.Link.Exchange
import RemoteDebugger.Proofs.Transport.Stream

/-!
Noise on a stream. A read that waits for a value goes through the lines of the stream one by one. A
text that is no such value is skipped, but a line that is no text at all ends the read: it is
reported as a failure of the device, although the device works and the value may be the next line.
-/

set_option autoImplicit false

namespace RemoteDebugger.Stream

variable {α : Type}

/-- The device neither gives up waiting nor fails. -/
def Calm (incoming : List Delivery) : Prop :=
  ∀ kind fault, .fault kind fault ∈ incoming → kind = .passing

/-- The value that the bytes of a line have, if they are text and can be read. -/
def lineValue? (read? : Text → Option α) (line : List UInt8) : Option α :=
  (lineAnswer line).toOption.bind read?

/-- What a line decides for a read that waits for such a value. -/
def verdict? (read? : Text → Option α) (line : List UInt8) : Option (Except LinkError α) :=
  match lineAnswer line with
  | .ok text => (read? text).map .ok
  | .error fault => some (.error (.io fault))

/-- The stream takes a command and then brings a value, after lines that do not have one. The device
is calm, and there are fewer such lines than a read may take. -/
structure Noisy (link : Link) (command : Command) (read? : Text → Option α) (stream : Stream)
    (junk : List (List UInt8)) (value : α) : Prop where
  takes : (Transport.send stream command.line).1 = .ok ()
  calm : Calm stream.incoming
  few : junk.length < link.reads
  noise : ∀ line ∈ junk, lineValue? read? line = none
  arrives : ∃ line others, stream.lines = junk ++ line :: others ∧
    lineValue? read? line = some value

theorem Calm.steady {incoming : List Delivery} (calm : Calm incoming) : Steady incoming :=
  fun fault member => nomatch calm .broken fault member

section Reading

variable {stream : Stream}

theorem collect_of_calm {incoming : List Delivery} (calm : Calm incoming) (seen : List UInt8) :
    ∃ bytes, (collect seen incoming).1 = .line bytes := by
  rcases cut : (collect seen incoming).1 with bytes | ⟨kind, fault⟩
  · exact ⟨bytes, rfl⟩
  · obtain ⟨heavy, member⟩ := mem_of_collect_fault _ _ cut
    exact absurd (calm kind fault member) heavy

theorem collect_of_line_nil {seen : List UInt8} {incoming : List Delivery}
    (blank : (collect seen incoming).1 = .line []) : (collect seen incoming).2 = [] := by
  induction incoming generalizing seen with
  | nil => rfl
  | cons delivery others ih =>
    match delivery with
    | .bytes chunk =>
      rw [collect] at blank ⊢
      cases cut : cutLine? chunk with
      | none =>
        rw [cut] at blank
        exact ih blank
      | some parts =>
        rw [cut] at blank
        have whole : seen ++ parts.1 ≠ [] :=
          List.append_ne_nil_of_right_ne_nil _ (cutLine?_length cut).2
        exact absurd (Ending.line.inj blank) whole
    | .fault .passing _ => exact ih blank
    | .fault .quiet _ | .fault .broken _ => cases blank

theorem calm_receive (calm : Calm stream.incoming) : Calm (receive stream).2.incoming :=
  fun kind fault member => calm kind fault (mem_of_mem_collect _ _ member)

theorem receive_of_lines_nil (calm : Calm stream.incoming) (empty : stream.lines = []) :
    ∃ after, receive stream = (.ok none, after) ∧ Calm after.incoming ∧ after.lines = [] := by
  obtain ⟨bytes, ends⟩ := collect_of_calm calm []
  rw [lines, linesAfter_collect [] _ calm.steady, List.append_eq_nil_iff, ends, Ending.lines] at empty
  have blank : bytes = [] := by simpa using empty.1
  refine ⟨_, ?_, calm_receive calm, empty.2⟩
  rw [receive_eq, ends, blank]
  rfl

theorem receive_of_lines_cons (calm : Calm stream.incoming) {line : List UInt8}
    {others : List (List UInt8)} (arriving : stream.lines = line :: others) :
    ∃ after, receive stream = ((lineAnswer line).map some, after) ∧ Calm after.incoming ∧
      after.lines = others := by
  obtain ⟨bytes, ends⟩ := collect_of_calm calm []
  rw [lines, linesAfter_collect [] _ calm.steady, ends, Ending.lines] at arriving
  by_cases blank : bytes = []
  · have finished : (collect [] stream.incoming).2 = [] := collect_of_line_nil (blank ▸ ends)
    rw [if_pos blank, finished] at arriving
    cases arriving
  · rw [if_neg blank] at arriving
    obtain ⟨rfl, rest⟩ := List.cons.inj arriving
    refine ⟨_, ?_, calm_receive calm, rest⟩
    rw [receive_eq, ends, Ending.answer, lineText_of_ne_nil blank]

theorem send_incoming (stream : Stream) (line : Text) :
    (Transport.send stream line).2.incoming = stream.incoming := by
  show (stream.write _).2.incoming = _
  rw [write]
  cases stream.room <;> rfl

end Reading

section Verdict

variable {read? : Text → Option α} {line : List UInt8} {junk : List (List UInt8)}

theorem verdict?_of_value {value : α} (found : lineValue? read? line = some value) :
    verdict? read? line = some (.ok value) := by
  rw [lineValue?] at found
  rw [verdict?]
  cases said : lineAnswer line with
  | error fault =>
    rw [said] at found
    cases found
  | ok text =>
    rw [said] at found
    exact congrArg (Option.map Except.ok) found

theorem verdict?_of_noise (noise : lineValue? read? line = none) :
    verdict? read? line =
      if (Text.ofUtf8? line).isSome then none else some (.error (.io .notText)) := by
  rw [lineValue?, lineAnswer] at noise
  rw [verdict?, lineAnswer]
  cases read : Text.ofUtf8? line with
  | none => rfl
  | some text =>
    rw [read] at noise
    exact congrArg (Option.map Except.ok) noise

theorem findSome?_verdict? (noise : ∀ line ∈ junk, lineValue? read? line = none) :
    junk.findSome? (verdict? read?) =
      if ∀ line ∈ junk, (Text.ofUtf8? line).isSome then none else some (.error (.io .notText)) := by
  induction junk with
  | nil => rfl
  | cons line junk ih =>
    rw [List.findSome?_cons, verdict?_of_noise (noise line List.mem_cons_self),
      ih fun line member => noise line (List.mem_cons_of_mem _ member)]
    simp only [List.forall_mem_cons]
    by_cases text : (Text.ofUtf8? line).isSome
    · simp only [text, if_true, true_and]
    · simp only [text, if_false, false_and, Bool.false_eq_true]

end Verdict

section Awaiting

variable {link : Link} {read? : Text → Option α} {stream : Stream}

theorem through_awaitWithin_of_calm (calm : Calm stream.incoming) (command : Text) (count : Nat) :
    ((link.awaitWithin command read? count).through stream).1 =
      ((stream.lines.take count).findSome? (verdict? read?)).getD
        (.error (.timeout command link.reads)) := by
  induction count generalizing stream with
  | zero => rfl
  | succ count ih =>
    cases arriving : stream.lines with
    | nil =>
      obtain ⟨after, silent, still, finished⟩ := receive_of_lines_nil calm arriving
      rw [Link.through_awaitWithin_of_none silent, ih still, finished, List.take_nil, List.take_nil]
    | cons line others =>
      obtain ⟨after, received, still, rest⟩ := receive_of_lines_cons calm arriving
      rw [List.take_succ_cons, List.findSome?_cons, verdict?]
      cases said : lineAnswer line with
      | error fault =>
        rw [said] at received
        rw [Link.through_awaitWithin_of_error received]
        rfl
      | ok text =>
        rw [said] at received
        cases read : read? text with
        | none =>
          rw [Link.through_awaitWithin_of_skipped received read, ih still, rest]
          simp only [read, Option.map_none]
        | some value =>
          rw [Link.through_awaitWithin_of_read received read]
          simp only [read, Option.map_some, Option.getD_some]

theorem through_ask_of_calm {command : Command}
    (takes : (Transport.send stream command.line).1 = .ok ()) (calm : Calm stream.incoming) :
    ((link.ask command read?).through stream).1 =
      ((stream.lines.take link.reads).findSome? (verdict? read?)).getD
        (.error (.timeout command.line link.reads)) := by
  have kept := send_incoming stream command.line
  have sent : (Exchange.send command.line).through stream =
      (.ok (), (Transport.send stream command.line).2) := by
    rw [Exchange.through_send, takes]
    rfl
  rw [Link.ask, Exchange.through_bind_of_ok sent, Link.await,
    through_awaitWithin_of_calm (kept ▸ calm), lines, kept]
  rfl

theorem Noisy.through_ask {command : Command} {junk : List (List UInt8)} {value : α}
    (noisy : Noisy link command read? stream junk value) :
    ((link.ask command read?).through stream).1 =
      if ∀ line ∈ junk, (Text.ofUtf8? line).isSome then .ok value else .error (.io .notText) := by
  obtain ⟨line, others, arriving, found⟩ := noisy.arrives
  obtain ⟨spare, reads⟩ := Nat.exists_eq_add_of_lt noisy.few
  have taken : stream.lines.take link.reads = junk ++ line :: others.take spare := by
    rw [arriving, reads, Nat.add_assoc, List.take_length_add_append, List.take_succ_cons]
  rw [through_ask_of_calm noisy.takes noisy.calm, taken, List.findSome?_append,
    findSome?_verdict? noisy.noise, List.findSome?_cons, verdict?_of_value found]
  split <;> rfl

end Awaiting

/-- Reads of registers and of a window skip noise if and only if it is text. One line of other bytes
makes them fail. -/
theorem reads_past_noise (link : Link) (stream : Stream) (junk : List (List UInt8)) :
    (∀ registers, Noisy link .readRegisters Registers.ofLine? stream junk registers →
      (link.readRegisters.through stream).1 =
        if ∀ line ∈ junk, (Text.ofUtf8? line).isSome then .ok registers
        else .error (.io .notText)) ∧
    (∀ address window,
      Noisy link (.readWindow address.physical) Window.ofLine? stream junk window →
        ((link.readWindow address).through stream).1 =
          if ∀ line ∈ junk, (Text.ofUtf8? line).isSome then .ok window
          else .error (.io .notText)) :=
  ⟨fun _ noisy => noisy.through_ask, fun _ _ noisy => noisy.through_ask⟩

/-- A device that brings lines of junk and then a value, with an interrupted read between them. -/
def bringing (junk : List (List UInt8)) (value : Text) : Stream where
  incoming := [.bytes junk.flatten, .fault .passing ⟨"interrupted"⟩, .bytes (valueLine value)]
where
  valueLine (value : Text) : List UInt8 := Text.toUtf8 (value ++ "\r\n")

theorem noisy_bringing {link : Link} {command : Command} {read? : Text → Option α}
    {junk : List (List UInt8)} {text : Text} {value : α} (few : junk.length < link.reads)
    (noise : ∀ line ∈ junk, lineValue? read? line = none)
    (arriving : (bringing junk text).lines = junk ++ [bringing.valueLine text])
    (found : lineValue? read? (bringing.valueLine text) = some value) :
    Noisy link command read? (bringing junk text) junk value where
  takes := rfl
  calm := by
    intro kind fault member
    simp only [bringing, List.mem_cons, Delivery.fault.injEq, reduceCtorEq, false_or, or_false,
      List.not_mem_nil] at member
    exact member.1
  few := few
  noise := noise
  arrives := ⟨_, [], arriving, found⟩

def registerValue : Text := "2003 05 01 02 00 00 01F0 0000 0000 A9 00 00 ..E..IZC"

def windowValue : Text := ":7772000:000102030405060708090A0B0C0D0E0F"

def echo : List UInt8 := Text.toUtf8 "r\n"

/-- A damaged byte on a line of its own; it begins no character. -/
def static : List UInt8 := [0xFF, newline]

theorem reads_past_noise_echo :
    (∃ registers,
      Noisy ⟨64⟩ .readRegisters Registers.ofLine? (bringing [echo] registerValue) [echo] registers ∧
      ((Link.readRegisters ⟨64⟩).through (bringing [echo] registerValue)).1 = .ok registers ∧
      registers.pc = 0x2003) ∧
    ∃ window, Noisy ⟨64⟩ (.readWindow 0x7772000) Window.ofLine?
        (bringing [echo, static] windowValue) [echo, static] window ∧
      ((Link.readWindow ⟨64⟩ (.cpu 0x2000)).through (bringing [echo, static] windowValue)).1 =
        .error (.io .notText) := by
  constructor
  · obtain ⟨registers, found, pc⟩ : ∃ registers,
        lineValue? Registers.ofLine? (bringing.valueLine registerValue) = some registers ∧
          registers.pc = 0x2003 := ⟨_, rfl, by decide +kernel⟩
    have noisy : Noisy ⟨64⟩ .readRegisters Registers.ofLine? (bringing [echo] registerValue) [echo]
        registers :=
      noisy_bringing (by decide) (by decide +kernel) (by decide +kernel) found
    refine ⟨registers, noisy, ?_, pc⟩
    rw [(reads_past_noise ⟨64⟩ _ _).1 registers noisy, if_pos (by decide +kernel)]
  · obtain ⟨window, found⟩ : ∃ window,
        lineValue? Window.ofLine? (bringing.valueLine windowValue) = some window := ⟨_, rfl⟩
    have noisy : Noisy ⟨64⟩ (.readWindow 0x7772000) Window.ofLine?
        (bringing [echo, static] windowValue) [echo, static] window :=
      noisy_bringing (by decide) (by decide +kernel) (by decide +kernel) found
    refine ⟨window, noisy, ?_⟩
    rw [(reads_past_noise ⟨64⟩ _ _).2 (.cpu 0x2000) window noisy, if_neg (by decide +kernel)]

theorem readRegisters_fails_on_static :
    ¬ ∀ (link : Link) (stream : Stream) (junk : List (List UInt8)) (registers : Registers),
      Noisy link .readRegisters Registers.ofLine? stream junk registers →
        (link.readRegisters.through stream).1 = .ok registers := by
  intro skipped
  obtain ⟨registers, found⟩ : ∃ registers,
      lineValue? Registers.ofLine? (bringing.valueLine registerValue) = some registers := ⟨_, rfl⟩
  have read := skipped ⟨64⟩ (bringing [static] registerValue) [static] registers
    (noisy_bringing (by decide) (by decide +kernel) (by decide +kernel) found)
  have failed : ((Link.readRegisters ⟨64⟩).through (bringing [static] registerValue)).1.toOption =
      none := by decide +kernel
  rw [read] at failed
  cases failed

end RemoteDebugger.Stream
