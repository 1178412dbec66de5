import Mathlib.Data.Nat.Find
import Mathlib.Logic.Function.Iterate
import RemoteDebugger.Proofs.Session.Transcript

/-!
The budget of a reply. Over any transport, a link that awaits a value goes through the answers to
its reads one by one, up to its budget, and the first one that is of use decides: a line that can be
read, or a failure. If none is, the reply is missed after exactly as many reads as the budget has.
The further lines of a bulk read have a fresh budget each, in which only the presence of a line
counts, so the first line that arrives is taken even if it is damaged.
-/

set_option autoImplicit false

namespace RemoteDebugger

variable {α τ : Type} [Transport τ]

/-- The other side after so many reads. -/
def afterReads (remote : τ) (count : Nat) : τ :=
  (fun other => (Transport.receive other).2)^[count] remote

/-- What the read brings that has so many reads before it. -/
def answerAt (remote : τ) (index : Nat) : Except Fault (Option Text) :=
  (Transport.receive (afterReads remote index)).1

theorem receive_afterReads (remote : τ) (index : Nat) :
    Transport.receive (afterReads remote index) =
      (answerAt remote index, afterReads remote (index + 1)) := by
  have next : afterReads remote (index + 1) = (Transport.receive (afterReads remote index)).2 :=
    Function.iterate_succ_apply' _ index remote
  rw [next, answerAt]

/-- An answer that is of no use: there is no line, or there is no value in it. -/
inductive Unusable (read? : Text → Option α) : Except Fault (Option Text) → Prop
  | absent : Unusable read? (.ok none)
  | unreadable {line : Text} (unread : read? line = none) : Unusable read? (.ok (some line))

namespace Link

variable {link : Link} {command : Command} {read? : Text → Option α} {remote after : τ}

/-- What awaiting a value comes to, with the other side as it is left. -/
inductive Awaits (link : Link) (command : Command) (read? : Text → Option α) (remote : τ) :
    Except LinkError α → τ → Prop
  | value {index : Nat} {line : Text} {value : α} (within : index < link.reads)
      (useless : ∀ earlier < index, Unusable read? (answerAt remote earlier))
      (arrives : answerAt remote index = .ok (some line)) (read : read? line = some value) :
      Awaits link command read? remote (.ok value) (afterReads remote (index + 1))
  | fault {index : Nat} {fault : Fault} (within : index < link.reads)
      (useless : ∀ earlier < index, Unusable read? (answerAt remote earlier))
      (fails : answerAt remote index = .error fault) :
      Awaits link command read? remote (.error (.io fault)) (afterReads remote (index + 1))
  | timeout (useless : ∀ index < link.reads, Unusable read? (answerAt remote index)) :
      Awaits link command read? remote (.error (.timeout command.line link.reads))
        (afterReads remote link.reads)

/-- What a question comes to: its command is taken or lost, and then the value is awaited. -/
inductive Asks (link : Link) (command : Command) (read? : Text → Option α) (remote : τ) :
    Except LinkError α → τ → Prop
  | lost {fault : Fault} {after : τ}
      (fails : Transport.send remote command.line = (.error fault, after)) :
      Asks link command read? remote (.error (.io fault)) after
  | taken {middle after : τ} {result : Except LinkError α}
      (takes : Transport.send remote command.line = (.ok (), middle))
      (awaits : link.Awaits command read? middle result after) :
      Asks link command read? remote result after

/-- Windows that the next lines carry, one line after another. -/
inductive Rows (link : Link) (command : Command) : τ → List Window → τ → Prop
  | nil (remote : τ) : Rows link command remote [] remote
  | cons {remote middle after : τ} {line : Text} {window : Window} {windows : List Window}
      (next : link.Awaits command some remote (.ok line) middle)
      (carries : Window.ofLine? line = some window)
      (others : Rows link command middle windows after) :
      Rows link command remote (window :: windows) after

/-- What reading so many further lines comes to, which count on from a number. -/
inductive Follows (link : Link) (command : Command) (start count : Nat) (remote : τ) :
    Except LinkError (List Window) → τ → Prop
  | whole {windows : List Window} {after : τ} (rows : link.Rows command remote windows after)
      (all : windows.length = count) : Follows link command start count remote (.ok windows) after
  | missed {windows : List Window} {before after : τ} {cause : LinkError}
      (rows : link.Rows command remote windows before) (few : windows.length < count)
      (fails : link.Awaits command some before (.error cause) after) :
      Follows link command start count remote (.error cause) after
  | damaged {windows : List Window} {before after : τ} {line : Text}
      (rows : link.Rows command remote windows before) (few : windows.length < count)
      (next : link.Awaits command some before (.ok line) after)
      (unread : Window.ofLine? line = none) :
      Follows link command start count remote
        (.error (.malformed (start + windows.length) line)) after

/-- What a bulk read comes to: a window as the answer to its command, and fifteen further lines. -/
inductive AsksBulk (link : Link) (command : Command) (remote : τ) :
    Except LinkError (List Window) → τ → Prop
  | failed {cause : LinkError} {after : τ}
      (fails : link.Asks command Window.ofLine? remote (.error cause) after) :
      AsksBulk link command remote (.error cause) after
  | begun {first : Window} {middle after : τ} {others : Except LinkError (List Window)}
      (asks : link.Asks command Window.ofLine? remote (.ok first) middle)
      (follows : link.Follows command 1 15 middle others after) :
      AsksBulk link command remote (others.map (first :: ·)) after

theorem through_eq_iff {exchange : Exchange α} {described : Except LinkError α → τ → Prop}
    (right : ∀ result after, described result after → exchange.through remote = (result, after))
    (some : ∃ result after, described result after) (result : Except LinkError α) (after : τ) :
    exchange.through remote = (result, after) ↔ described result after := by
  constructor
  · intro led
    obtain ⟨other, final, holds⟩ := some
    have same := (right other final holds).symm.trans led
    cases same
    exact holds
  · exact right result after

section Awaiting

theorem through_awaitWithin_of_useless {line : Text} {index : Nat} (left : Nat)
    (useless : ∀ earlier < index, Unusable read? (answerAt remote earlier)) :
    (link.awaitWithin line read? (index + left)).through remote =
      (link.awaitWithin line read? left).through (afterReads remote index) := by
  induction index generalizing left with
  | zero =>
    rw [Nat.zero_add]
    rfl
  | succ index ih =>
    -- The last of the useless reads meets the transport after the others, with one more read left.
    have before := ih (left + 1) fun earlier less => useless earlier (Nat.lt_succ_of_lt less)
    have last := useless index (Nat.lt_succ_self index)
    have answered := receive_afterReads remote index
    rw [Nat.succ_add_eq_add_succ, before]
    generalize answerAt remote index = answer at last answered
    cases last with
    | absent => exact through_awaitWithin_of_none answered
    | unreadable unread => exact through_awaitWithin_of_skipped answered unread

private theorem through_await_of_useless (command : Command) {index : Nat}
    (within : index < link.reads)
    (useless : ∀ earlier < index, Unusable read? (answerAt remote earlier)) :
    ∃ left, (link.await command read?).through remote =
      (link.awaitWithin command.line read? (left + 1)).through (afterReads remote index) := by
  obtain ⟨left, reads⟩ := Nat.exists_eq_add_of_lt within
  refine ⟨left, ?_⟩
  rw [await, reads, Nat.add_assoc]
  exact through_awaitWithin_of_useless (left + 1) useless

theorem Awaits.through {result : Except LinkError α}
    (awaits : link.Awaits command read? remote result after) :
    (link.await command read?).through remote = (result, after) := by
  cases awaits with
  | @value index line value within useless arrives read =>
    have answered := receive_afterReads remote index
    rw [arrives] at answered
    obtain ⟨left, led⟩ := through_await_of_useless command within useless
    rw [led, through_awaitWithin_of_read answered read]
  | @fault index fault within useless fails =>
    have answered := receive_afterReads remote index
    rw [fails] at answered
    obtain ⟨left, led⟩ := through_await_of_useless command within useless
    rw [led, through_awaitWithin_of_error answered]
  | timeout useless => exact through_awaitWithin_of_useless 0 useless

theorem exists_awaits (link : Link) (command : Command) (read? : Text → Option α) (remote : τ) :
    ∃ result after, link.Awaits command read? remote result after := by
  classical
  by_cases useless : ∀ index < link.reads, Unusable read? (answerAt remote index)
  · exact ⟨_, _, .timeout useless⟩
  · have decided : ∃ index, index < link.reads ∧ ¬ Unusable read? (answerAt remote index) := by
      simpa only [not_forall, exists_prop] using useless
    obtain ⟨within, decides⟩ := Nat.find_spec decided
    have before : ∀ earlier < Nat.find decided, Unusable read? (answerAt remote earlier) := by
      intro earlier less
      by_contra other
      exact Nat.find_min decided less ⟨Nat.lt_trans less within, other⟩
    cases answer : answerAt remote (Nat.find decided) with
    | error fault => exact ⟨_, _, .fault within before answer⟩
    | ok arrived =>
      rw [answer] at decides
      cases arrived with
      | none => exact absurd .absent decides
      | some line =>
        cases read : read? line with
        | none => exact absurd (.unreadable read) decides
        | some value => exact ⟨_, _, .value within before answer read⟩

theorem Asks.through {result : Except LinkError α}
    (asks : link.Asks command read? remote result after) :
    (link.ask command read?).through remote = (result, after) := by
  cases asks with
  | lost fails =>
    rw [ask, Exchange.through_bind, Exchange.through_send, fails]
    rfl
  | @taken middle after result takes awaits =>
    have sent : (Exchange.send command.line).through remote = (.ok (), middle) := by
      rw [Exchange.through_send, takes]
      rfl
    rw [ask, Exchange.through_bind_of_ok sent, awaits.through]

theorem exists_asks (link : Link) (command : Command) (read? : Text → Option α) (remote : τ) :
    ∃ result after, link.Asks command read? remote result after := by
  rcases sent : Transport.send remote command.line with ⟨fault | _, middle⟩
  · exact ⟨_, _, .lost sent⟩
  · obtain ⟨result, after, awaits⟩ := exists_awaits link command read? middle
    exact ⟨result, after, .taken sent awaits⟩

end Awaiting

section Bulk

theorem Rows.through {windows : List Window} {before : τ}
    (rows : link.Rows command remote windows before) (start left : Nat) :
    (link.bulkLines command (List.range' start (windows.length + left))).through remote =
      (((link.bulkLines command (List.range' (start + windows.length) left)).through
        before).1.map (windows ++ ·),
      ((link.bulkLines command (List.range' (start + windows.length) left)).through before).2) := by
  induction rows generalizing start with
  | nil remote =>
    rw [List.length_nil, Nat.zero_add, Nat.add_zero]
    rcases (link.bulkLines command (List.range' start left)).through remote with
      ⟨_ | windows, after⟩ <;> rfl
  | @cons remote middle before line window windows next carries others ih =>
    have later := ih (start + 1)
    rw [show start + 1 + windows.length = start + (windows.length + 1) by omega] at later
    rw [List.length_cons, Nat.succ_add, List.range'_succ, bulkLines,
      Exchange.through_bind_of_ok next.through]
    simp only [carries]
    rw [Exchange.through_bind, later]
    rcases (link.bulkLines command (List.range' (start + (windows.length + 1)) left)).through
      before with ⟨_ | rest, after⟩ <;> rfl

theorem Follows.through {start count : Nat} {result : Except LinkError (List Window)}
    (follows : link.Follows command start count remote result after) :
    (link.bulkLines command (List.range' start count)).through remote = (result, after) := by
  cases follows with
  | whole rows all =>
    have led := rows.through start 0
    rw [Nat.add_zero, all] at led
    rw [led]
    show (Except.ok (_ ++ []), after) = _
    rw [List.append_nil]
  | missed rows few fails =>
    obtain ⟨left, total⟩ := Nat.exists_eq_add_of_lt few
    have led := rows.through start (left + 1)
    rw [total, Nat.add_assoc, led, List.range'_succ, bulkLines, Exchange.through_bind,
      fails.through]
    rfl
  | damaged rows few next unread =>
    obtain ⟨left, total⟩ := Nat.exists_eq_add_of_lt few
    have led := rows.through start (left + 1)
    rw [total, Nat.add_assoc, led, List.range'_succ, bulkLines,
      Exchange.through_bind_of_ok next.through]
    simp only [unread]
    rfl

theorem Follows.cons {start count : Nat} {middle : τ} {line : Text} {window : Window}
    {result : Except LinkError (List Window)}
    (next : link.Awaits command some remote (.ok line) middle)
    (carries : Window.ofLine? line = some window)
    (follows : link.Follows command (start + 1) count middle result after) :
    link.Follows command start (count + 1) remote (result.map (window :: ·)) after := by
  cases follows with
  | whole rows all => exact .whole (.cons next carries rows) (congrArg Nat.succ all)
  | missed rows few fails => exact .missed (.cons next carries rows) (Nat.succ_lt_succ few) fails
  | @damaged windows before _ line rows few last unread =>
    have damaged : link.Follows command start (count + 1) remote
        (.error (.malformed (start + (window :: windows).length) line)) after :=
      .damaged (.cons next carries rows) (Nat.succ_lt_succ few) last unread
    rwa [List.length_cons, Nat.add_comm windows.length, ← Nat.add_assoc] at damaged

theorem exists_follows (link : Link) (command : Command) (start count : Nat) (remote : τ) :
    ∃ result after, link.Follows command start count remote result after := by
  induction count generalizing start remote with
  | zero => exact ⟨_, _, .whole (.nil remote) rfl⟩
  | succ count ih =>
    obtain ⟨answer, middle, awaits⟩ := exists_awaits link command some remote
    cases answer with
    | error cause => exact ⟨_, _, .missed (.nil remote) (Nat.succ_pos count) awaits⟩
    | ok line =>
      cases read : Window.ofLine? line with
      | none => exact ⟨_, _, .damaged (.nil remote) (Nat.succ_pos count) awaits read⟩
      | some window =>
        obtain ⟨result, after, follows⟩ := ih (start + 1) middle
        exact ⟨_, after, follows.cons awaits read⟩

variable {address : Address}

theorem AsksBulk.through {result : Except LinkError (List Window)}
    (asks : link.AsksBulk (.readBulk address.physical) remote result after) :
    (link.readBulk address).through remote = (result, after) := by
  cases asks with
  | failed fails => rw [readBulk, Exchange.through_bind, fails.through]
  | @begun first middle after others asked follows =>
    rw [readBulk, Exchange.through_bind_of_ok asked.through, Exchange.through_bind,
      follows.through]
    cases others <;> rfl

theorem exists_asksBulk (link : Link) (command : Command) (remote : τ) :
    ∃ result after, link.AsksBulk command remote result after := by
  obtain ⟨answer, middle, asks⟩ := exists_asks link command Window.ofLine? remote
  cases answer with
  | error cause => exact ⟨_, _, .failed asks⟩
  | ok first =>
    obtain ⟨others, after, follows⟩ := exists_follows link command 1 15 middle
    exact ⟨_, after, .begun asks follows⟩

end Bulk

/-- Every read of registers or memory sends one command. Registers and a window are the first line
that can be read within the budget, and nothing is read after it; a bulk read takes its first window
so, and then the next fifteen lines that arrive, each within a budget of its own. Failures end a read
at once, and without a usable answer it ends when its budget is used up. -/
theorem reads_within_budget (link : Link) (remote : τ) :
    (link.readRegisters.transcript remote = [⟨Command.readRegisters.line, remote⟩] ∧
      ∀ result after, link.readRegisters.through remote = (result, after) ↔
        link.Asks .readRegisters Registers.ofLine? remote result after) ∧
    (∀ address : Address, (link.readWindow address).transcript remote =
        [⟨(Command.readWindow address.physical).line, remote⟩] ∧
      ∀ result after, (link.readWindow address).through remote = (result, after) ↔
        link.Asks (.readWindow address.physical) Window.ofLine? remote result after) ∧
    ∀ address : Address, (link.readBulk address).transcript remote =
        [⟨(Command.readBulk address.physical).line, remote⟩] ∧
      ∀ result after, (link.readBulk address).through remote = (result, after) ↔
        link.AsksBulk (.readBulk address.physical) remote result after := by
  refine ⟨⟨transcript_ask link _ _ remote, ?_⟩, fun address => ⟨transcript_ask link _ _ remote, ?_⟩,
    fun address => ⟨transcript_readBulk link remote address, ?_⟩⟩
  · exact through_eq_iff (fun _ _ => Asks.through) (exists_asks link _ _ remote)
  · exact through_eq_iff (fun _ _ => Asks.through) (exists_asks link _ _ remote)
  · exact through_eq_iff (fun _ _ => AsksBulk.through) (exists_asksBulk link _ remote)

end Link

end RemoteDebugger
