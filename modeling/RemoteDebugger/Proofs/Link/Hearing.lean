import RemoteDebugger.Proofs.Link.Exchange
import RemoteDebugger.Transport.Script

/-!
What the link hears. A reply is chosen by its form alone: a read of memory takes the memory lines
that it hears, whoever they were meant for. A window read is answered by the first one, and a bulk
read by sixteen of them; the address that such a line carries is reported and never compared with
the one that was asked for. So lines that an earlier read has left behind answer the next one.
-/

set_option autoImplicit false

namespace RemoteDebugger

variable {α β τ : Type} [Transport τ]

namespace Dialogue

/-- The lines in one answer of a transport: one, or none at a silence or a failure. -/
def lineIn : Except Fault (Option Text) → List Text
  | .ok (some line) => [line]
  | _ => []

/-- The lines that arrive while a dialogue is led. -/
def heard : Dialogue α → τ → List Text
  | done _, _ => []
  | send line next, remote =>
    (next (Transport.send remote line).1).heard (Transport.send remote line).2
  | receive next, remote =>
    lineIn (Transport.receive remote).1 ++
      (next (Transport.receive remote).1).heard (Transport.receive remote).2
  | pause _ next, remote => next.heard remote
  | interrupted next, remote =>
    (next (Transport.interrupted remote).1).heard (Transport.interrupted remote).2

theorem heard_bind (dialogue : Dialogue α) (rest : α → Dialogue β) (remote : τ) :
    (dialogue >>= rest).heard remote = dialogue.heard remote ++
      (rest (dialogue.through remote).1).heard (dialogue.through remote).2 := by
  show (dialogue.bind rest).heard remote = _
  induction dialogue generalizing remote with
  | done value => rfl
  | send line next ih => exact ih _ _
  | receive next ih =>
    show _ ++ _ = (_ ++ _) ++ _
    rw [List.append_assoc]
    exact congrArg (lineIn (Transport.receive remote).1 ++ ·) (ih _ _)
  | pause milliseconds next ih => exact ih _
  | interrupted next ih => exact ih _ _

end Dialogue

namespace Exchange

def heard (exchange : Exchange α) (remote : τ) : List Text :=
  Dialogue.heard exchange.run remote

/-- The memory lines among those that arrive, as windows. -/
def heardWindows (exchange : Exchange α) (remote : τ) : List Window :=
  (exchange.heard remote).filterMap Window.ofLine?

theorem heard_bind (exchange : Exchange α) (rest : α → Exchange β) (remote : τ) :
    (exchange >>= rest).heard remote = exchange.heard remote ++
      match exchange.through remote with
      | (.ok value, after) => (rest value).heard after
      | (.error _, _) => [] := by
  rw [heard, ExceptT.run_bind, Dialogue.heard_bind]
  show _ = _ ++ match Dialogue.through exchange.run remote with
    | (.ok value, after) => (rest value).heard after
    | (.error _, _) => []
  rcases Dialogue.through exchange.run remote with ⟨_ | value, after⟩ <;> rfl

theorem heardWindows_bind (exchange : Exchange α) (rest : α → Exchange β) (remote : τ) :
    (exchange >>= rest).heardWindows remote = exchange.heardWindows remote ++
      match exchange.through remote with
      | (.ok value, after) => (rest value).heardWindows after
      | (.error _, _) => [] := by
  rw [heardWindows, heard_bind, List.filterMap_append]
  rcases exchange.through remote with ⟨_ | value, after⟩ <;> rfl

theorem heard_send (line : Text) (remote : τ) : (send line).heard remote = [] := by
  show Dialogue.heard _ (Transport.send remote line).2 = _
  rcases Transport.send remote line with ⟨_ | _, after⟩ <;> rfl

theorem heard_receive (remote : τ) :
    receive.heard remote = Dialogue.lineIn (Transport.receive remote).1 := by
  show _ ++ Dialogue.heard _ (Transport.receive remote).2 = _
  rcases Transport.receive remote with ⟨_ | _, after⟩ <;> exact List.append_nil _

theorem heard_receive_bind (rest : Option Text → Exchange α) (remote : τ) :
    (receive >>= rest).heard remote = Dialogue.lineIn (Transport.receive remote).1 ++
      match Transport.receive remote with
      | (.ok line, after) => (rest line).heard after
      | (.error _, _) => [] := by
  rw [heard_bind, heard_receive, through_receive]
  rcases Transport.receive remote with ⟨_ | _, after⟩ <;> rfl

end Exchange

namespace Link

variable (link : Link) (command : Command) (read? : Text → Option α) (remote : τ)

theorem heard_awaitWithin (line : Text) (count : Nat) :
    ((link.awaitWithin line read? count).heard remote).filterMap read? =
      ((link.awaitWithin line read? count).through remote).1.toOption.toList := by
  induction count generalizing remote with
  | zero => rfl
  | succ count ih =>
    rw [awaitWithin, Exchange.heard_receive_bind, Exchange.through_receive_bind]
    rcases Transport.receive remote with ⟨fault | (_ | line), after⟩
    · rfl
    · exact ih after
    · simp only [Dialogue.lineIn, List.singleton_append]
      cases found : read? line with
      | none =>
        rw [List.filterMap_cons_none found]
        exact ih after
      | some value =>
        rw [List.filterMap_cons_some found]
        rfl

theorem heard_ask :
    ((link.ask command read?).heard remote).filterMap read? =
      ((link.ask command read?).through remote).1.toOption.toList := by
  rw [ask, Exchange.heard_bind, Exchange.heard_send, List.nil_append, Exchange.through_bind]
  rcases (Exchange.send command.line).through remote with ⟨cause | _, after⟩
  · rfl
  · exact heard_awaitWithin link read? after command.line link.reads

/-- One further line of a bulk read, as a window. -/
def bulkLine (index : Nat) : Exchange Window := do
  let line ← link.await command some
  match Window.ofLine? line with
  | none => throw (.malformed index line)
  | some window => pure window

theorem bulkLines_cons (index : Nat) (others : List Nat) :
    link.bulkLines command (index :: others) = (do
      let window ← link.bulkLine command index
      let windows ← link.bulkLines command others
      pure (window :: windows)) := by
  rw [bulkLines, bulkLine, bind_assoc]
  congr 1
  funext line
  cases Window.ofLine? line with
  | none => rfl
  | some window => rw [pure_bind]

end Link

namespace Exchange

/-- An exchange that is answered by the only memory line that it hears. -/
def HearsOne (exchange : Exchange Window) (remote : τ) : Prop :=
  exchange.heardWindows remote = (exchange.through remote).1.toOption.toList

/-- An exchange that is answered by so many memory lines, if it hears as many, and by no others. -/
def Hears (count : Nat) (exchange : Exchange (List Window)) (remote : τ) : Prop :=
  ∀ windows, (∃ after, exchange.through remote = (.ok windows, after)) ↔
    windows.length = count ∧ exchange.heardWindows remote = windows

theorem HearsOne.eq_ok_iff {exchange : Exchange Window} {remote : τ}
    (hears : exchange.HearsOne remote) (window : Window) :
    (∃ after, exchange.through remote = (.ok window, after)) ↔
      exchange.heardWindows remote = [window] := by
  rw [hears]
  rcases exchange.through remote with ⟨_ | value, after⟩ <;> simp [Except.toOption]

theorem hears_nil (remote : τ) : Hears 0 (pure []) remote := by
  intro windows
  rw [through_pure]
  constructor
  · rintro ⟨after, same⟩
    cases same
    exact ⟨rfl, rfl⟩
  · rintro ⟨none, -⟩
    rw [List.length_eq_zero_iff.mp none]
    exact ⟨remote, rfl⟩

theorem heardWindows_bind_pure (exchange : Exchange α) (whole : α → β) (remote : τ) :
    (exchange >>= fun value => pure (whole value)).heardWindows remote =
      exchange.heardWindows remote := by
  rw [heardWindows_bind]
  rcases exchange.through remote with ⟨_ | value, after⟩ <;> exact List.append_nil _

theorem through_bind_pure_eq_ok (exchange : Exchange α) (whole : α → β) (remote : τ) (value : β) :
    (∃ after, (exchange >>= fun part => pure (whole part)).through remote = (.ok value, after)) ↔
      ∃ part, whole part = value ∧ ∃ after, exchange.through remote = (.ok part, after) := by
  rw [through_bind]
  rcases exchange.through remote with ⟨cause | found, after⟩
  · simp
  · simp [through_pure]

theorem Hears.cons {count : Nat} {first : Exchange Window} {rest : Exchange (List Window)}
    {remote : τ} (one : first.HearsOne remote) (others : ∀ after : τ, rest.Hears count after) :
    Hears (count + 1) (do
      let window ← first
      let windows ← rest
      pure (window :: windows)) remote := by
  intro windows
  rw [heardWindows_bind, through_bind, one]
  rcases first.through remote with ⟨cause | window, after⟩
  · constructor
    · rintro ⟨_, impossible⟩
      cases impossible
    · rintro ⟨many, none⟩
      rw [← none] at many
      exact absurd many (Nat.succ_ne_zero count).symm
  · simp only [through_bind_pure_eq_ok, heardWindows_bind_pure]
    show _ ↔ _ ∧ window :: rest.heardWindows after = windows
    constructor
    · rintro ⟨later, rfl, answered⟩
      obtain ⟨long, same⟩ := (others after later).mp answered
      exact ⟨congrArg Nat.succ long, congrArg (window :: ·) same⟩
    · rintro ⟨many, rfl⟩
      exact ⟨_, rfl, (others after _).mpr ⟨Nat.succ.inj many, rfl⟩⟩

end Exchange

namespace Link

variable (link : Link) (address : Address) (remote : τ)

theorem readWindow_hearsOne : (link.readWindow address).HearsOne remote :=
  heard_ask link _ Window.ofLine? remote

theorem bulkLine_hearsOne (command : Command) (index : Nat) :
    (link.bulkLine command index).HearsOne remote := by
  have awaited := heard_awaitWithin link some remote command.line link.reads
  rw [List.filterMap_some] at awaited
  rw [Exchange.HearsOne, bulkLine, Exchange.heardWindows_bind, Exchange.through_bind]
  rw [Exchange.heardWindows, await, awaited]
  rcases (link.awaitWithin command.line some link.reads).through remote with ⟨cause | line, after⟩
  · rfl
  · simp only [Except.toOption, Option.toList_some]
    cases read : Window.ofLine? line with
    | none =>
      rw [List.filterMap_cons_none read]
      rfl
    | some window =>
      rw [List.filterMap_cons_some read]
      rfl

theorem bulkLines_hears (command : Command) (indices : List Nat) :
    (link.bulkLines command indices).Hears indices.length remote := by
  induction indices generalizing remote with
  | nil => exact Exchange.hears_nil remote
  | cons index others ih =>
    rw [bulkLines_cons]
    exact Exchange.Hears.cons (bulkLine_hearsOne link remote command index) ih

theorem readBulk_hears : (link.readBulk address).Hears 16 remote := by
  have first : (link.ask (.readBulk address.physical) Window.ofLine?).HearsOne remote :=
    heard_ask link _ Window.ofLine? remote
  have others := fun after : τ =>
    bulkLines_hears link after (.readBulk address.physical) (List.range' 1 15)
  exact Exchange.Hears.cons first others

/-- The addresses that the sixteen windows of a bulk read should have. -/
def bulkBases (address : Address) : List UInt32 :=
  (List.range 16).map fun index => address.physical + UInt32.ofNat (16 * index)

/-- A window read is answered by the memory line that it hears, a bulk read by the sixteen that it
hears, whatever addresses they carry. So a read gives the addresses that were asked for if and only
if no other memory lines arrive. -/
theorem reads_eq_heard :
    (∀ window, (∃ after, (link.readWindow address).through remote = (.ok window, after)) ↔
      (link.readWindow address).heardWindows remote = [window]) ∧
    (∀ windows, (∃ after, (link.readBulk address).through remote = (.ok windows, after)) ↔
      windows.length = 16 ∧ (link.readBulk address).heardWindows remote = windows) ∧
    ((∀ window after, (link.readWindow address).through remote = (.ok window, after) →
        window.base = address.physical) ↔
      ∀ window ∈ (link.readWindow address).heardWindows remote, window.base = address.physical) ∧
    ((∀ windows after, (link.readBulk address).through remote = (.ok windows, after) →
        windows.map Window.base = bulkBases address) ↔
      (((link.readBulk address).heardWindows remote).length = 16 →
        ((link.readBulk address).heardWindows remote).map Window.base = bulkBases address)) := by
  have single := (readWindow_hearsOne link address remote).eq_ok_iff
  have bulk := readBulk_hears link address remote
  refine ⟨single, bulk, ?_, ?_⟩
  · constructor
    · intro right window member
      have one := readWindow_hearsOne link address remote
      rw [one] at member
      rcases led : (link.readWindow address).through remote with ⟨cause | found, after⟩
      · rw [led] at member
        exact absurd member List.not_mem_nil
      · rw [led] at member
        rw [List.mem_singleton.mp member]
        exact right found after led
    · intro right window after led
      rw [(single window).mp ⟨after, led⟩] at right
      exact right window List.mem_cons_self
  · constructor
    · intro right long
      obtain ⟨after, led⟩ := (bulk _).mpr ⟨long, rfl⟩
      exact right _ after led
    · intro right windows after led
      obtain ⟨long, same⟩ := (bulk windows).mp ⟨after, led⟩
      rw [same] at right
      exact right long

/-- Sixteen lines for a bulk read at `$2000`, the second of them damaged, and then the answer to a
window read at `$2100`. -/
def damagedReplies : Script where
  replies := .line (memoryLine 0) :: .line "noise" :: (List.range' 2 15).map (.line ∘ memoryLine)
where
  memoryLine (index : Nat) : Text :=
    Window.line ⟨0x7772000 + UInt32.ofNat (16 * index), Vector.replicate 16 (UInt8.ofNat index)⟩

/-- The bulk read gives up at its second line, and the third one answers the read of another
address. -/
theorem readWindow_takes_leftover :
    ¬ ∀ (link : Link) (earlier address : Address) (script rest after : Script) (cause : LinkError)
      (window : Window), (link.readBulk earlier).through script = (.error cause, rest) →
        (link.readWindow address).through rest = (.ok window, after) →
          window.base = address.physical := by
  intro own
  rcases failing : (readBulk ⟨64⟩ (.cpu 0x2000)).through damagedReplies with ⟨cause | windows, rest⟩
  · have third : ((readWindow ⟨64⟩ (.cpu 0x2100)).through
        ((readBulk ⟨64⟩ (.cpu 0x2000)).through damagedReplies).2).1.toOption.map Window.base =
          some 0x7772020 := by decide +kernel
    rw [failing] at third
    rcases reading : (readWindow ⟨64⟩ (.cpu 0x2100)).through rest with ⟨_ | window, after⟩
    · rw [reading] at third
      cases third
    · rw [reading] at third
      have base : window.base = 0x7772020 := Option.some.inj third
      have right := own ⟨64⟩ (.cpu 0x2000) (.cpu 0x2100) _ _ _ _ window failing reading
      rw [base] at right
      exact absurd right (by decide)
  · have given : ((readBulk ⟨64⟩ (.cpu 0x2000)).through damagedReplies).1.toOption.isSome = false := by
      decide +kernel
    rw [failing] at given
    cases given

end Link

end RemoteDebugger
