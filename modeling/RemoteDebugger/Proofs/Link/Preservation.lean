import RemoteDebugger.Proofs.Session.Transcript
import RemoteDebugger.Proofs.Transport.Simulator
import RemoteDebugger.Session.Operation

/-!
What the link keeps. A property of the other side is an invariant of the link if the four kinds of
question keep it: registers, a window, a bulk read, and a command without an answer. Everything else
that can be asked of the link is made of these, so it keeps every invariant, however it ends; and if
the lines of the four are legal, so are all the lines that it sends.
-/

set_option autoImplicit false

namespace RemoteDebugger

variable {α β ι τ : Type} [Transport τ] {property : τ → Prop} {legal : Sending τ → Prop}

namespace Exchange

/-- The exchange keeps a property of the other side, however it ends, and sends legal lines only. -/
def Keeps (property : τ → Prop) (legal : Sending τ → Prop) (exchange : Exchange α) : Prop :=
  ∀ remote, property remote →
    property (exchange.through remote).2 ∧ ∀ sending ∈ exchange.transcript remote, legal sending

theorem keeps_pure (value : α) : (pure value : Exchange α).Keeps property legal := by
  intro remote holds
  refine ⟨holds, ?_⟩
  intro sending sent
  exact absurd sent List.not_mem_nil

theorem keeps_const {held : Prop} (exchange : Exchange α) :
    exchange.Keeps (fun _ : τ => held) fun _ => True := by
  intro remote holds
  exact ⟨holds, fun _ _ => trivial⟩

theorem Keeps.bind {exchange : Exchange α} {rest : α → Exchange β}
    (first : exchange.Keeps property legal) (later : ∀ value, (rest value).Keeps property legal) :
    (exchange >>= rest).Keeps property legal := by
  intro remote holds
  obtain ⟨kept, sent⟩ := first remote holds
  rw [through_bind, transcript_bind]
  cases led : exchange.through remote with
  | mk result after =>
    rw [led] at kept
    cases result with
    | error cause =>
      rw [List.append_nil]
      exact ⟨kept, sent⟩
    | ok value =>
      obtain ⟨keptLater, sentLater⟩ := later value after kept
      refine ⟨keptLater, ?_⟩
      intro sending member
      rcases List.mem_append.mp member with early | late
      · exact sent sending early
      · exact sentLater sending late

theorem Keeps.mapM {exchange : ι → Exchange α} {items : List ι}
    (each : ∀ item ∈ items, (exchange item).Keeps property legal) :
    (items.mapM exchange).Keeps property legal := by
  induction items with
  | nil =>
    rw [List.mapM_nil]
    exact keeps_pure []
  | cons item items ih =>
    rw [List.mapM_cons]
    apply (each item List.mem_cons_self).bind
    intro value
    apply (ih fun other member => each other (List.mem_cons_of_mem item member)).bind
    intro values
    exact keeps_pure (value :: values)

end Exchange

/-- The four kinds of question keep the property, and their lines are legal. -/
structure Link.Invariant (link : Link) (property : τ → Prop) (legal : Sending τ → Prop) :
    Prop where
  readRegisters : link.readRegisters.Keeps property legal
  readWindow : ∀ address, (link.readWindow address).Keeps property legal
  readBulk : ∀ address, (link.readBulk address).Keeps property legal
  tell : ∀ command : Command, command.IsSilent → (link.tell command).Keeps property legal

namespace Link.Invariant

open Exchange (keeps_pure)

variable {link : Link} (kept : link.Invariant property legal)

include kept

theorem readRange (address : Address) (length : Nat) :
    (link.readRange address length).Keeps property legal := by
  have blocks : ∀ count, (link.readBlocks address count).Keeps property legal := by
    intro count
    apply Exchange.Keeps.bind
    · apply Exchange.Keeps.mapM
      intro index _
      exact kept.readBulk (address.offset (UInt32.ofNat (256 * index)))
    · intro read
      exact keeps_pure _
  have windows : ∀ start count, (link.readWindows address start count).Keeps property legal := by
    intro start count
    apply Exchange.Keeps.bind
    · apply Exchange.Keeps.mapM
      intro index _
      exact kept.readWindow (address.offset (UInt32.ofNat (start + 16 * index)))
    · intro read
      exact keeps_pure _
  apply (blocks _).bind
  intro whole
  apply (windows _ _).bind
  intro tail
  exact keeps_pure _

theorem writePieces (address : Address) (start : Nat) (pieces : List (List UInt8)) :
    (link.writePieces address start pieces).Keeps property legal := by
  induction pieces generalizing start with
  | nil => exact keeps_pure ()
  | cons piece others ih =>
    have written : (link.tell (.write (address.offset (UInt32.ofNat start)).physical
      piece)).Keeps property legal := kept.tell _ trivial
    exact written.bind fun _ => ih (start + writeLimit)

theorem writeMemory (address : Address) (bytes : List UInt8) :
    (link.writeMemory address bytes).Keeps property legal := by
  rw [Link.writeMemory]
  split
  · exact kept.writePieces address 0 (pieces writeLimit bytes)
  · split
    · exact keeps_pure ()
    · exact kept.tell _ trivial

theorem search (address : Address) (length : Nat) (pattern : List UInt8) :
    (link.search address length pattern).Keeps property legal := by
  rw [Link.search]
  split
  · exact keeps_pure []
  · apply (kept.readRange address length).bind
    intro bytes
    exact keeps_pure _

theorem exchange (operation : LinkOperation α) :
    (operation.exchange link).Keeps property legal := by
  cases operation with
  | readRegisters => exact kept.readRegisters
  | readWindow address => exact kept.readWindow address
  | readBulk address => exact kept.readBulk address
  | readRange address length => exact kept.readRange address length
  | peek address => exact (kept.readWindow address).bind fun window => keeps_pure window.firstByte
  | peekWord address =>
    exact (kept.readWindow address).bind fun window => keeps_pure window.firstWord
  | peekDword address =>
    exact (kept.readWindow address).bind fun window => keeps_pure window.firstDword
  | search address length pattern => exact kept.search address length pattern
  | writeMemory address bytes => exact kept.writeMemory address bytes
  | writeRange address bytes => exact kept.writePieces address 0 (pieces writeLimit bytes)
  | copy source destination count =>
    apply (kept.readRange source count).bind
    intro bytes
    exact kept.writePieces destination 0 (pieces writeLimit bytes)
  | setPc address => exact kept.tell (.setPc address) trivial
  | setBreakpoint address => exact kept.tell (.setBreakpoint address) trivial
  | setRunning running => exact kept.tell (.setRunning running) trivial
  | singleStep => exact kept.tell .singleStep trivial
  | stepOver => exact kept.tell .stepOver trivial

end Link.Invariant

end RemoteDebugger
