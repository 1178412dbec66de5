import RemoteDebugger.Proofs.Link.Preservation
import RemoteDebugger.Proofs.Session.Breakpoint

/-!
What sessions keep. A property of session and other side is an invariant if every question of the
link keeps it and if it does not depend on the breakpoint slot, the cancellation flag and the
operator's wish to stop. Every operation is made of such steps, apart from the commands that let the
processor run, which change the execution state and select the first frame, and from moving between
the frames.
-/

set_option autoImplicit false

namespace RemoteDebugger

variable {α β τ : Type} [Transport τ] {property : Session → τ → Prop} {legal : Sending τ → Prop}

namespace Action

/-- The action keeps a property of session and other side, however it ends, and sends legal lines
only. -/
def Keeps (property : Session → τ → Prop) (legal : Sending τ → Prop) (action : Action α) : Prop :=
  ∀ session remote, property session remote →
    property (action.through session remote).1.2 (action.through session remote).2 ∧
      ∀ sending ∈ action.transcript session remote, legal sending

theorem keeps_of_silent {action : Action α}
    (silent : ∀ session remote, action.transcript (τ := τ) session remote = [])
    (kept : ∀ session remote, property session remote →
      property (action.through session remote).1.2 (action.through session remote).2) :
    action.Keeps property legal := by
  intro session remote holds
  refine ⟨kept session remote holds, ?_⟩
  intro sending sent
  rw [silent session remote] at sent
  exact absurd sent List.not_mem_nil

theorem keeps_pure (value : α) : (pure value : Action α).Keeps property legal :=
  keeps_of_silent (fun _ _ => rfl) fun _ _ holds => holds

theorem keeps_throw (failure : Failure) : (throw failure : Action α).Keeps property legal :=
  keeps_of_silent (fun _ _ => rfl) fun _ _ holds => holds

theorem keeps_get : (get : Action Session).Keeps property legal :=
  keeps_of_silent (fun _ _ => rfl) fun _ _ holds => holds

theorem keeps_pause : pause.Keeps property legal :=
  keeps_of_silent (fun _ _ => rfl) fun _ _ holds => holds

theorem keeps_modify {change : Session → Session}
    (kept : ∀ session remote, property session remote → property (change session) remote) :
    (modify change : Action PUnit).Keeps property legal :=
  keeps_of_silent (fun _ _ => rfl) kept

theorem keeps_assembled (line : Text) (address : UInt16) :
    (assembled line address).Keeps property legal := by
  rw [assembled]
  split
  · exact keeps_pure _
  · exact keeps_throw _

theorem Keeps.bind {action : Action α} {rest : α → Action β}
    (first : action.Keeps property legal) (later : ∀ value, (rest value).Keeps property legal) :
    (action >>= rest).Keeps property legal := by
  intro session remote holds
  obtain ⟨kept, sent⟩ := first session remote holds
  rw [through_bind, transcript_bind]
  rcases led : action.through session remote with ⟨⟨failure | value, next⟩, after⟩
  · rw [led] at kept
    rw [List.append_nil]
    exact ⟨kept, sent⟩
  · rw [led] at kept
    obtain ⟨keptLater, sentLater⟩ := later value next after kept
    refine ⟨keptLater, ?_⟩
    intro sending member
    rcases List.mem_append.mp member with early | late
    · exact sent sending early
    · exact sentLater sending late

theorem Keeps.map {action : Action α} (kept : action.Keeps property legal) (answer : α → β) :
    (answer <$> action).Keeps property legal := by
  rw [map_eq_pure_bind]
  exact kept.bind fun value => keeps_pure (answer value)

/-- Executes an encoding at an address, and puts the program counter and the bytes there back. -/
def executeAt (scratch : UInt16) (encoding : Encoding) : Action Registers := do
  let before ← onLink (·.readRegisters)
  let window ← onLink (·.readWindow (.cpu scratch))
  onLink (·.writeMemory (.cpu scratch) encoding.bytes)
  onLink (·.setPc scratch)
  onLink (·.singleStep)
  let after ← onLink (·.readRegisters)
  onLink (·.setPc before.pc)
  onLink (·.writeMemory (.cpu scratch) (window.bytes.toList.take encoding.bytes.length))
  pure after

theorem executeOneShot_eq (line : Text) :
    executeOneShot line = (do
      let session ← get
      let encoding ← assembled line session.config.scratchAddress
      let stopped ← isStopped
      if stopped = true then executeAt session.config.scratchAddress encoding
      else do
        onLink (·.setRunning false)
        executeAt session.config.scratchAddress encoding) := by
  rw [executeOneShot]
  refine bind_congr fun session => bind_congr fun encoding => bind_congr fun stopped => ?_
  cases stopped <;> rfl

theorem disassembleAt_eq (address : Option Address) (count : Nat) :
    disassembleAt address count = (do
      let start ← address.elim (Address.cpu <$> effectiveAddress) pure
      let bytes ← onLink (·.readRange start (count * 3))
      pure (listingFrom start bytes count 0)) := by
  cases address with
  | none => simp [disassembleAt]
  | some address => simp [disassembleAt]

theorem keeps_onLink {exchange : Link → Exchange α}
    (kept : ∀ session : Session, (exchange session.link).Keeps (property session) legal) :
    (onLink exchange).Keeps property legal := by
  intro session remote holds
  rw [through_onLink, transcript_onLink]
  exact kept session remote holds

end Action

/-- Questions keep the property, with legal lines, and so do a look at the operator's wish and
changes of the breakpoint slot and of the cancellation flag. -/
structure Session.Invariant (property : Session → τ → Prop) (legal : Sending τ → Prop) : Prop where
  link : ∀ session : Session, session.link.Invariant (property session) legal
  asked : ∀ session remote, property session remote →
    property session (Transport.interrupted remote).2
  breakpoint : ∀ (session : Session) remote breakpoint, property session remote →
    property { session with breakpoint } remote
  cancelled : ∀ (session : Session) remote cancelled, property session remote →
    property { session with cancelled } remote

namespace Session.Invariant

open RemoteDebugger.Action (keeps_pure keeps_throw keeps_get keeps_pause keeps_modify keeps_assembled
  keeps_onLink)

variable (kept : Session.Invariant property legal)

include kept

theorem onLink (operation : LinkOperation α) :
    (Action.onLink operation.exchange).Keeps property legal :=
  keeps_onLink fun session => (kept.link session).exchange operation

theorem readRegisters : (Action.onLink (·.readRegisters)).Keeps property legal :=
  kept.onLink .readRegisters

theorem readWindow (address : Address) : (Action.onLink (·.readWindow address)).Keeps property legal :=
  kept.onLink (.readWindow address)

theorem readRange (address : Address) (length : Nat) :
    (Action.onLink (·.readRange address length)).Keeps property legal :=
  kept.onLink (.readRange address length)

theorem setRunning (running : Bool) : (Action.onLink (·.setRunning running)).Keeps property legal :=
  kept.onLink (.setRunning running)

theorem setPc (address : UInt16) : (Action.onLink (·.setPc address)).Keeps property legal :=
  kept.onLink (.setPc address)

theorem singleStep : (Action.onLink (·.singleStep)).Keeps property legal :=
  kept.onLink .singleStep

theorem writeMemory (address : Address) (bytes : List UInt8) :
    (Action.onLink (·.writeMemory address bytes)).Keeps property legal :=
  kept.onLink (.writeMemory address bytes)

theorem isCancelled : Action.isCancelled.Keeps property legal := by
  apply Action.keeps_of_silent
  · intro session remote
    rfl
  · intro session remote holds
    rw [Action.through_isCancelled]
    exact kept.cancelled session _ _ (kept.asked session remote holds)

theorem lowerFlag : Action.lowerFlag.Keeps property legal := by
  apply Action.keeps_of_silent
  · intro session remote
    rfl
  · intro session remote holds
    rw [Action.through_lowerFlag]
    exact kept.cancelled session _ _ (kept.asked session remote holds)

theorem raiseFlag : Action.raiseFlag.Keeps property legal :=
  keeps_modify fun session remote holds => kept.cancelled session remote true holds

theorem currentInstruction : Action.currentInstruction.Keeps property legal := by
  apply kept.readRegisters.bind
  intro registers
  apply (kept.readWindow _).bind
  intro window
  exact keeps_pure _

/-! Breakpoints. -/

theorem seemsStopped (left : Nat) (count : StallCount) :
    (Action.seemsStopped left count).Keeps property legal := by
  induction left generalizing count with
  | zero => exact keeps_pure false
  | succ left ih =>
    apply keeps_get.bind
    intro session
    apply kept.readRegisters.bind
    intro registers
    simp only
    split
    · exact keeps_pure true
    · exact keeps_pause.bind fun _ => ih _

theorem isStopped : Action.isStopped.Keeps property legal :=
  keeps_get.bind fun _ => kept.seemsStopped _ _

theorem placeBreakpoint (address : UInt32) :
    (Action.placeBreakpoint address).Keeps property legal := by
  apply kept.readRegisters.bind
  intro registers
  apply (kept.readWindow _).bind
  intro window
  apply (kept.writeMemory _ _).bind
  intro _
  have noted : ∀ armed, (modify fun session : Session => { session with
      breakpoint := some armed } : Action PUnit).Keeps property legal :=
    fun armed => keeps_modify fun session remote holds =>
      kept.breakpoint session remote (some armed) holds
  exact (noted _).bind fun _ => keeps_pure _

theorem setSoftwareBreakpoint (address : UInt32) :
    (Action.setSoftwareBreakpoint address).Keeps property legal := by
  rw [Action.setSoftwareBreakpoint_eq]
  apply kept.isStopped.bind
  intro stopped
  split
  · exact kept.placeBreakpoint address
  · apply (kept.setRunning false).bind
    intro _
    apply (kept.placeBreakpoint address).bind
    intro armed
    exact (kept.setRunning true).bind fun _ => keeps_pure armed

/-- The slot is emptied with a session that was looked at before, so this is no sequence of steps
that each keep the property. -/
theorem clearSoftwareBreakpoint : Action.clearSoftwareBreakpoint.Keeps property legal := by
  intro session remote holds
  have removal : ∀ armed : SoftwareBreakpoint, (do
      Action.onLink (·.setRunning false)
      Action.onLink (·.writeMemory armed.address armed.saved.toList)
      pure (some armed) : Action (Option SoftwareBreakpoint)).Keeps property legal := by
    intro armed
    apply (kept.setRunning false).bind
    intro _
    exact (kept.writeMemory _ _).bind fun _ => keeps_pure _
  rw [Action.clearSoftwareBreakpoint, Action.through_bind_of_ok (Action.through_get _ _),
    Action.transcript_bind]
  cases slot : session.breakpoint with
  | none =>
    simp only [Action.through_get, slot]
    exact keeps_pure none session remote holds
  | some armed =>
    simp only [Action.through_get, slot]
    exact removal armed { session with breakpoint := none } remote
      (kept.breakpoint session remote none holds)

/-! Code and frames. -/

theorem assembleAt (address : Address) (line : Text) :
    (Action.assembleAt address line).Keeps property legal := by
  apply (keeps_assembled line address.cpuAddress).bind
  intro encoding
  exact (kept.writeMemory address encoding.bytes).bind fun _ => keeps_pure encoding

theorem executeAt (scratch : UInt16) (encoding : Encoding) :
    (Action.executeAt scratch encoding).Keeps property legal := by
  apply kept.readRegisters.bind
  intro before
  apply (kept.readWindow (.cpu scratch)).bind
  intro window
  refine (kept.writeMemory _ _).bind fun _ => (kept.setPc scratch).bind fun _ =>
    kept.singleStep.bind fun _ => ?_
  apply kept.readRegisters.bind
  intro after
  exact (kept.setPc before.pc).bind fun _ => (kept.writeMemory _ _).bind fun _ => keeps_pure after

theorem executeOneShot (line : Text) : (Action.executeOneShot line).Keeps property legal := by
  rw [Action.executeOneShot_eq]
  apply keeps_get.bind
  intro session
  apply (keeps_assembled line _).bind
  intro encoding
  apply kept.isStopped.bind
  intro stopped
  split
  · exact kept.executeAt _ encoding
  · exact (kept.setRunning false).bind fun _ => kept.executeAt _ encoding

theorem frameAddresses : Action.frameAddresses.Keeps property legal := by
  apply kept.readRegisters.bind
  intro registers
  exact (kept.readWindow _).bind fun window => keeps_pure _

theorem effectiveAddress : Action.effectiveAddress.Keeps property legal := by
  apply keeps_get.bind
  intro session
  split
  · exact kept.readRegisters.bind fun registers => keeps_pure registers.pc
  · exact kept.frameAddresses.bind fun addresses => keeps_pure _

theorem disassembleAt (address : Option Address) (count : Nat) :
    (Action.disassembleAt address count).Keeps property legal := by
  have start : (address.elim (Address.cpu <$> Action.effectiveAddress) pure).Keeps property
      legal := by
    cases address with
    | none => exact kept.effectiveAddress.map Address.cpu
    | some address => exact keeps_pure address
  rw [Action.disassembleAt_eq]
  apply start.bind
  intro first
  exact (kept.readRange first (count * 3)).bind fun bytes => keeps_pure _

theorem framesAt (index : Nat) (addresses : List UInt16) :
    (Action.framesAt index addresses).Keeps property legal := by
  induction addresses generalizing index with
  | nil => exact keeps_pure []
  | cons address others ih =>
    apply (kept.readWindow (.cpu address)).bind
    intro window
    exact (ih (index + 1)).bind fun rest => keeps_pure _

theorem backtrace : Action.backtrace.Keeps property legal :=
  kept.frameAddresses.bind fun addresses => kept.framesAt 0 addresses

theorem readLocal (location : Address) (size : Nat) :
    (Action.readLocal location size).Keeps property legal := by
  rw [Action.readLocal.eq_def]
  split
  · exact (kept.onLink (.peek location)).map LocalData.byte
  · exact (kept.onLink (.peekWord location)).map LocalData.word
  · exact (kept.onLink (.peekDword location)).map LocalData.dword
  · exact (kept.readRange location _).map LocalData.raw

theorem readLocals (base : Int32) (entries : List LocalVariable) :
    (Action.readLocals base entries).Keeps property legal := by
  induction entries with
  | nil => exact keeps_pure []
  | cons entry others ih =>
    apply (kept.readLocal _ _).bind
    intro data
    exact ih.bind fun rest => keeps_pure _

theorem localsBy (functionAt : UInt16 → Option Function) :
    (Action.localsBy functionAt).Keeps property legal := by
  apply keeps_get.bind
  intro session
  apply kept.frameAddresses.bind
  intro addresses
  split
  · exact keeps_pure []
  · apply (kept.onLink (.peekWord (.cpu session.config.softStackPointer))).bind
    intro pointer
    exact kept.readLocals _ _

end Session.Invariant

end RemoteDebugger
