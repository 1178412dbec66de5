import Mathlib.Data.Nat.Find
import Mathlib.Order.Bounds.Basic
import RemoteDebugger.Proofs.Monitor.ValueLine
import RemoteDebugger.Proofs.Session.Action
import RemoteDebugger.Transport.Script

/-!
Telling a stall from samples. Two loops sample the program counter: one waits for a running
processor, the other decides whether the processor is stopped. Both keep a count of equal samples,
and the count reaches a threshold when a window of so many samples and the one before them shows one
program counter. So both loops end with the first such window, and they differ only in what they
take a threshold of zero for and in when they give up.
-/

set_option autoImplicit false

namespace RemoteDebugger

/-- The sample and as many as the threshold says before it are all equal. -/
def Stalls (samples : Nat → UInt16) (threshold last : Nat) : Prop :=
  threshold ≤ last ∧ ∀ index, last - threshold ≤ index → index ≤ last →
    samples index = samples last

namespace Stalls

variable {samples : Nat → UInt16} {threshold last : Nat}

theorem zero (samples : Nat → UInt16) (last : Nat) : Stalls samples 0 last := by
  refine ⟨Nat.zero_le last, fun index from_ upTo => ?_⟩
  have same : index = last := by omega
  rw [same]

theorem not_succ_zero : ¬ Stalls samples (threshold + 1) 0 :=
  fun stalls => absurd stalls.1 (Nat.not_succ_le_zero threshold)

theorem succ_succ : Stalls samples (threshold + 1) (last + 1) ↔
    samples last = samples (last + 1) ∧ Stalls samples threshold last := by
  have start : last + 1 - (threshold + 1) = last - threshold := Nat.add_sub_add_right _ _ _
  constructor
  · rintro ⟨long, equal⟩
    rw [start] at equal
    have repeated : samples last = samples (last + 1) := equal last (by omega) (by omega)
    refine ⟨repeated, Nat.le_of_succ_le_succ long, fun index after before => ?_⟩
    rw [equal index after (by omega), repeated]
  · rintro ⟨repeated, long, equal⟩
    refine ⟨Nat.succ_le_succ long, fun index after before => ?_⟩
    rw [start] at after
    rcases Nat.lt_or_eq_of_le before with earlier | rfl
    · rw [equal index after (by omega), repeated]
    · rfl

theorem isLeast_iff : IsLeast {index | Stalls samples threshold index} last ↔
    Stalls samples threshold last ∧ ∀ earlier < last, ¬ Stalls samples threshold earlier := by
  constructor
  · rintro ⟨stalls, least⟩
    exact ⟨stalls, fun earlier before other => absurd (least other) (Nat.not_le_of_lt before)⟩
  · rintro ⟨stalls, first⟩
    refine ⟨stalls, fun other there => ?_⟩
    exact Nat.le_of_not_lt fun before => first other before there

end Stalls

namespace StallCount

/-- The count after so many samples. -/
def after (samples : Nat → UInt16) : Nat → StallCount
  | 0 => {}
  | taken + 1 => (after samples taken).observe (samples taken)

variable (samples : Nat → UInt16)

theorem observe_last (count : StallCount) (pc : UInt16) : (count.observe pc).last = some pc := by
  rw [observe]
  split
  · assumption
  · rfl

theorem same_after_one : (after samples 1).same = 0 := rfl

theorem same_after_succ (taken : Nat) : (after samples (taken + 2)).same =
    if samples taken = samples (taken + 1) then (after samples (taken + 1)).same + 1 else 0 := by
  have last : (after samples (taken + 1)).last = some (samples taken) := observe_last _ _
  rw [after, observe, last]
  by_cases repeated : samples taken = samples (taken + 1)
  · rw [if_pos repeated, if_pos (congrArg some repeated)]
  · rw [if_neg repeated, if_neg fun same => repeated (Option.some.inj same)]

theorem threshold_le_same_iff (threshold taken : Nat) :
    threshold ≤ (after samples (taken + 1)).same ↔ Stalls samples threshold taken := by
  induction taken generalizing threshold with
  | zero =>
    rw [same_after_one]
    cases threshold with
    | zero => simp [Stalls.zero]
    | succ threshold => simp [Stalls.not_succ_zero]
  | succ taken ih =>
    rw [same_after_succ]
    cases threshold with
    | zero => simp [Stalls.zero]
    | succ threshold =>
      rw [Stalls.succ_succ, ← ih]
      split
      · rename_i repeated
        simp [repeated]
      · rename_i changed
        simp [changed]

end StallCount

instance (samples : Nat → UInt16) (threshold last : Nat) :
    Decidable (Stalls samples threshold last) :=
  decidable_of_iff _ (StallCount.threshold_le_same_iff samples threshold last)

/-! Rounds of sampling. -/

section Rounds

variable {β : Type} {loop : Nat → Nat → β} {ends : Nat → β} {samples : Nat → UInt16}
  {threshold rounds last : Nat}

private theorem loop_goes_on
    (round : ∀ left, ∀ taken < rounds, loop (left + 1) taken =
      if Stalls samples threshold taken then ends taken else loop left (taken + 1))
    {taken : Nat} (within : taken ≤ rounds)
    (moving : ∀ earlier < taken, ¬ Stalls samples threshold earlier) :
    loop rounds 0 = loop (rounds - taken) taken := by
  induction taken with
  | zero => rw [Nat.sub_zero]
  | succ taken ih =>
    have before := ih (by omega) fun earlier less => moving earlier (by omega)
    have left : rounds - taken = rounds - (taken + 1) + 1 := by omega
    rw [before, left, round _ taken (by omega), if_neg (moving taken (Nat.lt_succ_self taken))]

private theorem loop_of_isLeast
    (round : ∀ left, ∀ taken < rounds, loop (left + 1) taken =
      if Stalls samples threshold taken then ends taken else loop left (taken + 1))
    (within : last < rounds) (first : IsLeast {index | Stalls samples threshold index} last) :
    loop rounds 0 = ends last := by
  obtain ⟨stalls, moving⟩ := Stalls.isLeast_iff.mp first
  have left : rounds - last = rounds - last - 1 + 1 := by omega
  rw [loop_goes_on round (Nat.le_of_lt within) moving, left, round _ last within, if_pos stalls]

private theorem loop_of_moving
    (round : ∀ left, ∀ taken < rounds, loop (left + 1) taken =
      if Stalls samples threshold taken then ends taken else loop left (taken + 1))
    (moving : ∀ index < rounds, ¬ Stalls samples threshold index) :
    loop rounds 0 = loop 0 rounds := by
  rw [loop_goes_on round (Nat.le_refl rounds) moving, Nat.sub_self]

end Rounds

section Sampling

variable {σ τ : Type} [Transport σ] [Transport τ]

/-- A read of the registers shows a program counter. -/
def Link.Shows (link : Link) (remote : τ) (pc : UInt16) (after : τ) : Prop :=
  ∃ registers, link.readRegisters.through remote = (.ok registers, after) ∧ registers.pc = pc

/-- So many reads of the registers in a row give these samples. Each leads the other side to the
next of its states. -/
def Link.Probes (link : Link) (samples : Nat → UInt16) (count : Nat) (remote : Nat → τ) : Prop :=
  ∀ taken < count, link.Shows (remote taken) (samples taken) (remote (taken + 1))

/-- So many rounds give these samples, in each of which the operator is asked first and does not
want to stop. -/
def Link.Polls (link : Link) (samples : Nat → UInt16) (count : Nat) (remote : Nat → τ) : Prop :=
  ∀ taken < count, ∃ asked, Transport.interrupted (remote taken) = (false, asked) ∧
    link.Shows asked (samples taken) (remote (taken + 1))

theorem Link.Polls.mono {link : Link} {samples : Nat → UInt16} {count fewer : Nat}
    {remote : Nat → τ} (polls : link.Polls samples count remote) (less : fewer ≤ count) :
    link.Polls samples fewer remote :=
  fun taken within => polls taken (Nat.lt_of_lt_of_le within less)

namespace Action

variable {session : Session} {samples : Nat → UInt16} {remote asked after : τ} {taken : Nat}

private theorem through_isCancelled_of_unwilling (uncancelled : session.cancelled = false)
    (unwilling : Transport.interrupted remote = (false, asked)) :
    isCancelled.through session remote = ((.ok false, session), asked) := by
  rcases session with ⟨config, breakpoint, state, frame, cancelled⟩
  obtain rfl : cancelled = false := uncancelled
  rw [through_isCancelled, unwilling]
  rfl

theorem awaitStall_round (uncancelled : session.cancelled = false)
    (unwilling : Transport.interrupted remote = (false, asked))
    (shows : session.link.Shows asked (samples taken) after) (left : Nat) :
    (awaitStall (left + 1) (.after samples taken)).through session remote =
      if Stalls samples session.config.stallThreshold taken then
        (stalled (samples taken)).through session after
      else (awaitStall left (.after samples (taken + 1))).through session after := by
  obtain ⟨registers, read, sample⟩ := shows
  have reached := StallCount.threshold_le_same_iff samples session.config.stallThreshold taken
  have calm := through_isCancelled_of_unwilling uncancelled unwilling
  have poll : (onLink (·.readRegisters)).through session asked =
      ((.ok registers, session), after) := through_onLink_of_ok read
  rw [awaitStall, through_bind_of_ok calm]
  simp only [Bool.false_eq_true, if_false]
  rw [through_bind_of_ok (through_pause _ _), through_bind_of_ok (through_get _ _),
    through_bind_of_ok poll, sample]
  show (if (StallCount.after samples (taken + 1)).same < session.config.stallThreshold then _
    else _ : Action StopReason).through session after = _
  by_cases stalls : Stalls samples session.config.stallThreshold taken
  · rw [if_neg (Nat.not_lt.mpr (reached.mpr stalls)), if_pos stalls]
  · rw [if_pos (Nat.lt_of_not_le fun enough => stalls (reached.mp enough)), if_neg stalls]
    rfl

theorem seemsStopped_round (shows : session.link.Shows remote (samples taken) after)
    (left : Nat) :
    (seemsStopped (left + 1) (.after samples taken)).through session remote =
      if Stalls samples (max session.config.stallThreshold 1) taken then
        ((.ok true, session), after)
      else (seemsStopped left (.after samples (taken + 1))).through session after := by
  obtain ⟨registers, read, sample⟩ := shows
  have reached :=
    StallCount.threshold_le_same_iff samples (max session.config.stallThreshold 1) taken
  have probe : (onLink (·.readRegisters)).through session remote =
      ((.ok registers, session), after) := through_onLink_of_ok read
  rw [seemsStopped, through_bind_of_ok (through_get _ _), through_bind_of_ok probe, sample]
  show (if max session.config.stallThreshold 1 ≤ (StallCount.after samples (taken + 1)).same then _
    else _ : Action Bool).through session after = _
  by_cases stalls : Stalls samples (max session.config.stallThreshold 1) taken
  · rw [if_pos (reached.mpr stalls), if_pos stalls]
    rfl
  · rw [if_neg fun enough => stalls (reached.mp enough), if_neg stalls,
      through_bind_of_ok (through_pause _ _)]
    rfl

/-- Over no link does the action use up an allowance of rounds. -/
def Finishes {α : Type} (τ : Type) [Transport τ] (action : Action α) : Prop :=
  ∀ (session : Session) (remote : τ),
    (action.through session remote).1.1 ≠ .error .unfinished

theorem Finishes.bind {α β : Type} {action : Action α} {rest : α → Action β}
    (first : action.Finishes τ) (later : ∀ value, (rest value).Finishes τ) :
    (action >>= rest).Finishes τ := by
  intro session remote
  rw [through_bind]
  rcases led : action.through session remote with ⟨⟨failure | value, next⟩, after⟩
  · have done := first session remote
    rw [led] at done
    exact fun same => done (congrArg Except.error (Except.error.inj same))
  · exact later value next after

theorem finishes_onLink {α : Type} (exchange : Link → Exchange α) :
    (onLink exchange).Finishes τ := by
  intro session remote
  rw [through_onLink]
  rcases (exchange session.link).through remote with ⟨cause | value, after⟩ <;>
    simp [Except.mapError]

theorem finishes_of_still {α : Type} {action : Action α}
    (still : ∀ session (remote : τ), ∃ value next,
      action.through session remote = ((.ok value, next), remote)) : action.Finishes τ := by
  intro session remote
  obtain ⟨value, next, led⟩ := still session remote
  simp [led]

theorem finishes_pure {α : Type} (value : α) : (pure value : Action α).Finishes τ :=
  finishes_of_still fun _ _ => ⟨_, _, rfl⟩

theorem finishes_clearSoftwareBreakpoint : clearSoftwareBreakpoint.Finishes τ := by
  apply (finishes_of_still fun _ _ => ⟨_, _, through_get _ _⟩).bind
  intro session
  cases session.breakpoint with
  | none => exact finishes_pure none
  | some armed =>
    apply (finishes_of_still fun _ _ => ⟨_, _, through_set _ _ _⟩).bind
    intro _
    exact (finishes_onLink _).bind fun _ => (finishes_onLink _).bind fun _ => finishes_pure _

theorem finishes_stalled (pc : UInt16) : (stalled pc).Finishes τ := by
  apply (finishes_of_still fun _ _ => ⟨_, _, through_get _ _⟩).bind
  intro session
  apply (finishes_of_still fun _ _ => ⟨_, _, through_enter _ _ _⟩).bind
  intro _
  cases session.breakpoint.filter fun armed => armed.contains pc with
  | none => exact finishes_pure _
  | some armed => exact finishes_clearSoftwareBreakpoint.bind fun _ => finishes_pure _

theorem through_awaitStall (uncancelled : session.cancelled = false) {rounds : Nat}
    {polled : Nat → τ} (polls : session.link.Polls samples rounds polled) :
    (∀ last < rounds,
      IsLeast {index | Stalls samples session.config.stallThreshold index} last →
      (awaitStall rounds {}).through session (polled 0) =
        (stalled (samples last)).through session (polled (last + 1))) ∧
    ((∀ index < rounds, ¬ Stalls samples session.config.stallThreshold index) →
      (awaitStall rounds {}).through session (polled 0) =
        ((.error .unfinished, session), polled rounds)) := by
  let loop (left taken : Nat) := (awaitStall left (.after samples taken)).through session
    (polled taken)
  have round : ∀ left, ∀ taken < rounds, loop (left + 1) taken =
      if Stalls samples session.config.stallThreshold taken then
        (stalled (samples taken)).through session (polled (taken + 1))
      else loop left (taken + 1) := by
    intro left taken within
    obtain ⟨asked, unwilling, shows⟩ := polls taken within
    exact awaitStall_round uncancelled unwilling shows left
  exact ⟨fun last within first => loop_of_isLeast round within first, loop_of_moving round⟩

theorem through_isStopped {probed : Nat → τ}
    (probes : session.link.Probes samples session.config.stoppedCheckPolls probed) :
    (∀ last < session.config.stoppedCheckPolls,
      IsLeast {index | Stalls samples (max session.config.stallThreshold 1) index} last →
      isStopped.through session (probed 0) = ((.ok true, session), probed (last + 1))) ∧
    ((∀ index < session.config.stoppedCheckPolls,
        ¬ Stalls samples (max session.config.stallThreshold 1) index) →
      isStopped.through session (probed 0) =
        ((.ok false, session), probed session.config.stoppedCheckPolls)) := by
  let loop (left taken : Nat) := (seemsStopped left (.after samples taken)).through session
    (probed taken)
  have round : ∀ left, ∀ taken < session.config.stoppedCheckPolls, loop (left + 1) taken =
      if Stalls samples (max session.config.stallThreshold 1) taken then
        ((.ok true, session), probed (taken + 1))
      else loop left (taken + 1) :=
    fun left taken within => seemsStopped_round (probes taken within) left
  exact ⟨fun last within first => loop_of_isLeast round within first, loop_of_moving round⟩

private theorem exists_isLeast {threshold count : Nat} (some : ∃ index < count,
    Stalls samples threshold index) :
    ∃ last < count, IsLeast {index | Stalls samples threshold index} last := by
  obtain ⟨index, within, stalls⟩ := some
  have found : ∃ other, Stalls samples threshold other := ⟨index, stalls⟩
  refine ⟨Nat.find found, Nat.lt_of_le_of_lt (Nat.find_min' found stalls) within, ?_⟩
  exact ⟨Nat.find_spec found, fun other there => Nat.find_min' found there⟩

/-- Waiting for a stall ends with the first window of equal samples that is as long as the
threshold. The check ends with the first one that is as long as the threshold and of two samples at
least, or says no after all its samples. So with a threshold of one or more the check says of the
same samples that the processor is stopped exactly when waiting ends within as many rounds as the
check takes samples. -/
theorem stalls_detected_alike (uncancelled : session.cancelled = false) {rounds : Nat}
    {polled : Nat → τ} {probed : Nat → σ} (polls : session.link.Polls samples rounds polled)
    (probes : session.link.Probes samples session.config.stoppedCheckPolls probed) :
    (∀ last < rounds,
      IsLeast {index | Stalls samples session.config.stallThreshold index} last →
      (awaitStall rounds {}).through session (polled 0) =
        (stalled (samples last)).through session (polled (last + 1))) ∧
    ((∀ index < rounds, ¬ Stalls samples session.config.stallThreshold index) →
      (awaitStall rounds {}).through session (polled 0) =
        ((.error .unfinished, session), polled rounds)) ∧
    (∀ last < session.config.stoppedCheckPolls,
      IsLeast {index | Stalls samples (max session.config.stallThreshold 1) index} last →
      isStopped.through session (probed 0) = ((.ok true, session), probed (last + 1))) ∧
    ((∀ index < session.config.stoppedCheckPolls,
        ¬ Stalls samples (max session.config.stallThreshold 1) index) →
      isStopped.through session (probed 0) =
        ((.ok false, session), probed session.config.stoppedCheckPolls)) ∧
    (1 ≤ session.config.stallThreshold → session.config.stoppedCheckPolls ≤ rounds →
      ((isStopped.through session (probed 0)).1.1 = .ok true ↔
        ((awaitStall session.config.stoppedCheckPolls {}).through session (polled 0)).1.1 ≠
          .error .unfinished)) := by
  obtain ⟨waits, moves⟩ := through_awaitStall uncancelled polls
  obtain ⟨stops, goes⟩ := through_isStopped probes
  refine ⟨waits, moves, stops, goes, fun positive enough => ?_⟩
  obtain ⟨waits, moves⟩ := through_awaitStall uncancelled (polls.mono enough)
  rw [Nat.max_eq_left positive] at stops goes
  by_cases some : ∃ index < session.config.stoppedCheckPolls,
      Stalls samples session.config.stallThreshold index
  · obtain ⟨last, within, first⟩ := exists_isLeast some
    rw [stops last within first, waits last within first]
    exact iff_of_true rfl (finishes_stalled _ _ _)
  · have none : ∀ index < session.config.stoppedCheckPolls,
        ¬ Stalls samples session.config.stallThreshold index :=
      fun index within stalls => some ⟨index, within, stalls⟩
    rw [goes none, moves none]
    simp

end Action

end Sampling

namespace Script

/-- Register lines with these program counters. -/
def showing (pcs : List UInt16) : Script :=
  { replies := pcs.map fun pc => .line (Registers.line { pc, flags := "..E..I..".toList }) }

variable {link : Link}

theorem shows_showing (pc : UInt16) (pcs : List UInt16) :
    link.Shows (showing (pc :: pcs)) pc (showing pcs) := by
  refine ⟨{ pc, flags := "..E..I..".toList }, ?_, rfl⟩
  have read := Registers.ofLine?_line { pc, flags := "..E..I..".toList }
  have sent : (Exchange.send Command.readRegisters.line).through (showing (pc :: pcs)) =
      (.ok (), showing (pc :: pcs)) := rfl
  rw [Link.readRegisters, Link.ask, Exchange.through_bind_of_ok sent]
  exact Link.through_await_of_read rfl read

theorem probes_showing (pcs : List UInt16) :
    link.Probes (pcs.getD · 0) pcs.length fun taken => showing (pcs.drop taken) := by
  intro taken within
  show link.Shows (showing (pcs.drop taken)) (pcs.getD taken 0) (showing (pcs.drop (taken + 1)))
  rw [List.drop_eq_getElem_cons within, List.getD_eq_getElem?_getD,
    List.getElem?_eq_getElem within, Option.getD_some]
  exact shows_showing _ _

theorem polls_showing (pcs : List UInt16) :
    link.Polls (pcs.getD · 0) pcs.length fun taken => showing (pcs.drop taken) :=
  fun taken within => ⟨_, rfl, probes_showing pcs taken within⟩

end Script

namespace Action

theorem stalls_detected_alike_last :
    let session : Session := { config := { stallThreshold := 2, stoppedCheckPolls := 5 } }
    (awaitStall 5 {}).through session (Script.showing [1, 1, 2, 2, 2]) =
        (stalled 2).through session (Script.showing []) ∧
      isStopped.through session (Script.showing [1, 1, 2, 2, 2]) =
        ((.ok true, session), Script.showing []) := by
  intro session
  have lowered : session.cancelled = false := rfl
  obtain ⟨waits, -, stops, -, -⟩ := stalls_detected_alike lowered
    (Script.polls_showing [1, 1, 2, 2, 2]) (Script.probes_showing [1, 1, 2, 2, 2])
  have first : ∀ threshold, threshold = 2 → IsLeast
      {index | Stalls ([1, 1, 2, 2, 2].getD · 0) threshold index} 4 := by
    rintro threshold rfl
    exact Stalls.isLeast_iff.mpr (by decide)
  exact ⟨waits 4 (by decide) (first _ rfl), stops 4 (by decide) (first _ rfl)⟩

end Action

end RemoteDebugger
