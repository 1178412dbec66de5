import RemoteDebugger.CommandLine.Execution
import RemoteDebugger.Proofs.Session.Continue

/-!
Resuming from the command line. The program leads one action and is done, so what a breakpoint saved
is gone when it ends.
-/

set_option autoImplicit false

namespace RemoteDebugger.CommandLine

open SoftwareBreakpoint (armedOn)

variable {invocation : Invocation} {setup : Setup} {rounds : Nat} {target final : Simulator}
  {text : Text} {lines : List Text} {software : Bool}

theorem dialogue_eq_ok (led : Dialogue.through (invocation.dialogue rounds setup).run target =
    (.ok lines, final)) :
    ∃ action next, invocation.request.action rounds setup.symbols = .ok action ∧
      action.through (invocation.session setup) target = ((.ok lines, next), final) := by
  rw [Invocation.dialogue] at led
  cases planned : invocation.request.action rounds setup.symbols with
  | error error =>
    rw [planned] at led
    exact absurd (Prod.mk.inj led).1 (by simp)
  | ok action =>
    rw [planned] at led
    change Dialogue.through (action.run.run (invocation.session setup) >>= _) target = _ at led
    rw [Dialogue.through_bind] at led
    refine ⟨action, ?_⟩
    rw [Action.through]
    generalize Dialogue.through (action.run.run (invocation.session setup)) target = outcome at led ⊢
    rcases outcome with ⟨⟨failure | printed, next⟩, after⟩
    · cases led
    · cases led
      exact ⟨next, rfl, rfl⟩

theorem dialogue_resume_eq_ok (request : invocation.request = .resume (some text) software)
    (led : Dialogue.through (invocation.dialogue rounds setup).run target = (.ok lines, final)) :
    ∃ place reason next, readHex text = .ok place ∧ lines = [reason.text] ∧
      (Action.continueExecution rounds (some place) software).through (invocation.session setup)
        target = ((.ok reason, next), final) := by
  obtain ⟨action, next, planned, led⟩ := dialogue_eq_ok led
  rw [request] at planned
  cases read : readHex text with
  | error cause =>
    simp only [Request.action, Option.mapM_some, read] at planned
    cases planned
  | ok place =>
    simp only [Request.action, Option.mapM_some, read] at planned
    cases planned
    rw [Request.stopped, ← bind_pure_comp, Action.bind_eq_ok] at led
    obtain ⟨reason, _, _, continued, led⟩ := led
    cases led
    exact ⟨place, reason, next, rfl, rfl, continued⟩

/-- Resuming up to a software breakpoint has patched the program after some instructions, and takes
the patch out again if and only if it was hit. So if the program itself spares the three bytes, they
are as before exactly if the breakpoint was hit, or a self-jump was there already. -/
theorem resume_restores_iff (request : invocation.request = .resume (some text) true)
    (quiet : target.pending = [])
    (led : Dialogue.through (invocation.dialogue rounds setup).run target = (.ok lines, final)) :
    ∃ (place : UInt32) (reason : StopReason) (before after : Nat),
      readHex text = .ok place ∧ lines = [reason.text] ∧
      (reason.IsHit → final.machine = (armedOn (Machine.execute^[before] target.machine)
        place).unpatch (target.machine.throughPatch place before after)) ∧
      (¬ reason.IsHit → final.machine = target.machine.throughPatch place before after) ∧
      (target.machine.SparesPatch place before after →
        ((armedOn target.machine place).SameUnder final.machine target.machine ↔
          reason.IsHit ∨ (armedOn target.machine place).InPlace target.machine)) := by
  obtain ⟨place, reason, next, read, printed, continued⟩ := dialogue_resume_eq_ok request led
  obtain ⟨before, after, removed, left, restored⟩ :=
    Action.continueExecution_sameUnder_iff quiet continued
  exact ⟨place, reason, before, after, read, printed, removed, left, restored⟩

/-- A stopped monitor at `JMP $2000`. -/
def looping : Simulator := .loaded 0x01FF [0x4C, 0x00, 0x20]

/-- A `cont --soft` to an address behind the loop, with the usual settings and no symbols. -/
def resumeBehind : Invocation := { request := .resume (some "2100".toList) true }

theorem resume_looping : ∃ final,
    Dialogue.through (resumeBehind.dialogue 10 ⟨{}, none⟩).run looping =
      (.ok ["halted at $2000".toList], final) := by
  have printed : (Dialogue.through (resumeBehind.dialogue 10 ⟨{}, none⟩).run
      looping).1.toOption = some ["halted at $2000".toList] := by
    decide +kernel
  generalize Dialogue.through (resumeBehind.dialogue 10 ⟨{}, none⟩).run looping = outcome
    at printed ⊢
  rcases outcome with ⟨failure | lines, final⟩
  · simp [Except.toOption] at printed
  · cases printed
    exact ⟨final, rfl⟩

private theorem readHex_behind : readHex "2100".toList = .ok 0x2100 :=
  rfl

theorem looping_sparesPatch (before after : Nat) :
    looping.machine.SparesPatch 0x2100 before after := by
  intro index _
  have stall : looping.machine.current.effect = .jump looping.machine.registers.pc := by
    rfl
  refine ⟨Machine.spares_of_stall stall _ _, ?_⟩
  -- Before the patch the loop changes the last opcode only, and the patch is behind the loop.
  obtain ⟨opcode, same⟩ := Machine.iterate_stall stall before
  rw [same, SoftwareBreakpoint.patch_noting]
  apply Machine.spares_of_stall
  show ((armedOn looping.machine 0x2100).patch looping.machine).current.effect = .jump 0x2000
  rfl

private theorem looping_not_restorable {reason : StopReason}
    (printed : ["halted at $2000".toList] = [reason.text]) :
    ¬ (reason.IsHit ∨ (armedOn looping.machine 0x2100).InPlace looping.machine) := by
  rintro (hit | there)
  · have told := hit.text
    rw [← (List.cons.inj printed).1] at told
    exact absurd told (by decide)
  · exact absurd (there 0 (by decide)) (by decide +kernel)

theorem resume_restores_iff_looping : ∃ final,
    Dialogue.through (resumeBehind.dialogue 10 ⟨{}, none⟩).run looping =
      (.ok ["halted at $2000".toList], final) ∧
    ¬ (armedOn looping.machine 0x2100).SameUnder final.machine looping.machine := by
  obtain ⟨final, led⟩ := resume_looping
  obtain ⟨place, reason, before, after, read, printed, -, -, restored⟩ :=
    resume_restores_iff rfl rfl led
  rw [readHex_behind] at read
  cases read
  refine ⟨final, led, fun same => ?_⟩
  exact looping_not_restorable printed ((restored (looping_sparesPatch before after)).mp same)

theorem resume_leaves_patch :
    ¬ ∀ (invocation : Invocation) (setup : Setup) (rounds : Nat) (target final : Simulator)
      (text : Text) (lines : List Text) (place : UInt32),
      invocation.request = .resume (some text) true → target.Ready → target.running = false →
      readHex text = .ok place →
      (∀ before after, target.machine.SparesPatch place before after) →
      Dialogue.through (invocation.dialogue rounds setup).run target = (.ok lines, final) →
      (armedOn target.machine place).SameUnder final.machine target.machine := by
  intro restores
  obtain ⟨final, led⟩ := resume_looping
  have same := restores _ _ _ _ _ "2100".toList _ 0x2100 rfl ⟨rfl, rfl⟩ rfl readHex_behind
    looping_sparesPatch led
  obtain ⟨place, reason, next, read, printed, continued⟩ := dialogue_resume_eq_ok rfl led
  rw [readHex_behind] at read
  cases read
  obtain ⟨before, after, -, -, restored⟩ := Action.continueExecution_sameUnder_iff rfl continued
  exact looping_not_restorable printed ((restored (looping_sparesPatch before after)).mp same)

end RemoteDebugger.CommandLine
