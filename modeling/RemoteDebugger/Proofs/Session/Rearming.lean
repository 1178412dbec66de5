import Mathlib.Data.List.Induction
import RemoteDebugger.Proofs.Session.Footprint
import RemoteDebugger.Proofs.Session.Obedience
import RemoteDebugger.Proofs.Session.Removal

/-!
Arming one breakpoint after another. Each takes the place of the one before in the slot, and the
patch of that one stays in memory. So a breakpoint saves the program with the earlier patches in it,
and this is what a removal at the end puts back.
-/

set_option autoImplicit false

namespace RemoteDebugger

open SoftwareBreakpoint (armedOn)

/-- The machine after breakpoints were armed one after another, with each patch left in place. -/
def Machine.rearmed (machine : Machine) (addresses : List UInt32) : Machine :=
  addresses.foldl (fun image address => (armedOn image address).patch image) machine

namespace Machine

variable {machine other : Machine} {addresses : List UInt32} {physical : UInt32}

theorem rearmed_concat (machine : Machine) (addresses : List UInt32) (address : UInt32) :
    machine.rearmed (addresses ++ [address]) =
      (armedOn (machine.rearmed addresses) address).patch (machine.rearmed addresses) := by
  rw [rearmed, List.foldl_append]
  rfl

theorem rearmed_registers (machine : Machine) (addresses : List UInt32) :
    (machine.rearmed addresses).registers = machine.registers := by
  induction addresses using List.reverseRecOn with
  | nil => rfl
  | append_singleton addresses address ih =>
    rw [rearmed_concat, SoftwareBreakpoint.patch_registers, ih]

theorem touches_armedOn_congr (same : machine.registers = other.registers) (address : UInt32) :
    (armedOn machine address).Touches physical ↔ (armedOn other address).Touches physical := by
  simp only [SoftwareBreakpoint.Touches, SoftwareBreakpoint.place, armedOn, same]

theorem read_rearmed_of_apart
    (apart : ∀ address ∈ addresses, ¬ (armedOn machine address).Touches physical) :
    (machine.rearmed addresses).read physical = machine.read physical := by
  induction addresses using List.reverseRecOn with
  | nil => rfl
  | append_singleton addresses address ih =>
    rw [rearmed_concat, SoftwareBreakpoint.read_patch_of_apart]
    · exact ih fun earlier member => apart earlier (List.mem_append_left _ member)
    · rw [touches_armedOn_congr (machine.rearmed_registers addresses)]
      exact apart address (List.mem_append_right _ (List.mem_singleton.mpr rfl))

end Machine

namespace Action

variable {session before last next : Session} {target simulator after final : Simulator}
  {address : UInt32} {addresses : List UInt32} {removed : SoftwareBreakpoint}

theorem isStopped_of_stopped {answer : Bool} (quiet : simulator.pending = [])
    (stopped : simulator.running = false) (recognises : session.config.RecognisesStop)
    (led : isStopped.through session simulator = ((.ok answer, next), after)) : answer = true := by
  obtain ⟨same, -, -⟩ := performs_isStopped.eq_ok ⟨quiet, stopped, rfl⟩ led
  rw [same, decide_eq_true recognises]

theorem setSoftwareBreakpoint_recognised {result : Except Failure SoftwareBreakpoint}
    (quiet : simulator.pending = []) (stopped : simulator.running = false)
    (recognises : session.config.RecognisesStop)
    (led : (setSoftwareBreakpoint address).through session simulator = ((result, next), after)) :
    after.running = false ∧
      ((∃ failure, result = .error failure ∧ next = session ∧ after.machine = simulator.machine) ∨
        (result = .ok (armedOn simulator.machine address) ∧
          next = { session with breakpoint := some (armedOn simulator.machine address) } ∧
          after.machine = (armedOn simulator.machine address).patch simulator.machine)) := by
  have lasting := Simulator.lasting_stopped simulator.machine
  rw [setSoftwareBreakpoint_eq] at led
  rcases bind_eq_iff.mp led with ⟨failure, failed, rfl⟩ |
    ⟨answer, same, sampled, sampling, placing⟩
  · obtain ⟨rfl, ⟨halted, unmoved⟩, -⟩ := isStopped_lasting lasting quiet ⟨stopped, rfl⟩ failed
    exact ⟨halted, .inl ⟨failure, rfl, rfl, unmoved⟩⟩
  cases isStopped_of_stopped quiet stopped recognises sampling
  obtain ⟨rfl, kept, drained⟩ := isStopped_lasting lasting quiet ⟨stopped, rfl⟩ sampling
  rw [if_pos rfl] at placing
  rcases placeBreakpoint_lasting lasting (drained true rfl) kept placing with
    ⟨failure, rfl, rfl, halted, unmoved⟩ | ⟨seen, ⟨halted, unmoved⟩, -, rfl, rfl, rfl⟩
  · exact ⟨halted, .inl ⟨failure, rfl, rfl, unmoved⟩⟩
  · rw [← unmoved]
    exact ⟨halted, .inr ⟨rfl, rfl, rfl⟩⟩

/-- What a sequence of arming calls leads to, with the addresses of the calls that succeed. Another
call is made only when no reply waits, which is so after each call that succeeds. -/
inductive Armings (session : Session) (target : Simulator) :
    List UInt32 → Session → Simulator → Prop where
  | start : Armings session target [] session target
  | armed {addresses : List UInt32} {address : UInt32} {before next : Session}
      {simulator after : Simulator} {armed : SoftwareBreakpoint}
      (earlier : Armings session target addresses before simulator)
      (quiet : simulator.pending = [])
      (led : (setSoftwareBreakpoint address).through before simulator =
        ((.ok armed, next), after)) :
      Armings session target (addresses ++ [address]) next after
  | failed {addresses : List UInt32} {address : UInt32} {before next : Session}
      {simulator after : Simulator} {failure : Failure}
      (earlier : Armings session target addresses before simulator)
      (quiet : simulator.pending = [])
      (led : (setSoftwareBreakpoint address).through before simulator =
        ((.error failure, next), after)) :
      Armings session target addresses next after

/-- Arms one breakpoint after another. -/
def armEach : List UInt32 → Action Unit
  | [] => pure ()
  | address :: others => do
    let _ ← setSoftwareBreakpoint address
    armEach others

theorem Armings.append {others : List UInt32} {value : Unit}
    (earlier : Armings session target addresses before simulator) (quiet : simulator.pending = [])
    (led : (armEach others).through before simulator = ((.ok value, last), final)) :
    Armings session target (addresses ++ others) last final ∧ final.pending = [] := by
  induction others generalizing addresses before simulator with
  | nil =>
    rw [armEach, through_pure] at led
    cases led
    rw [List.append_nil]
    exact ⟨earlier, quiet⟩
  | cons address others ih =>
    rw [armEach, bind_eq_ok] at led
    obtain ⟨armed, next, after, arming, led⟩ := led
    have lasting : Simulator.Lasting fun _ => True :=
      ⟨fun _ _ => trivial, fun _ _ => trivial, fun _ _ _ => trivial, fun _ _ => trivial⟩
    obtain ⟨-, -, -, -, drained, -⟩ := setSoftwareBreakpoint_eq_ok lasting quiet trivial arming
    have further := ih (.armed earlier quiet arming) drained led
    rwa [List.append_assoc, List.singleton_append] at further

theorem Armings.image (armings : Armings session target addresses last final)
    (stopped : target.running = false) (recognises : session.config.RecognisesStop) :
    last.config = session.config ∧ final.running = false ∧
      final.machine = target.machine.rearmed addresses ∧
      ((addresses = [] ∧ last.breakpoint = session.breakpoint) ∨
        ∃ earlier address, addresses = earlier ++ [address] ∧
          last.breakpoint = some (armedOn (target.machine.rearmed earlier) address)) := by
  induction armings with
  | start => exact ⟨rfl, stopped, rfl, .inl ⟨rfl, rfl⟩⟩
  | armed earlier quiet led ih =>
    obtain ⟨config, halted, image, -⟩ := ih
    obtain ⟨stays, ⟨_, impossible, -⟩ | ⟨-, rfl, patched⟩⟩ :=
      setSoftwareBreakpoint_recognised quiet halted (by rwa [config]) led
    · simp at impossible
    · rw [image] at patched ⊢
      exact ⟨config, stays, patched.trans (Machine.rearmed_concat _ _ _).symm,
        .inr ⟨_, _, rfl, rfl⟩⟩
  | failed earlier quiet led ih =>
    obtain ⟨config, halted, image, slot⟩ := ih
    obtain ⟨stays, ⟨_, -, rfl, unmoved⟩ | ⟨impossible, -⟩⟩ :=
      setSoftwareBreakpoint_recognised quiet halted (by rwa [config]) led
    · exact ⟨config, stays, unmoved.trans image, slot⟩
    · simp at impossible

/-- A removal after a sequence of arming calls leaves memory as it was before the first of them, but
with the patches of all but the last in place. Of the three bytes that are put back, those are the
program's that no earlier call has patched. -/
theorem removal_after_armings (stopped : target.running = false)
    (recognises : session.config.RecognisesStop) (slot : session.breakpoint = none)
    (armings : Armings session target addresses last simulator) (quiet : simulator.pending = [])
    (cleared : clearSoftwareBreakpoint.through last simulator =
      ((.ok (some removed), next), final)) :
    ∃ earlier address, addresses = earlier ++ [address] ∧
      removed = armedOn (target.machine.rearmed earlier) address ∧
      (∀ physical, final.machine.read physical =
        (target.machine.rearmed earlier).read physical) ∧
      ∀ index < 3,
        (∀ other ∈ earlier, ¬ (armedOn target.machine other).Touches (removed.place index)) →
        final.machine.read (removed.place index) = target.machine.read (removed.place index) := by
  obtain ⟨-, -, image, ⟨rfl, untouched⟩ | ⟨earlier, address, rfl, holds⟩⟩ :=
    armings.image stopped recognises
  · rw [through_clearSoftwareBreakpoint_of_none (untouched.trans slot)] at cleared
    simp at cleared
  obtain ⟨same, -, rfl⟩ := clearSoftwareBreakpoint_eq_ok quiet holds cleared
  cases same
  have restored : ∀ physical, ((armedOn (target.machine.rearmed earlier) address).unpatch
      simulator.machine).read physical = (target.machine.rearmed earlier).read physical := by
    intro physical
    rw [image, Machine.rearmed_concat]
    exact SoftwareBreakpoint.read_unpatch_patch _ address physical
  refine ⟨earlier, address, rfl, rfl, restored, fun index _ apart => ?_⟩
  exact (restored _).trans (Machine.read_rearmed_of_apart apart)

/-- The second of two overlapping breakpoints is removed. The byte that it alone replaced is the
program's again. -/
theorem removal_after_armings_overlap :
    ∃ last next simulator final,
      Armings {} (.loaded 0x01FF [0xA9, 0x02, 0x60, 0xE8]) [0x2000, 0x2001] last simulator ∧
      clearSoftwareBreakpoint.through last simulator =
        ((.ok (some ⟨.cpu 0x2001, #v[0x00, 0x20, 0xE8]⟩), next), final) ∧
      final.machine.read 0x7772003 = 0xE8 := by
  have led := eq_of_toOption (show ((do
      armEach [0x2000, 0x2001]
      clearSoftwareBreakpoint).through {}
        (Simulator.loaded 0x01FF [0xA9, 0x02, 0x60, 0xE8])).1.1.toOption =
          some (some ⟨.cpu 0x2001, #v[0x00, 0x20, 0xE8]⟩) by decide +kernel)
  rw [bind_eq_ok] at led
  obtain ⟨_, last, simulator, armed, cleared⟩ := led
  obtain ⟨armings, quiet⟩ := Armings.start.append rfl armed
  obtain ⟨earlier, address, same, -, -, kept⟩ := removal_after_armings rfl
    (by decide) rfl armings quiet cleared
  have split : [0x2000] ++ [0x2001] = earlier ++ [address] := same
  obtain ⟨rfl, -⟩ := List.append_inj' split rfl
  refine ⟨_, _, _, _, armings, cleared, (kept 2 (by decide) ?_).trans (by decide +kernel)⟩
  intro other member
  rw [List.mem_singleton.mp member]
  decide +kernel

/-- A breakpoint that is armed again where it is armed saves its own self-jump, and its removal
puts that back. -/
theorem removal_keeps_patch :
    ¬ ∀ (session last next : Session) (target simulator final : Simulator)
      (addresses : List UInt32) (removed : SoftwareBreakpoint),
      target.Ready → target.running = false → session.breakpoint = none →
      session.config.RecognisesStop →
      (armEach addresses).through session target = ((.ok (), last), simulator) →
      clearSoftwareBreakpoint.through last simulator = ((.ok (some removed), next), final) →
      ∀ index < 3,
        final.machine.read (removed.place index) = target.machine.read (removed.place index) := by
  intro restores
  have led := eq_of_toOption (show ((do
      armEach [0x2000, 0x2000]
      clearSoftwareBreakpoint).through {}
        (Simulator.loaded 0x01FF [0xA9, 0x02, 0x60])).1.1.toOption =
          some (some ⟨.cpu 0x2000, #v[0x4C, 0x00, 0x20]⟩) by decide +kernel)
  rw [bind_eq_ok] at led
  obtain ⟨_, last, simulator, armed, cleared⟩ := led
  obtain ⟨armings, quiet⟩ := Armings.start.append rfl armed
  have first := restores _ _ _ _ _ _ _ _ ⟨rfl, rfl⟩ rfl rfl (by decide) armed cleared 0 (by decide)
  rw [clearSoftwareBreakpoint_reads quiet cleared (by decide)] at first
  revert first
  decide +kernel

end Action

end RemoteDebugger
