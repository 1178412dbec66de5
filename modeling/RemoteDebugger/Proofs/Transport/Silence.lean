import RemoteDebugger.Link.Basic
import RemoteDebugger.Proofs.Text.Utf8
import RemoteDebugger.Proofs.Transport.Stream

/-!
Silences in a stream. A read that gives up in the middle of a line drops what it has read of it, so
the rest of the line is said as a line of its own. Streams with silences between lines say what they
say without; in a stream of texts, no others do. A register line that has lost its beginning can
still be read as registers, with another program counter.
-/

set_option autoImplicit false

namespace RemoteDebugger

def Delivery.isQuiet : Delivery → Bool
  | .fault .quiet _ => true
  | _ => false

namespace Stream

/-- The same bytes from a device that never gives up waiting. -/
def undisturbed (stream : Stream) : Stream :=
  { stream with incoming := stream.incoming.filter fun delivery => !delivery.isQuiet }

/-- Every silence comes between two lines, when nothing of a line has been read. The first argument
is what has been read of a line so far. -/
def Between : List UInt8 → List (Option UInt8) → Prop
  | _, [] => True
  | seen, none :: others => seen = [] ∧ Between [] others
  | seen, some byte :: others => Between (if byte = newline then [] else seen ++ [byte]) others

/-- The line is text, and not blank. -/
def Legible (line : List UInt8) : Prop :=
  ∃ text, Text.ofUtf8? line = some text ∧ trimLineEnd text ≠ []

theorem arrivals_undisturbed (incoming : List Delivery) :
    arrivals (incoming.filter fun delivery => !delivery.isQuiet) =
      (arrivals incoming).filter Option.isSome := by
  induction incoming with
  | nil => rfl
  | cons delivery others ih =>
    match delivery with
    | .bytes chunk =>
      have kept : (chunk.map some).filter Option.isSome = chunk.map some :=
        List.filter_eq_self.mpr fun _ member => by
          obtain ⟨byte, -, rfl⟩ := List.mem_map.mp member
          rfl
      show chunk.map some ++ arrivals _ = (chunk.map some ++ arrivals others).filter _
      rw [ih, List.filter_append, kept]
    | .fault .quiet _ => exact ih
    | .fault .passing _ | .fault .broken _ => exact ih

theorem arriving_undisturbed (stream : Stream) : stream.undisturbed.arriving ≤ stream.arriving := by
  obtain ⟨incoming, written, room, refusal⟩ := stream
  simp only [arriving, undisturbed]
  induction incoming with
  | nil => exact Nat.le_refl 0
  | cons delivery others ih =>
    rcases delivery with chunk | ⟨_ | _ | _, fault⟩
    · exact Nat.succ_le_succ (Nat.add_le_add_right ih chunk.length)
    · exact Nat.succ_le_succ ih
    · exact Nat.le_succ_of_le ih
    · exact Nat.succ_le_succ ih

theorem Steady.undisturbed {stream : Stream} (steady : Steady stream.incoming) :
    Steady stream.undisturbed.incoming :=
  fun fault member => steady fault (List.mem_of_mem_filter member)

theorem linesAfter_of_between {seen : List UInt8} {items : List (Option UInt8)}
    (between : Between seen items) :
    linesAfter seen items = linesAfter seen (items.filter Option.isSome) := by
  induction items generalizing seen with
  | nil => rfl
  | cons item others ih =>
    cases item with
    | none =>
      obtain ⟨rfl, later⟩ := between
      exact ih later
    | some byte =>
      rw [Between] at between
      rw [List.filter_cons_of_pos rfl, linesAfter, linesAfter]
      split
      · rename_i ends
        rw [if_pos ends] at between
        rw [ih between]
      · rename_i goes
        rw [if_neg goes] at between
        exact ih between

theorem lineAnswer_eq_ok {bytes : List UInt8} {text : Text} (said : lineAnswer bytes = .ok text) :
    Text.toUtf8 text = trimBytes bytes := by
  rw [lineAnswer] at said
  cases read : Text.ofUtf8? bytes with
  | none =>
    rw [read] at said
    cases said
  | some whole =>
    rw [read] at said
    cases said
    rw [toUtf8_trimLineEnd, Text.toUtf8_of_ofUtf8? read]

theorem trimBytes_append {front back : List UInt8} (nonempty : trimBytes back ≠ []) :
    trimBytes (front ++ back) = front ++ trimBytes back := by
  have rest : (back.reverse.dropWhile isEndByte).isEmpty = false := by
    rw [List.isEmpty_eq_false_iff]
    exact fun none => nonempty (congrArg List.reverse none)
  show ((front ++ back).reverse.dropWhile isEndByte).reverse = _
  rw [List.reverse_append, List.dropWhile_append, rest]
  simp [trimBytes, List.rdropWhile]

theorem eq_of_lineAnswer {part line : List UInt8} (rest : part <:+ line) (legible : Legible line)
    (same : lineAnswer part = lineAnswer line) : part = line := by
  obtain ⟨text, read, nonblank⟩ := legible
  have whole : lineAnswer line = .ok (trimLineEnd text) := by rw [lineAnswer, read]
  have bytes := lineAnswer_eq_ok whole
  have partBytes := lineAnswer_eq_ok (same.trans whole)
  obtain ⟨front, rfl⟩ := rest
  have nonempty : trimBytes part ≠ [] := by
    rw [← partBytes]
    intro none
    obtain ⟨c, others, nonnil⟩ := List.exists_cons_of_ne_nil nonblank
    rw [nonnil] at none
    exact String.utf8EncodeChar_ne_nil (List.append_eq_nil_iff.mp none).1
  rw [trimBytes_append nonempty, ← partBytes] at bytes
  rw [List.self_eq_append_left.mp bytes, List.nil_append]

theorem between_of_said {part seen : List UInt8} {items : List (Option UInt8)} (rest : part <:+ seen)
    (legible : ∀ line ∈ linesAfter seen (items.filter Option.isSome), Legible line)
    (same : (linesAfter part items).map lineAnswer =
      (linesAfter seen (items.filter Option.isSome)).map lineAnswer) :
    part = seen ∧ Between seen items := by
  induction items generalizing part seen with
  | nil =>
    refine ⟨?_, trivial⟩
    simp only [List.filter_nil, linesAfter] at legible same
    by_cases whole : seen = []
    · subst whole
      exact List.suffix_nil.mp rest
    · rw [if_neg whole] at legible same
      split at same
      · cases same
      · exact eq_of_lineAnswer rest (legible seen List.mem_cons_self) (List.cons.inj same).1
  | cons item others ih =>
    cases item with
    | none =>
      obtain ⟨empty, between⟩ := ih List.nil_suffix legible same
      subst empty
      exact ⟨List.suffix_nil.mp rest, rfl, between⟩
    | some byte =>
      have longer : part ++ [byte] <:+ seen ++ [byte] := by
        obtain ⟨front, rfl⟩ := rest
        exact ⟨front, (List.append_assoc _ _ _).symm⟩
      rw [List.filter_cons_of_pos rfl, linesAfter] at legible
      rw [List.filter_cons_of_pos rfl, linesAfter, linesAfter] at same
      rw [Between]
      by_cases ends : byte = newline
      · rw [if_pos ends] at legible
        rw [if_pos ends, if_pos ends] at same
        rw [if_pos ends]
        obtain ⟨said, later⟩ := List.cons.inj same
        have equal := eq_of_lineAnswer longer (legible _ List.mem_cons_self) said
        obtain ⟨-, between⟩ := ih (List.suffix_refl []) (fun line member =>
          legible line (List.mem_cons_of_mem _ member)) later
        exact ⟨List.append_cancel_right equal, between⟩
      · rw [if_neg ends] at legible
        rw [if_neg ends, if_neg ends] at same
        rw [if_neg ends]
        obtain ⟨equal, between⟩ := ih longer legible same
        exact ⟨List.append_cancel_right equal, between⟩

/-- The stream says its lines, of which a silence forgets what has been read. That is what it says
without the silences if they come between lines; and if it is a stream of legible lines, only
then. -/
theorem said_with_silences {stream : Stream} (steady : Steady stream.incoming) {count : Nat}
    (enough : stream.arriving ≤ count) :
    Transport.said count stream = stream.lines.map lineAnswer ∧
      (Between [] (arrivals stream.incoming) →
        Transport.said count stream = Transport.said count stream.undisturbed) ∧
      ((∀ line ∈ stream.undisturbed.lines, Legible line) →
        Transport.said count stream = Transport.said count stream.undisturbed →
          Between [] (arrivals stream.incoming)) := by
  have disturbed := said_eq_lines steady enough
  have alone := said_eq_lines steady.undisturbed (Nat.le_trans (arriving_undisturbed stream) enough)
  have whole : stream.undisturbed.lines =
      linesAfter [] ((arrivals stream.incoming).filter Option.isSome) :=
    congrArg (linesAfter []) (arrivals_undisturbed stream.incoming)
  rw [disturbed, alone, whole]
  refine ⟨rfl, ?_, ?_⟩
  · intro between
    rw [← linesAfter_of_between between]
    rfl
  · intro legible same
    exact (between_of_said (List.suffix_refl []) legible same).2

/-- A register dump over a device that gives up waiting once, after so many bytes of the value
line. -/
def pausing (count : Nat) : Stream where
  incoming :=
    [.bytes (Text.toUtf8 "r\r\n"), .bytes ((Text.toUtf8 value).take count),
      .fault .quiet ⟨"operation timed out"⟩, .bytes ((Text.toUtf8 value).drop count)]
where
  value : Text := "2003 05 01 02 00 00 01F0 0000 0000 A9 00 00 ..E..IZC\r\n"

theorem steady_pausing (count : Nat) : Steady (pausing count).incoming := by
  intro fault member
  simp [pausing] at member

theorem said_with_silences_between :
    Transport.said 70 (pausing 0) = Transport.said 70 (pausing 0).undisturbed ∧
      Transport.said 70 (pausing 0) = (pausing 0).lines.map lineAnswer ∧
      (pausing 0).lines.length = 2 := by
  have enough : (pausing 0).arriving ≤ 70 := by decide +kernel
  have between : Between [] (arrivals (pausing 0).incoming) := ⟨rfl, trivial⟩
  obtain ⟨said, same, -⟩ := said_with_silences (steady_pausing 0) enough
  exact ⟨same between, said, by decide +kernel⟩

/-- After two digits of the program counter, the rest of the line is taken for registers. -/
theorem said_loses_beginning :
    (¬ ∀ (stream : Stream) (count : Nat), Steady stream.incoming → stream.arriving ≤ count →
      Transport.said count stream = Transport.said count stream.undisturbed) ∧
    ((Link.readRegisters ⟨64⟩).through (pausing 2)).1.toOption.map Registers.pc = some 0x0003 ∧
    ((Link.readRegisters ⟨64⟩).through (pausing 2).undisturbed).1.toOption.map Registers.pc =
      some 0x2003 := by
  refine ⟨?_, by decide +kernel, by decide +kernel⟩
  intro unchanged
  have enough : (pausing 2).arriving ≤ 70 := by decide +kernel
  have same := unchanged (pausing 2) 70 (steady_pausing 2) enough
  have differ : ((Transport.said 70 (pausing 2)).map Except.toOption ==
      (Transport.said 70 (pausing 2).undisturbed).map Except.toOption) = false := by decide +kernel
  rw [same] at differ
  simp at differ

end Stream

end RemoteDebugger
