import RemoteDebugger.Transport.Stream

/-!
Lines of a byte stream. What a stream says line by line depends on its bytes and its silences alone,
not on the borders of deliveries. A silence inside a line loses the part of the line before it, and
the rest is said as if it were a line; silences between lines change nothing.
-/

set_option autoImplicit false

namespace RemoteDebugger

/-- The answers to so many reads in a row. -/
def Transport.answers {τ : Type} [Transport τ] : Nat → τ → List (Except Fault (Option Text))
  | 0, _ => []
  | count + 1, remote =>
    (Transport.receive remote).1 :: answers count (Transport.receive remote).2

/-- A line or a failure; a silence is neither. -/
def Transport.spoken : Except Fault (Option Text) → Option (Except Fault Text)
  | .ok none => none
  | .ok (some line) => some (.ok line)
  | .error fault => some (.error fault)

/-- What so many reads in a row say, silences left out. -/
def Transport.said {τ : Type} [Transport τ] (count : Nat) (remote : τ) : List (Except Fault Text) :=
  (Transport.answers count remote).filterMap Transport.spoken

namespace Stream

/-- What arrives byte by byte, with `none` where the device gives up waiting. -/
def arrivals : List Delivery → List (Option UInt8)
  | [] => []
  | .bytes chunk :: others => chunk.map some ++ arrivals others
  | .fault .quiet _ :: others => none :: arrivals others
  | .fault _ _ :: others => arrivals others

/-- The lines that arrive after those bytes of an unfinished one, each with its newline. A silence
forgets the unfinished line. -/
def linesAfter : List UInt8 → List (Option UInt8) → List (List UInt8)
  | seen, [] => if seen = [] then [] else [seen]
  | _, none :: others => linesAfter [] others
  | seen, some byte :: others =>
    if byte = newline then (seen ++ [byte]) :: linesAfter [] others
    else linesAfter (seen ++ [byte]) others

def lines (stream : Stream) : List (List UInt8) := linesAfter [] (arrivals stream.incoming)

/-- What the bytes of a line say: its text without the end, or that they are no text. -/
def lineAnswer (bytes : List UInt8) : Except Fault Text :=
  match Text.ofUtf8? bytes with
  | some text => .ok (trimLineEnd text)
  | none => .error .notText

/-- The device may give up waiting, but it does not fail. -/
def Steady (incoming : List Delivery) : Prop := ∀ fault, Delivery.fault .broken fault ∉ incoming

theorem lineText_of_ne_nil {bytes : List UInt8} (nonempty : bytes ≠ []) :
    lineText bytes = (lineAnswer bytes).map some := by
  rw [lineText, if_neg (by simpa using nonempty), lineAnswer]
  cases Text.ofUtf8? bytes <;> rfl

section Lines

variable {chunk line after seen : List UInt8} {others : List (Option UInt8)}

theorem linesAfter_of_cut (cut : cutLine? chunk = some (line, after)) :
    linesAfter seen (chunk.map some ++ others) =
      (seen ++ line) :: linesAfter [] (after.map some ++ others) := by
  induction chunk generalizing seen line with
  | nil => simp [cutLine?] at cut
  | cons byte chunk ih =>
    rw [List.map_cons, List.cons_append, linesAfter]
    by_cases ends : byte = newline
    · rw [cutLine?, if_pos ends] at cut
      cases cut
      rw [if_pos ends]
    · rw [cutLine?, if_neg ends] at cut
      obtain ⟨⟨front, back⟩, inner, same⟩ := Option.map_eq_some_iff.mp cut
      cases same
      rw [if_neg ends, ih inner, List.append_assoc, List.singleton_append]

theorem linesAfter_of_uncut (uncut : cutLine? chunk = none) :
    linesAfter seen (chunk.map some ++ others) = linesAfter (seen ++ chunk) others := by
  induction chunk generalizing seen with
  | nil => simp
  | cons byte chunk ih =>
    rw [List.map_cons, List.cons_append, linesAfter]
    by_cases ends : byte = newline
    · rw [cutLine?, if_pos ends] at uncut
      cases uncut
    · rw [cutLine?, if_neg ends, Option.map_eq_none_iff] at uncut
      rw [if_neg ends, ih uncut, List.append_assoc, List.singleton_append]

theorem cutLine?_length (cut : cutLine? chunk = some (line, after)) :
    after.length < chunk.length ∧ line ≠ [] := by
  induction chunk generalizing line with
  | nil => simp [cutLine?] at cut
  | cons byte chunk ih =>
    by_cases ends : byte = newline
    · rw [cutLine?, if_pos ends] at cut
      cases cut
      exact ⟨Nat.lt_succ_self _, List.cons_ne_nil _ _⟩
    · rw [cutLine?, if_neg ends] at cut
      obtain ⟨⟨front, back⟩, inner, same⟩ := Option.map_eq_some_iff.mp cut
      cases same
      exact ⟨Nat.lt_succ_of_lt (ih inner).1, List.cons_ne_nil _ _⟩

end Lines

/-- The line that an ending completes, if it completes one. -/
def Ending.lines : Ending → List (List UInt8)
  | .line bytes => if bytes = [] then [] else [bytes]
  | .fault _ _ => []

section Collecting

variable (seen : List UInt8) (incoming : List Delivery)

theorem linesAfter_collect (steady : Steady incoming) :
    linesAfter seen (arrivals incoming) =
      (collect seen incoming).1.lines ++ linesAfter [] (arrivals (collect seen incoming).2) := by
  induction incoming generalizing seen with
  | nil => rw [collect, arrivals, linesAfter, linesAfter, if_pos rfl, List.append_nil, Ending.lines]
  | cons delivery others ih =>
    have later : Steady others := fun fault member => steady fault (List.mem_cons_of_mem _ member)
    match delivery with
    | .bytes chunk =>
      rw [collect, arrivals]
      cases cut : cutLine? chunk with
      | none => exact (linesAfter_of_uncut cut).trans (ih _ later)
      | some parts =>
        obtain ⟨line, after⟩ := parts
        have whole : seen ++ line ≠ [] := List.append_ne_nil_of_right_ne_nil _ (cutLine?_length cut).2
        rw [linesAfter_of_cut cut]
        simp only [Ending.lines, if_neg whole]
        rfl
    | .fault .passing _ => exact ih seen later
    | .fault .quiet _ => rfl
    | .fault .broken fault => exact absurd List.mem_cons_self (steady fault)

theorem mem_of_mem_collect {kind : Disturbance} {fault : Fault}
    (member : .fault kind fault ∈ (collect seen incoming).2) : .fault kind fault ∈ incoming := by
  induction incoming generalizing seen with
  | nil => exact member
  | cons delivery others ih =>
    match delivery with
    | .bytes chunk =>
      rw [collect] at member
      cases cut : cutLine? chunk with
      | none =>
        rw [cut] at member
        exact List.mem_cons_of_mem _ (ih _ member)
      | some parts =>
        rw [cut] at member
        exact List.mem_cons_of_mem _ (List.mem_of_ne_of_mem (by simp) member)
    | .fault .passing _ => exact List.mem_cons_of_mem _ (ih seen member)
    | .fault .quiet _ | .fault .broken _ => exact List.mem_cons_of_mem _ member

theorem mem_of_collect_fault {kind : Disturbance} {fault : Fault}
    (cut : (collect seen incoming).1 = .fault kind fault) :
    kind ≠ .passing ∧ .fault kind fault ∈ incoming := by
  induction incoming generalizing seen with
  | nil => cases cut
  | cons delivery others ih =>
    match delivery with
    | .bytes chunk =>
      rw [collect] at cut
      cases ends : cutLine? chunk with
      | none =>
        rw [ends] at cut
        exact (ih _ cut).imp_right (List.mem_cons_of_mem _)
      | some parts =>
        rw [ends] at cut
        cases cut
    | .fault .passing _ => exact (ih seen cut).imp_right (List.mem_cons_of_mem _)
    | .fault .quiet _ | .fault .broken _ =>
      cases cut
      exact ⟨by decide, List.mem_cons_self⟩

theorem arriving_collect (stream : Stream) :
    incoming = [] ∨ arriving { stream with incoming := (collect seen incoming).2 } <
      arriving { stream with incoming } := by
  induction incoming generalizing seen with
  | nil => exact .inl rfl
  | cons delivery others ih =>
    right
    have step : ∀ seen, arriving { stream with incoming := (collect seen others).2 } ≤
        arriving { stream with incoming := others } := by
      intro seen
      rcases ih seen with rfl | less
      · exact Nat.le_refl _
      · exact Nat.le_of_lt less
    match delivery with
    | .bytes chunk =>
      rw [collect]
      cases cut : cutLine? chunk with
      | none =>
        have := step (seen ++ chunk)
        simp only [arriving, List.foldr_cons] at this ⊢
        omega
      | some parts =>
        have := (cutLine?_length cut).1
        simp only [arriving, List.foldr_cons]
        omega
    | .fault .passing _ => exact Nat.lt_succ_of_le (step seen)
    | .fault .quiet _ | .fault .broken _ => exact Nat.lt_succ_self _

end Collecting

variable {stream : Stream}

theorem steady_receive (steady : Steady stream.incoming) : Steady (receive stream).2.incoming :=
  fun fault member => steady fault (mem_of_mem_collect _ _ member)

/-- The answer to a read whose line ends so. -/
def Ending.answer : Ending → Except Fault (Option Text)
  | .line bytes => lineText bytes
  | .fault .broken cause => .error cause
  | .fault _ _ => .ok none

theorem receive_eq (stream : Stream) :
    receive stream = ((collect [] stream.incoming).1.answer,
      { stream with incoming := (collect [] stream.incoming).2 }) := by
  rw [receive]
  rcases collect [] stream.incoming with ⟨bytes | ⟨_ | _ | _, fault⟩, rest⟩ <;> rfl

theorem spoken_answer {ending : Ending} (unbroken : ∀ fault, ending ≠ .fault .broken fault) :
    (Transport.spoken ending.answer).toList = ending.lines.map lineAnswer := by
  match ending with
  | .line bytes =>
    rw [Ending.answer, Ending.lines]
    by_cases none : bytes = []
    · rw [none]
      rfl
    · rw [if_neg none, lineText_of_ne_nil none, List.map_singleton]
      cases lineAnswer bytes <;> rfl
  | .fault .passing _ | .fault .quiet _ => rfl
  | .fault .broken fault => exact absurd rfl (unbroken fault)

theorem lines_receive (steady : Steady stream.incoming) :
    stream.lines.map lineAnswer =
      (Transport.spoken (receive stream).1).toList ++ (receive stream).2.lines.map lineAnswer := by
  have unbroken : ∀ fault, (collect [] stream.incoming).1 ≠ .fault .broken fault := fun fault cut =>
    steady fault (mem_of_collect_fault _ _ cut).2
  rw [receive_eq, spoken_answer unbroken, lines, linesAfter_collect [] stream.incoming steady,
    List.map_append]
  rfl

theorem said_eq_lines (steady : Steady stream.incoming) {count : Nat}
    (enough : stream.arriving ≤ count) :
    Transport.said count stream = stream.lines.map lineAnswer := by
  induction count generalizing stream with
  | zero =>
    have empty : stream.incoming = [] := by
      rcases arriving_collect [] stream.incoming stream with none | less
      · exact none
      · exact absurd (Nat.lt_of_lt_of_le less enough) (Nat.not_lt_zero _)
    rw [lines, empty]
    rfl
  | succ count ih =>
    have fewer : (receive stream).2.arriving ≤ count := by
      rcases arriving_collect [] stream.incoming stream with none | less
      · have same : (receive stream).2.arriving = 0 := by
          simp only [receive, none, collect]
          rfl
        omega
      · exact Nat.le_of_lt_succ (Nat.lt_of_lt_of_le less enough)
    rw [lines_receive steady, ← ih (steady_receive steady) fewer]
    show ((receive stream).1 :: Transport.answers count (receive stream).2).filterMap _ = _
    rw [List.filterMap_cons]
    rcases Transport.spoken (receive stream).1 with _ | answer <;> rfl

end Stream

end RemoteDebugger
