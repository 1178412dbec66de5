import Mathlib.Data.List.SplitBy
import RemoteDebugger.Proofs.Text.Utf8
import RemoteDebugger.Proofs.Transport.Stream

/-!
Lines of a text that arrives in pieces. However a device cuts the UTF-8 bytes of a text into
deliveries, in the middle of lines and of characters, reading gives the lines of the text one after
another, and nothing more when they are used up.
-/

set_option autoImplicit false

namespace RemoteDebugger

namespace Text

/-- A text cut behind each newline. Behind the last one there is a line only if something is left. -/
def lines (text : Text) : List Text := text.splitBy fun c _ => c != '\n'

section Lines

variable {body : Text} (unbroken : '\n' ∉ body)

include unbroken

theorem pairwise_of_unbroken : body.Pairwise fun c _ => (c != '\n') = true :=
  List.pairwise_of_forall_mem_list fun _ member _ _ =>
    bne_iff_ne.mpr fun same => unbroken (same ▸ member)

theorem lines_of_unbroken (nonempty : body ≠ []) : lines body = [body] :=
  List.splitBy_of_isChain nonempty (pairwise_of_unbroken unbroken).isChain

theorem lines_append_newline (rest : Text) :
    lines (body ++ '\n' :: rest) = (body ++ ['\n']) :: lines rest := by
  have whole : (body ++ ['\n']).Pairwise fun c _ => (c != '\n') = true := by
    refine List.pairwise_append.mpr ⟨pairwise_of_unbroken unbroken, List.pairwise_singleton _ _, ?_⟩
    exact fun _ member _ _ => bne_iff_ne.mpr fun same => unbroken (same ▸ member)
  have cut : ∀ last ∈ (body ++ ['\n']).getLast?, ∀ next ∈ rest.head?, (last != '\n') = false := by
    intro last member next _
    rw [List.getLast?_concat, Option.mem_some_iff] at member
    exact bne_eq_false_iff_eq.mpr member.symm
  rw [← List.singleton_append, ← List.append_assoc, lines, List.splitBy_append cut,
    List.splitBy_of_isChain (List.append_ne_nil_of_right_ne_nil _ (List.cons_ne_nil _ _))
      whole.isChain]
  rfl

end Lines

theorem toUtf8_eq_nil_iff {text : Text} : toUtf8 text = [] ↔ text = [] := by
  refine ⟨fun none => ?_, fun empty => empty ▸ rfl⟩
  cases text with
  | nil => rfl
  | cons c text => exact absurd (List.append_eq_nil_iff.mp none).1 String.utf8EncodeChar_ne_nil

theorem ofUtf8?_toUtf8 (text : Text) : ofUtf8? (toUtf8 text) = some text := by
  have decoded := @List.utf8Decode?_utf8Encode text
  have bytes : text.utf8Encode = ⟨(toUtf8 text).toArray⟩ :=
    ByteArray.ext List.data_toByteArray
  rw [bytes] at decoded
  rw [ofUtf8?, decoded]
  rfl

theorem newline_not_mem_utf8EncodeChar {c : Char} (other : c ≠ '\n') :
    Stream.newline ∉ String.utf8EncodeChar c := by
  have code : c.val.toNat ≠ 10 := by
    intro same
    exact other (Char.ext (UInt32.toNat_inj.mp same))
  have value : Stream.newline.toNat = 10 := rfl
  intro member
  simp only [String.utf8EncodeChar] at member
  split_ifs at member <;>
    simp only [List.mem_cons, List.not_mem_nil, or_false, ← UInt8.toNat_inj, value,
      UInt8.toNat_ofNat'] at member <;>
    omega

end Text

/-- The bytes that a delivery brings. -/
def Delivery.content : Delivery → List UInt8
  | .bytes chunk => chunk
  | .fault _ _ => []

namespace Stream

/-- The device gives these bytes, cut into deliveries anywhere, and is disturbed in passing only. -/
structure Delivers (stream : Stream) (bytes : List UInt8) : Prop where
  whole : stream.incoming.flatMap Delivery.content = bytes
  passing : ∀ kind fault, .fault kind fault ∈ stream.incoming → kind = .passing

theorem arrivals_of_passing {incoming : List Delivery}
    (passing : ∀ kind fault, .fault kind fault ∈ incoming → kind = .passing) :
    arrivals incoming = (incoming.flatMap Delivery.content).map some := by
  induction incoming with
  | nil => rfl
  | cons delivery others ih =>
    have rest := ih fun kind fault member => passing kind fault (List.mem_cons_of_mem _ member)
    rw [List.flatMap_cons, List.map_append, ← rest]
    match delivery with
    | .bytes chunk => rfl
    | .fault kind fault =>
      obtain rfl := passing kind fault List.mem_cons_self
      rfl

theorem cutLine?_eq_none {chunk : List UInt8} (unbroken : newline ∉ chunk) :
    cutLine? chunk = none := by
  induction chunk with
  | nil => rfl
  | cons byte chunk ih =>
    rw [List.mem_cons, not_or] at unbroken
    rw [cutLine?, if_neg (Ne.symm unbroken.1), ih unbroken.2]
    rfl

theorem linesAfter_toUtf8 {seen : Text} (unbroken : '\n' ∉ seen) (text : Text) :
    linesAfter (Text.toUtf8 seen) ((Text.toUtf8 text).map some) =
      (Text.lines (seen ++ text)).map Text.toUtf8 := by
  induction text generalizing seen with
  | nil =>
    rw [List.append_nil]
    show (if Text.toUtf8 seen = [] then [] else [Text.toUtf8 seen]) = _
    by_cases empty : seen = []
    · rw [empty]
      rfl
    · rw [Text.lines_of_unbroken unbroken empty, if_neg (mt Text.toUtf8_eq_nil_iff.mp empty)]
      rfl
  | cons c text ih =>
    have encoded : Text.toUtf8 (c :: text) = String.utf8EncodeChar c ++ Text.toUtf8 text :=
      List.flatMap_cons
    rw [encoded, List.map_append]
    by_cases ends : c = '\n'
    · subst ends
      have line : cutLine? (String.utf8EncodeChar '\n') = some ([newline], []) := rfl
      rw [linesAfter_of_cut line, Text.lines_append_newline unbroken, List.map_cons,
        Text.toUtf8_append]
      exact congrArg _ (ih List.not_mem_nil)
    · have longer : '\n' ∉ seen ++ [c] := by
        simpa [unbroken] using Ne.symm ends
      have single : Text.toUtf8 [c] = String.utf8EncodeChar c := List.flatMap_singleton _ c
      rw [linesAfter_of_uncut (cutLine?_eq_none (Text.newline_not_mem_utf8EncodeChar ends)),
        ← single, ← Text.toUtf8_append, ih longer, List.append_assoc, List.singleton_append]

variable {stream : Stream}

theorem collect_eq_nil {seen : List UInt8} {incoming : List Delivery}
    (silent : (collect seen incoming).1 = .line []) : (collect seen incoming).2 = [] := by
  induction incoming generalizing seen with
  | nil => rfl
  | cons delivery others ih =>
    match delivery with
    | .bytes chunk =>
      rw [collect] at silent ⊢
      cases cut : cutLine? chunk with
      | none =>
        rw [cut] at silent
        exact ih silent
      | some parts =>
        rw [cut] at silent
        have empty : seen ++ parts.1 = [] := Ending.line.inj silent
        exact absurd (List.append_eq_nil_iff.mp empty).2 (cutLine?_length cut).2
    | .fault .passing _ => exact ih silent
    | .fault .quiet _ | .fault .broken _ => cases silent

theorem receive_of_passing {rows : List Text}
    (passing : ∀ kind fault, .fault kind fault ∈ stream.incoming → kind = .passing)
    (encoded : stream.lines = rows.map Text.toUtf8) :
    (receive stream).1 = .ok (rows.head?.map trimLineEnd) ∧
      (receive stream).2.lines = rows.tail.map Text.toUtf8 := by
  have steady : Steady stream.incoming := fun fault member => nomatch passing _ fault member
  rw [lines, linesAfter_collect [] stream.incoming steady] at encoded
  rw [receive_eq]
  show (collect [] stream.incoming).1.answer = _ ∧
    linesAfter [] (arrivals (collect [] stream.incoming).2) = _
  cases ending : (collect [] stream.incoming).1 with
  | fault kind fault =>
    obtain ⟨serious, member⟩ := mem_of_collect_fault [] stream.incoming ending
    exact absurd (passing kind fault member) serious
  | line bytes =>
    rw [ending] at encoded
    by_cases silent : bytes = []
    · subst silent
      rw [collect_eq_nil ending] at encoded ⊢
      obtain rfl : rows = [] := List.map_eq_nil_iff.mp encoded.symm
      exact ⟨rfl, rfl⟩
    · rw [Ending.lines, if_neg silent, List.singleton_append, eq_comm, List.map_eq_cons_iff] at encoded
      obtain ⟨row, others, rfl, rfl, rest⟩ := encoded
      refine ⟨?_, rest.symm⟩
      rw [Ending.answer, lineText_of_ne_nil silent, lineAnswer, Text.ofUtf8?_toUtf8]
      rfl

theorem answers_of_passing {rows : List Text}
    (passing : ∀ kind fault, .fault kind fault ∈ stream.incoming → kind = .passing)
    (encoded : stream.lines = rows.map Text.toUtf8) (count : Nat) :
    Transport.answers count stream =
      (List.range count).map fun place => .ok (rows[place]?.map trimLineEnd) := by
  induction count generalizing stream rows with
  | zero => rfl
  | succ count ih =>
    obtain ⟨first, rest⟩ := receive_of_passing passing encoded
    have later := ih (fun kind fault member =>
      passing kind fault (mem_of_mem_collect _ _ member)) rest
    show (receive stream).1 :: Transport.answers count (receive stream).2 = _
    rw [first, later, List.range_succ_eq_map, List.map_cons, List.map_map, List.head?_eq_getElem?]
    refine congrArg _ (List.map_congr_left fun place _ => ?_)
    rw [List.getElem?_tail]
    rfl

/-- What reading gives depends on the text that arrives and not on the deliveries. The answers are
the lines of the text in turn, each without the carriage returns and newlines at its end, and from
then on that there is none. -/
theorem answers_of_delivers {text : Text} (delivers : stream.Delivers (Text.toUtf8 text))
    (count : Nat) :
    Transport.answers count stream =
      (List.range count).map fun place => .ok ((Text.lines text)[place]?.map trimLineEnd) := by
  refine answers_of_passing delivers.passing ?_ count
  rw [lines, arrivals_of_passing delivers.passing, delivers.whole]
  exact linesAfter_toUtf8 List.not_mem_nil text

/-- A device that is interrupted inside a letter, and whose deliveries end inside a line end. -/
def interrupted : Stream where
  incoming :=
    [.bytes [0xC3], .fault .passing ⟨"interrupted"⟩, .bytes [0xA9, 13], .bytes [10, 0x6F],
      .bytes [0x6B]]

theorem answers_of_delivers_interrupted :
    interrupted.Delivers (Text.toUtf8 "é\r\nok".toList) ∧
      Transport.answers 3 interrupted =
        [.ok (some "é".toList), .ok (some "ok".toList), .ok none] := by
  have delivers : interrupted.Delivers (Text.toUtf8 "é\r\nok".toList) := by
    refine ⟨by decide, fun kind fault member => ?_⟩
    simp only [interrupted, List.mem_cons, List.not_mem_nil, or_false, false_or,
      Delivery.fault.injEq, reduceCtorEq] at member
    exact member.1
  exact ⟨delivers, answers_of_delivers delivers 3⟩

end Stream

end RemoteDebugger
