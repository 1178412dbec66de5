import RemoteDebugger.Proofs.Text.Hexadecimal
import RemoteDebugger.Text.Blank

/-!
Words and blanks. Text without blanks is a word of its own: trimming and squeezing leave it as it
is. A line made of words with single spaces between them falls into these words again, and blanks
at either end of a line do not count.
-/

set_option autoImplicit false

namespace RemoteDebugger.Text

/-- No character of the text is blank. -/
def Solid (text : Text) : Prop := ∀ c ∈ text, isBlank c = false

instance (text : Text) : Decidable (Solid text) :=
  List.decidableBAll (fun c => isBlank c = false) text

theorem solid_cons {c : Char} {text : Text} : Solid (c :: text) ↔ isBlank c = false ∧ Solid text :=
  List.forall_mem_cons

theorem solid_append {front back : Text} : Solid (front ++ back) ↔ Solid front ∧ Solid back :=
  List.forall_mem_append

theorem solid_reverse {text : Text} : Solid text.reverse ↔ Solid text := by
  simp only [Solid, List.mem_reverse]

private theorem isBlank_digit :
    ∀ d < 16, isBlank (Nat.digitChar d) = false := by decide

private theorem isBlank_toUpper_digit :
    ∀ d < 16, isBlank (Nat.digitChar d).toUpper = false := by decide

theorem isBlank_of_isHexDigit {c : Char} (digit : IsHexDigit c) : isBlank c = false :=
  digit.elim (isBlank · = false) isBlank_digit isBlank_toUpper_digit

theorem solid_hex (width n : Nat) : Solid (hex width n) :=
  fun _ member => isBlank_of_isHexDigit (isHexDigit_of_mem_hex member)

private theorem dropWhile_isBlank_append {front : Text} (nonempty : front ≠ [])
    (solid : Solid front) (back : Text) : (front ++ back).dropWhile isBlank = front ++ back := by
  cases front with
  | nil => exact absurd rfl nonempty
  | cons c rest =>
    have first : isBlank c = false := (solid_cons.mp solid).1
    rw [List.cons_append, List.dropWhile_cons, if_neg (by simp [first])]

/-- All characters of the text are blank. -/
def Blanks (text : Text) : Prop := ∀ c ∈ text, isBlank c = true

theorem trimEnd_append {back : Text} (nonempty : back ≠ []) (solid : Solid back)
    (front tail : Text) : trimEnd (front ++ back ++ tail) = front ++ back ++ trimEnd tail := by
  have ending : (front ++ back).reverse.dropWhile isBlank = (front ++ back).reverse := by
    rw [List.reverse_append]
    exact dropWhile_isBlank_append (by simpa using nonempty) (solid_reverse.mpr solid) _
  rw [trimEnd, List.reverse_append, List.dropWhile_append]
  split
  · rename_i empty
    rw [ending, List.reverse_reverse, trimEnd, List.isEmpty_iff.mp empty, List.reverse_nil,
      List.append_nil]
  · rw [List.reverse_append, List.reverse_reverse, trimEnd]

theorem trim_blanks_append {lead front back : Text} (blank : Blanks lead) (nonempty : front ≠ [])
    (solid : Solid front) (nonemptyBack : back ≠ []) (solidBack : Solid back)
    (middle tail : Text) :
    trim (lead ++ (front ++ middle ++ back ++ tail)) =
      front ++ middle ++ back ++ trimEnd tail := by
  have start : trimStart (lead ++ (front ++ middle ++ back ++ tail)) =
      front ++ middle ++ back ++ tail := by
    rw [trimStart, List.dropWhile_append_of_pos blank, List.append_assoc, List.append_assoc]
    exact dropWhile_isBlank_append nonempty solid _
  rw [trim, start, trimEnd_append nonemptyBack solidBack]

theorem trim_append {front back : Text} (nonempty : front ≠ []) (solid : Solid front)
    (nonemptyBack : back ≠ []) (solidBack : Solid back) (middle : Text) :
    trim (front ++ middle ++ back) = front ++ middle ++ back := by
  have nothing : Blanks [] := fun c member => absurd member List.not_mem_nil
  have kept := trim_blanks_append nothing nonempty solid nonemptyBack solidBack middle []
  simpa [trimEnd] using kept

theorem trim_of_solid {text : Text} (solid : Solid text) : trim text = text := by
  cases text with
  | nil => rfl
  | cons c rest =>
    have nonempty : (c :: rest).reverse ≠ [] := by simp
    have start := dropWhile_isBlank_append (List.cons_ne_nil c rest) solid []
    have ending := dropWhile_isBlank_append nonempty (solid_reverse.mpr solid) []
    rw [List.append_nil] at start ending
    rw [trim, trimStart, start, trimEnd, ending, List.reverse_reverse]

private theorem mem_dropWhile_isBlank {c : Char} {text : Text} (plain : isBlank c = false)
    (member : c ∈ text) : c ∈ text.dropWhile isBlank := by
  have whole : text = text.takeWhile isBlank ++ text.dropWhile isBlank :=
    List.takeWhile_append_dropWhile.symm
  rw [whole] at member
  rcases List.mem_append.mp member with leading | kept
  · simp [List.all_eq_true.mp List.all_takeWhile c leading] at plain
  · exact kept

theorem mem_trim {c : Char} {text : Text} (plain : isBlank c = false) (member : c ∈ text) :
    c ∈ trim text := by
  have start : c ∈ trimStart text := mem_dropWhile_isBlank plain member
  have ending := mem_dropWhile_isBlank plain (List.mem_reverse.mpr start)
  exact List.mem_reverse.mpr ending

theorem squeeze_of_solid {text : Text} (solid : Solid text) : squeeze text = text := by
  rw [squeeze, List.filter_eq_self]
  intro c member
  simp [solid c member]

theorem isBlank_toUpper : ∀ c : Char, isBlank c = false → isBlank c.toUpper = false :=
  forall_toUpper (by decide +kernel) fun _ same plain => same.symm ▸ plain

theorem solid_upper_squeeze (text : Text) : Solid (upper (squeeze text)) := by
  intro c member
  obtain ⟨d, kept, rfl⟩ := List.mem_map.mp member
  have plain : isBlank d = false := by simpa using (List.mem_filter.mp kept).2
  exact isBlank_toUpper d plain

/-- The word under construction is a word unless it is empty. -/
private def finished (state : Text × List Text) : List Text :=
  if state.1.isEmpty then state.2 else state.1 :: state.2

private theorem words_eq_finished (text : Text) :
    words text = finished (text.foldr gatherWord ([], [])) :=
  rfl

theorem words_cons_blank {c : Char} (blank : isBlank c = true) (text : Text) :
    words (c :: text) = words text := by
  rw [words_eq_finished, words_eq_finished, List.foldr_cons, gatherWord, if_pos blank]
  rfl

private theorem gather_solid {piece : Text} (solid : Solid piece) (state : Text × List Text) :
    piece.foldr gatherWord state = (piece ++ state.1, state.2) := by
  induction piece with
  | nil => rfl
  | cons c piece ih =>
    obtain ⟨first, later⟩ := solid_cons.mp solid
    rw [List.foldr_cons, ih later, gatherWord, if_neg (by simp [first])]
    rfl

theorem words_of_solid {piece : Text} (nonempty : piece ≠ []) (solid : Solid piece) :
    words piece = [piece] := by
  rw [words_eq_finished, gather_solid solid]
  simp [finished, nonempty]

theorem words_append_blank {piece : Text} (nonempty : piece ≠ []) (solid : Solid piece) {c : Char}
    (blank : isBlank c = true) (text : Text) :
    words (piece ++ c :: text) = piece :: words text := by
  rw [words_eq_finished, List.foldr_append, gather_solid solid, List.foldr_cons, gatherWord,
    if_pos blank]
  simp only [List.append_nil]
  rw [finished, if_neg (by simpa using nonempty)]
  rfl

theorem words_blanks_append {lead : Text} (blank : Blanks lead) (text : Text) :
    words (lead ++ text) = words text := by
  induction lead with
  | nil => rfl
  | cons c lead ih =>
    obtain ⟨first, later⟩ := List.forall_mem_cons.mp blank
    rw [List.cons_append, words_cons_blank first, ih later]

/-- Pieces in order, with a gap of some kind between neighbours. -/
inductive Spaced (gap : Text → Prop) : List Text → Text → Prop where
  | last (piece : Text) : Spaced gap [piece] piece
  | more {pieces : List Text} {between rest : Text} (piece : Text) (allowed : gap between)
      (later : Spaced gap pieces rest) : Spaced gap (piece :: pieces) (piece ++ between ++ rest)

theorem joined_nothing (pieces : List Text) : joined [] pieces = pieces.flatten := by
  induction pieces with
  | nil => rfl
  | cons piece others ih =>
    cases others with
    | nil => simp [joined]
    | cons next rest => rw [joined, List.append_nil, ih, ← List.flatten_cons]

namespace Spaced

variable {gap : Text → Prop} {pieces : List Text} {text : Text}

theorem ending (spaced : Spaced gap pieces text) :
    ∃ front, ∃ piece ∈ pieces, text = front ++ piece := by
  induction spaced with
  | last piece => exact ⟨[], piece, List.mem_singleton_self piece, rfl⟩
  | @more pieces between rest piece allowed later ih =>
    obtain ⟨front, other, member, rfl⟩ := ih
    exact ⟨piece ++ between ++ front, other, List.mem_cons_of_mem _ member,
      (List.append_assoc _ _ _).symm⟩

theorem filter {keep : Char → Bool} (spaced : Spaced gap pieces text)
    (dropped : ∀ between, gap between → ∀ c ∈ between, keep c = false)
    (kept : ∀ piece ∈ pieces, ∀ c ∈ piece, keep c = true) : text.filter keep = pieces.flatten := by
  induction spaced with
  | last piece => simpa using kept piece List.mem_cons_self
  | more piece allowed later ih =>
    obtain ⟨first, others⟩ := List.forall_mem_cons.mp kept
    have gone := dropped _ allowed
    rw [List.filter_append, List.filter_append, ih others, List.filter_eq_self.mpr first,
      List.filter_eq_nil_iff.mpr (by simpa using gone), List.append_nil, List.flatten_cons]

theorem of_joined (between : Text) (allowed : gap between) (nonempty : pieces ≠ []) :
    Spaced gap pieces (joined between pieces) := by
  induction pieces with
  | nil => exact absurd rfl nonempty
  | cons piece others ih =>
    cases others with
    | nil => exact .last piece
    | cons next rest => exact .more piece allowed (ih (List.cons_ne_nil next rest))

theorem of_flatten (allowed : gap []) (nonempty : pieces ≠ []) :
    Spaced gap pieces pieces.flatten :=
  joined_nothing pieces ▸ of_joined [] allowed nonempty

end Spaced

/-- What parts two words: one blank at least. -/
def Parting (between : Text) : Prop := between ≠ [] ∧ Blanks between

theorem Spaced.words {pieces : List Text} {text tail : Text} (spaced : Spaced Parting pieces text)
    (solid : ∀ piece ∈ pieces, piece ≠ [] ∧ Solid piece)
    (apart : ∀ c ∈ tail.head?, isBlank c = true) :
    words (text ++ tail) = pieces ++ words tail := by
  induction spaced with
  | last piece =>
    obtain ⟨nonempty, plain⟩ := solid piece List.mem_cons_self
    cases tail with
    | nil => rw [List.append_nil, words_of_solid nonempty plain]; rfl
    | cons c rest =>
      have blank : isBlank c = true := apart c rfl
      rw [words_append_blank nonempty plain blank, words_cons_blank blank]
      rfl
  | @more pieces between rest piece allowed later ih =>
    obtain ⟨nonempty, plain⟩ := solid piece List.mem_cons_self
    have others := ih fun other member => solid other (List.mem_cons_of_mem _ member)
    obtain ⟨some, blank⟩ := allowed
    cases between with
    | nil => exact absurd rfl some
    | cons c between =>
      obtain ⟨first, more⟩ := List.forall_mem_cons.mp blank
      have split : piece ++ c :: between ++ rest ++ tail =
          piece ++ c :: (between ++ (rest ++ tail)) := by simp
      rw [split, words_append_blank nonempty plain first, words_blanks_append more, others]
      rfl

theorem words_fields {first : Text} (nonempty : first ≠ []) (solid : Solid first)
    {fields : List Text} (solids : ∀ field ∈ fields, field ≠ [] ∧ Solid field) :
    words (first ++ fields.flatMap (' ' :: ·)) = first :: fields := by
  induction fields generalizing first with
  | nil => rw [List.flatMap_nil, List.append_nil, words_of_solid nonempty solid]
  | cons field fields ih =>
    obtain ⟨fieldNonempty, fieldSolid⟩ := solids field List.mem_cons_self
    rw [List.flatMap_cons, List.cons_append, words_append_blank nonempty solid rfl,
      ih fieldNonempty fieldSolid fun other member => solids other (List.mem_cons_of_mem _ member)]

theorem words_joined_append {pieces : List Text}
    (solid : ∀ piece ∈ pieces, piece ≠ [] ∧ Solid piece) (last : Text) :
    words (joined " " (pieces ++ [last])) = pieces ++ words last := by
  induction pieces with
  | nil => rfl
  | cons first others ih =>
    obtain ⟨nonempty, plain⟩ := solid first List.mem_cons_self
    have later := ih fun piece member => solid piece (List.mem_cons_of_mem _ member)
    have step : joined " " (first :: others ++ [last]) =
        first ++ ' ' :: joined " " (others ++ [last]) := by
      cases others <;> simp [joined]
    rw [step, words_append_blank nonempty plain rfl, later, List.cons_append]

theorem words_trimStart (text : Text) : words (trimStart text) = words text := by
  induction text with
  | nil => rfl
  | cons c rest ih =>
    cases first : isBlank c with
    | true =>
      have step : trimStart (c :: rest) = trimStart rest := by
        rw [trimStart, List.dropWhile_cons, if_pos first]
        rfl
      rw [step, ih, words_cons_blank first]
    | false =>
      rw [trimStart, List.dropWhile_cons, if_neg (by simp [first])]

private theorem words_append_blanks (text blanks : Text)
    (blank : ∀ c ∈ blanks, isBlank c = true) : words (text ++ blanks) = words text := by
  have idle : blanks.foldr gatherWord ([], []) = ([], []) := by
    induction blanks with
    | nil => rfl
    | cons c blanks ih =>
      rw [List.foldr_cons, ih fun d member => blank d (List.mem_cons_of_mem _ member), gatherWord,
        if_pos (blank c List.mem_cons_self)]
      rfl
  rw [words_eq_finished, List.foldr_append, idle, ← words_eq_finished]

theorem words_trimEnd (text : Text) : words (trimEnd text) = words text := by
  have whole : text = trimEnd text ++ (text.reverse.takeWhile isBlank).reverse := by
    rw [trimEnd, ← List.reverse_append, List.takeWhile_append_dropWhile, List.reverse_reverse]
  have blank : ∀ c ∈ (text.reverse.takeWhile isBlank).reverse, isBlank c = true :=
    fun c member => List.all_eq_true.mp List.all_takeWhile c (List.mem_reverse.mp member)
  have same := words_append_blanks (trimEnd text) _ blank
  rw [← whole] at same
  exact same.symm

theorem words_trim (text : Text) : words (trim text) = words text := by
  rw [trim, words_trimEnd, words_trimStart]

theorem cut?_eq_none {test : Char → Bool} {text : Text} (found : cut? test text = none) :
    ∀ c ∈ text, test c = false := by
  induction text with
  | nil => simp
  | cons c rest ih =>
    cases hit : test c with
    | true => simp [cut?, hit] at found
    | false =>
      simp only [cut?, hit, Bool.false_eq_true, if_false, Option.map_eq_none_iff] at found
      intro d member
      rcases List.mem_cons.mp member with rfl | later
      · exact hit
      · exact ih found d later

theorem cut?_of_clean {test : Char → Bool} {text : Text} (clean : ∀ c ∈ text, test c = false) :
    cut? test text = none := by
  induction text with
  | nil => rfl
  | cons c rest ih =>
    obtain ⟨first, later⟩ := List.forall_mem_cons.mp clean
    simp [cut?, first, ih later]

theorem cut?_append {test : Char → Bool} {before after : Text} {mark : Char}
    (clean : ∀ c ∈ before, test c = false) (hit : test mark = true) :
    cut? test (before ++ mark :: after) = some (before, after) := by
  induction before with
  | nil => simp [cut?, hit]
  | cons c before ih =>
    obtain ⟨first, later⟩ := List.forall_mem_cons.mp clean
    simp [cut?, first, ih later]

theorem dropEnding?_eq_some_iff {ending text front : Text} :
    dropEnding? ending text = some front ↔ text = front ++ ending := by
  rw [dropEnding?]
  constructor
  · intro dropped
    split at dropped
    · rename_i suffix
      obtain ⟨start, rfl⟩ := List.isSuffixOf_iff_suffix.mp suffix
      simp at dropped
      rw [dropped]
    · simp at dropped
  · rintro rfl
    rw [if_pos (List.isSuffixOf_iff_suffix.mpr (List.suffix_append front ending))]
    simp

end RemoteDebugger.Text
