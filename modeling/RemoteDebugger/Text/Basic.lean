/-!
Text as the debugger reads and writes it: a list of characters, cut at single characters.
The cutting functions lose nothing, which the small laws beside them say.
-/

set_option autoImplicit false

namespace RemoteDebugger

/-- Text is the sequence of its characters, so every rule of reading is a recursion on it. -/
abbrev Text := List Char

instance : Coe String Text := ⟨String.toList⟩

namespace Text

/-- ASCII letters in upper case; every other character stays as it is. -/
def upper (text : Text) : Text := text.map Char.toUpper

/-- Cuts at the first character that satisfies the test and drops that character. -/
def cut? (test : Char → Bool) : Text → Option (Text × Text)
  | [] => none
  | c :: rest =>
    if test c then some ([], rest)
    else (cut? test rest).map fun (before, after) => (c :: before, after)

def dropEnding? (ending text : Text) : Option Text :=
  if ending.isSuffixOf text then some (text.take (text.length - ending.length)) else none

/-- Pads with blanks on the right up to a width; longer text stays as it is. -/
def padRight (width : Nat) (text : Text) : Text :=
  text ++ List.replicate (width - text.length) ' '

def joined (separator : Text) : List Text → Text
  | [] => []
  | [only] => only
  | first :: second :: others => first ++ separator ++ joined separator (second :: others)

theorem cut?_eq_some {test : Char → Bool} {text before after : Text}
    (found : cut? test text = some (before, after)) :
    ∃ c, test c = true ∧ text = before ++ c :: after ∧ ∀ d ∈ before, test d = false := by
  induction text generalizing before with
  | nil => simp [cut?] at found
  | cons c rest ih =>
    by_cases hit : test c = true
    · simp only [cut?, hit, if_true, Option.some.injEq, Prod.mk.injEq] at found
      obtain ⟨rfl, rfl⟩ := found
      exact ⟨c, hit, rfl, by simp⟩
    · simp only [cut?, hit, if_false, Option.map_eq_some_iff, Prod.exists, Prod.mk.injEq,
        Bool.false_eq_true] at found
      obtain ⟨first, _, inner, rfl, rfl⟩ := found
      obtain ⟨d, mark, same, clean⟩ := ih inner
      refine ⟨d, mark, by simp [same], ?_⟩
      intro e member
      rcases List.mem_cons.mp member with rfl | later
      · simpa using hit
      · exact clean e later

end Text

/-- At most so many pieces of a given size, from the start on. -/
def piecesWithin {α : Type} (size : Nat) : Nat → List α → List (List α)
  | 0, _ => []
  | _ + 1, [] => []
  | left + 1, item :: items =>
    (item :: items).take size :: piecesWithin size left ((item :: items).drop size)

/-- Consecutive pieces of a given size, the last one possibly shorter. No list has more pieces
than items. -/
def pieces {α : Type} (size : Nat) (items : List α) : List (List α) :=
  piecesWithin size items.length items

theorem flatten_piecesWithin {α : Type} {size : Nat} (positive : 0 < size) {left : Nat}
    {items : List α} (enough : items.length ≤ left) :
    (piecesWithin size left items).flatten = items := by
  induction left generalizing items with
  | zero =>
    have : items = [] := List.length_eq_zero_iff.mp (Nat.le_zero.mp enough)
    subst this
    rfl
  | succ left ih =>
    cases items with
    | nil => rfl
    | cons item items =>
      have shorter : ((item :: items).drop size).length ≤ left := by
        rw [List.length_drop]
        simp only [List.length_cons] at enough ⊢
        omega
      rw [piecesWithin, List.flatten_cons, ih shorter, List.take_append_drop]

theorem flatten_pieces {α : Type} {size : Nat} (positive : 0 < size) (items : List α) :
    (pieces size items).flatten = items :=
  flatten_piecesWithin positive (Nat.le_refl _)

end RemoteDebugger
