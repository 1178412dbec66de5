import RemoteDebugger.Text.Basic

/-!
Blank characters, trimming and words. The class is the character property White_Space, which
is wider than the ASCII blanks: a no-break space or an ideographic space separates fields too.
-/

set_option autoImplicit false

namespace RemoteDebugger.Text

/-- Membership in the property White_Space, which has twenty-five characters. -/
def isBlank (c : Char) : Bool :=
  let n := c.toNat
  (9 ≤ n && n ≤ 13) || n == 0x20 || n == 0x85 || n == 0xA0 || n == 0x1680 ||
    (0x2000 ≤ n && n ≤ 0x200A) || n == 0x2028 || n == 0x2029 || n == 0x202F ||
    n == 0x205F || n == 0x3000

/-- The blanks of ASCII that may stand between data digits: the vertical tab is not one. -/
def isAsciiBlank (c : Char) : Bool :=
  c == ' ' || c == '\t' || c == '\n' || c == '\x0C' || c == '\r'

def trimStart (text : Text) : Text := text.dropWhile isBlank

def trimEnd (text : Text) : Text := (text.reverse.dropWhile isBlank).reverse

def trim (text : Text) : Text := trimEnd (trimStart text)

def squeeze (text : Text) : Text := text.filter fun c => !isBlank c

/-- Reading from the right: the word under construction and the words after it. -/
def gatherWord (c : Char) (state : Text × List Text) : Text × List Text :=
  if isBlank c then ([], if state.1.isEmpty then state.2 else state.1 :: state.2)
  else (c :: state.1, state.2)

def words (text : Text) : List Text :=
  let state := text.foldr gatherWord ([], [])
  if state.1.isEmpty then state.2 else state.1 :: state.2

theorem isBlank_of_isWhitespace {c : Char} (blank : c.isWhitespace = true) :
    isBlank c = true := by
  simp only [Char.isWhitespace, Bool.or_eq_true, decide_eq_true_eq] at blank
  rcases blank with ((rfl | rfl) | rfl) | rfl <;> rfl

theorem isBlank_of_isAsciiBlank {c : Char} (blank : isAsciiBlank c = true) :
    isBlank c = true := by
  simp only [isAsciiBlank, Bool.or_eq_true, beq_iff_eq] at blank
  rcases blank with (((rfl | rfl) | rfl) | rfl) | rfl <;> rfl

end RemoteDebugger.Text
