import RemoteDebugger.Text.Numeral
import RemoteDebugger.Toml.Reader
import RemoteDebugger.Toml.Value

/-!
The values without parts: strings of four kinds, integers, floats, dates and booleans. Each is told
by how it starts, and whoever reads one checks that nothing else follows it.
-/

set_option autoImplicit false

namespace RemoteDebugger.Toml

open Reader

def isBlank (c : Char) : Bool := c == ' ' || c == '\t'

/-- Control characters other than a tab stand nowhere in a document. -/
def isPrintable (c : Char) : Bool := c == '\t' || 0x20 ≤ c.toNat && c != '\x7f'

def newline : Reader Unit := char '\n' <|> beginning "\r\n"

def blanks : Reader Unit := (fun _ => ()) <$> taken isBlank

def numberOf (radix : Nat) (digits : Text) : Nat :=
  digits.foldl (fun number c => number * radix + (Text.digit? radix c).getD 0) 0

def fixedDigits (radix count : Nat) : Reader Nat := fun text =>
  let run := text.take count
  if run.length = count && run.all fun c => (Text.digit? radix c).isSome then
    some (numberOf radix run, text.drop count)
  else none

/-! ## Strings -/

/-- A character by its number, of exactly so many hexadecimal digits. -/
def codePoint (count : Nat) : Reader Char := do
  let number ← fixedDigits 16 count
  if number.isValidChar then pure (Char.ofNat number) else failure

def escape : Reader Char := do
  char '\\'
  match ← next fun _ => true with
  | 'b' => pure '\x08'
  | 'f' => pure '\x0c'
  | 'n' => pure '\n'
  | 'r' => pure '\r'
  | 't' => pure '\t'
  | '"' => pure '"'
  | '\\' => pure '\\'
  | 'u' => codePoint 4
  | 'U' => codePoint 8
  | _ => failure

def plain (quote : Char) : Reader Char := next fun c => isPrintable c && c != quote

def unescaped : Reader Char := next fun c => isPrintable c && c != '"' && c != '\\'

def basicString : Reader Text :=
  char '"' *> repeated (unescaped <|> escape) <* char '"'

def literalString : Reader Text := char '\'' *> repeated (plain '\'') <* char '\''

/-- One or two quotes, which do not end a string of several lines. -/
def fewQuotes (quote : Char) : Reader Text :=
  when (fun run => 1 ≤ run.length && run.length ≤ 2) (taken (· == quote))

/-- The end of a string of several lines: three quotes, after up to two that belong to it. -/
def closingQuotes (quote : Char) : Reader Text :=
  List.drop 3 <$> when (fun run => 3 ≤ run.length && run.length ≤ 5) (taken (· == quote))

/-- A backslash at the end of a line, with all blanks and line ends after it. -/
def lineContinuation : Reader Unit := do
  char '\\'
  blanks
  newline
  let _ ← repeated (newline <|> (fun _ => ()) <$> next isBlank)

/-- A string of several lines. A line end right after the first quotes does not count, and every
other one counts as a single character. -/
def longString (quote : Char) (piece : Reader Text) : Reader Text := do
  beginning [quote, quote, quote]
  let _ ← maybe newline
  let pieces ← repeated (piece <|> (fun _ => ['\n']) <$> newline <|> fewQuotes quote)
  let last ← closingQuotes quote
  pure (pieces.flatten ++ last)

def longBasicString : Reader Text :=
  longString '"'
    ((fun c => [c]) <$> unescaped <|> (fun _ => []) <$> lineContinuation <|>
      (fun c => [c]) <$> escape)

def longLiteralString : Reader Text := longString '\'' ((fun c => [c]) <$> plain '\'')

/-- A string. Three quotes are tried first, because two of them alone are an empty string. -/
def quoted : Reader Text :=
  longBasicString <|> basicString <|> longLiteralString <|> literalString

/-! ## Numbers -/

/-- Digits of a radix. Between two digits one underscore may stand, which does not count. -/
def digits (radix : Nat) : Reader Text := do
  let digit := next fun c => (Text.digit? radix c).isSome
  let first ← digit
  let others ← repeated (maybe (char '_') *> digit)
  pure (first :: others)

def sign : Reader Bool :=
  (fun _ => true) <$> char '-' <|> (fun _ => false) <$> maybe (char '+')

def decimalDigits : Reader Text := when (fun run => run.head? != some '0') (digits 10) <|>
  (fun _ => ['0']) <$> char '0'

def markedInteger (mark : Char) (radix : Nat) : Reader Int :=
  beginning ['0', mark] *> (fun run => (numberOf radix run : Int)) <$> digits radix

def signed (negative : Bool) (number : Nat) : Int := if negative then -(number : Int) else number

def decimalInteger : Reader Int := do
  let negative ← sign
  let run ← decimalDigits
  pure (signed negative (numberOf 10 run))

/-- An integer of sixty-four bits, decimal with a sign or of another radix without one. -/
def integer : Reader Int :=
  when (fun number => -0x8000000000000000 ≤ number && number < 0x8000000000000000)
    (markedInteger 'x' 16 <|> markedInteger 'o' 8 <|> markedInteger 'b' 2 <|> decimalInteger)

/-- Whether significant digits and a power of ten make more than the largest double: the bound is
the middle between it and the next power of two. -/
def exceedsDouble (significant : Nat) (power : Int) : Bool :=
  let size := (Nat.toDigits 10 significant).length + power
  let bound := 1 <<< 1024 - 1 <<< 970
  if significant = 0 || size < 308 then false
  else if 310 < size then true
  else if power < 0 then bound * Nat.pow 10 power.natAbs ≤ significant
  else bound ≤ significant * Nat.pow 10 power.natAbs

def float : Reader Unit := do
  let negative ← sign
  let named := beginning "inf" <|> beginning "nan"
  let written := do
    let whole ← decimalDigits
    let fraction ← maybe (char '.' *> digits 10)
    let exponent ← maybe do
      let _ ← next fun c => c == 'e' || c == 'E'
      let down ← sign
      let run ← digits 10
      pure (signed down (numberOf 10 run))
    if fraction.isNone && exponent.isNone then failure
    else
      let places := fraction.getD []
      let power := exponent.getD 0 - places.length
      if !negative && exceedsDouble (numberOf 10 (whole ++ places)) power then failure
      else pure ()
  named <|> written

/-! ## Dates -/

def twoDigits (least greatest : Nat) : Reader Nat :=
  when (fun number => least ≤ number && number ≤ greatest) (fixedDigits 10 2)

def daysInMonth (year month : Nat) : Nat :=
  if month = 2 then
    if year % 4 = 0 && (year % 100 != 0 || year % 400 = 0) then 29 else 28
  else if month ∈ [4, 6, 9, 11] then 30
  else 31

def date : Reader Unit := do
  let year ← fixedDigits 10 4
  char '-'
  let month ← twoDigits 1 12
  char '-'
  let _ ← twoDigits 1 (daysInMonth year month)

/-- A time of the day. A minute may have a leap second. -/
def time : Reader Unit := do
  let _ ← twoDigits 0 23
  char ':'
  let _ ← twoDigits 0 59
  char ':'
  let _ ← twoDigits 0 60
  let _ ← maybe (char '.' *> when (· != []) (taken fun c => (Text.digit? 10 c).isSome))

def zone : Reader Unit :=
  (fun _ => ()) <$> next (fun c => c == 'Z' || c == 'z') <|> do
    let _ ← next fun c => c == '+' || c == '-'
    let _ ← twoDigits 0 23
    char ':'
    let _ ← twoDigits 0 59

def moment : Reader Unit :=
  (do
    date
    let _ ← maybe (next (fun c => c == 'T' || c == 't' || c == ' ') *> time *> maybe zone)) <|>
  time

/-- A value without parts. Dates and floats start like integers, so they come first. -/
def scalar : Reader Value :=
  Value.text <$> quoted <|>
  (fun _ => Value.boolean true) <$> beginning "true" <|>
  (fun _ => Value.boolean false) <$> beginning "false" <|>
  (fun _ => Value.unused) <$> moment <|>
  (fun _ => Value.unused) <$> float <|>
  Value.integer <$> integer

end RemoteDebugger.Toml
