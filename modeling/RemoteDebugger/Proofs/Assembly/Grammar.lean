import RemoteDebugger.Assembly.Operand
import RemoteDebugger.Proofs.Text.Numeral
import RemoteDebugger.Proofs.Text.Words

/-!
The grammar of operands. An operand is written in one of eleven shapes around numbers, and a number
in one of three notations. Reading an operand accepts exactly what the grammar writes, once blanks
are left out and letters are capital, and no text is written for two operands.
-/

set_option autoImplicit false

namespace RemoteDebugger.Operand

open Text (Solid upper squeeze cut?)

/-- A number as it stands in an operand: hexadecimal digits behind a dollar sign, binary digits
behind a percent sign, or decimal digits. -/
inductive Number : Text → UInt16 → Prop where
  | hexadecimal {digits : Text} {value : UInt16} (numeral : Text.Numeral 16 digits value.toNat) :
      Number ('$' :: digits) value
  | binary {digits : Text} {value : UInt16} (numeral : Text.Numeral 2 digits value.toNat) :
      Number ('%' :: digits) value
  | decimal {digits : Text} {value : UInt16} (numeral : Text.Numeral 10 digits value.toNat) :
      Number digits value

/-- What an operand is written as, without blanks and with capital letters. -/
inductive Written : Operand → Text → Prop where
  | empty : Written .none []
  | accumulator : Written .none ['A']
  | immediate {text : Text} {value : UInt16} (number : Number text value) :
      Written (.immediate value) ('#' :: text)
  | indirectX {text : Text} {value : UInt16} (number : Number text value) :
      Written (.indirectX value) ('(' :: (text ++ [',', 'X', ')']))
  | indirect {text : Text} {value : UInt16} (number : Number text value) :
      Written (.indirect value) ('(' :: (text ++ [')']))
  | stackIndirectY {text : Text} {value : UInt16} (number : Number text value) :
      Written (.stackIndirectY value) ('(' :: (text ++ [',', 'S', 'P', ')', ',', 'Y']))
  | indirectY {text : Text} {value : UInt16} (number : Number text value) :
      Written (.indirectY value) ('(' :: (text ++ [')', ',', 'Y']))
  | indirectZ {text : Text} {value : UInt16} (number : Number text value) :
      Written (.indirectZ value) ('(' :: (text ++ [')', ',', 'Z']))
  | direct {text : Text} {value : UInt16} (number : Number text value) :
      Written (.direct value) text
  | indexedX {text : Text} {value : UInt16} (number : Number text value) :
      Written (.indexedX value) (text ++ [',', 'X'])
  | indexedY {text : Text} {value : UInt16} (number : Number text value) :
      Written (.indexedY value) (text ++ [',', 'Y'])
  | zeroPageRelative {page text : Text} {zeroPage target : UInt16} (base : Number page zeroPage)
      (number : Number text target) :
      Written (.zeroPageRelative zeroPage target) (page ++ ',' :: text)

section Numbers

variable {text digits whole : Text} {value : UInt16} {operand : Operand}

theorem readDigitsOf_eq_ok_iff (radix : Radix) :
    readDigitsOf radix whole digits = .ok value ↔
      Text.Numeral radix.base digits value.toNat := by
  have small : radix.base ≤ 16 := by cases radix <;> decide
  have bound : value.toNat ≤ 0xFFFF := Nat.le_of_lt_succ value.toNat_lt
  have written : Text.Numeral radix.base digits value.toNat ↔
      Text.readNat radix.base 0xFFFF digits = .ok value.toNat := by
    rw [Text.readNat_eq_ok_iff small, and_iff_left bound]
  rw [written, readDigitsOf]
  cases read : Text.readNat radix.base 0xFFFF digits with
  | error cause => simp
  | ok number =>
    have within : number ≤ 0xFFFF := ((Text.readNat_eq_ok_iff small).mp read).2
    have whole : (UInt16.ofNat number).toNat = number := by
      rw [UInt16.toNat_ofNat', Nat.mod_eq_of_lt (by omega)]
    simp only [Except.ok.injEq, ← UInt16.toNat_inj, whole]

theorem Number.forall {property : Char → Prop} (number : Number text value)
    (dollar : property '$') (percent : property '%') (plus : property '+')
    (digit : ∀ c, Text.IsHexDigit c → property c) : ∀ c ∈ text, property c := by
  have numerals : ∀ {radix : Nat} {digits : Text} {number : Nat}, radix ≤ 16 →
      Text.Numeral radix digits number → ∀ c ∈ digits, property c := by
    intro radix digits number small numeral c member
    rcases numeral.plus_or_digit small c member with rfl | found
    · exact plus
    · exact digit c found
  cases number with
  | hexadecimal numeral => exact List.forall_mem_cons.mpr ⟨dollar, numerals (by decide) numeral⟩
  | binary numeral => exact List.forall_mem_cons.mpr ⟨percent, numerals (by decide) numeral⟩
  | decimal numeral => exact numerals (by decide) numeral

theorem Number.clean {mark : Char} (number : Number text value)
    (dollar : ('$' == mark) = false) (percent : ('%' == mark) = false)
    (plus : ('+' == mark) = false)
    (lower : ∀ d < 16, (Nat.digitChar d == mark) = false)
    (upper : ∀ d < 16, ((Nat.digitChar d).toUpper == mark) = false) :
    ∀ c ∈ text, (c == mark) = false :=
  number.forall dollar percent plus fun _ digit =>
    digit.elim (fun c => (c == mark) = false) lower upper

theorem Number.no_comma (number : Number text value) : ∀ c ∈ text, (c == ',') = false :=
  number.clean (by decide) (by decide) (by decide) (by decide) (by decide)

theorem Number.no_parenthesis (number : Number text value) : ∀ c ∈ text, (c == ')') = false :=
  number.clean (by decide) (by decide) (by decide) (by decide) (by decide)

theorem Number.ne_nil (number : Number text value) : text ≠ [] := by
  cases number with
  | hexadecimal numeral => exact List.cons_ne_nil _ _
  | binary numeral => exact List.cons_ne_nil _ _
  | decimal numeral =>
    cases numeral with
    | unsigned digits => exact digits.ne_nil
    | signed digits => exact List.cons_ne_nil _ _

theorem readNumber_eq_ok_iff (solid : Solid text) :
    readNumber text = .ok value ↔ Number text value := by
  rw [readNumber, Text.trim_of_solid solid]
  constructor
  · intro read
    split at read
    · simp at read
    · exact .hexadecimal ((readDigitsOf_eq_ok_iff .hexadecimal).mp read)
    · exact .binary ((readDigitsOf_eq_ok_iff .binary).mp read)
    · exact .decimal ((readDigitsOf_eq_ok_iff .decimal).mp read)
  · intro number
    cases number with
    | hexadecimal numeral => exact (readDigitsOf_eq_ok_iff .hexadecimal).mpr numeral
    | binary numeral => exact (readDigitsOf_eq_ok_iff .binary).mpr numeral
    | decimal numeral =>
      have marks : ∀ c ∈ text, c ≠ '$' ∧ c ≠ '%' := by
        have digits : ∀ c, Text.IsHexDigit c → c ≠ '$' ∧ c ≠ '%' := fun _ digit =>
          digit.elim (fun c => c ≠ '$' ∧ c ≠ '%') (by decide) (by decide)
        rcases numeral with numeral | numeral
        · exact fun c member => digits c (numeral.isHexDigit (by decide) c member)
        · exact List.forall_mem_cons.mpr ⟨by decide,
            fun c member => digits c (numeral.isHexDigit (by decide) c member)⟩
      split
      · rename_i empty
        exact absurd rfl (Number.decimal numeral).ne_nil
      · exact absurd rfl (marks '$' List.mem_cons_self).1
      · exact absurd rfl (marks '%' List.mem_cons_self).2
      · exact (readDigitsOf_eq_ok_iff .decimal).mpr numeral

theorem number_eq_ok_iff {shape : UInt16 → Operand} (solid : Solid text) :
    number shape text = .ok operand ↔ ∃ value, Number text value ∧ shape value = operand := by
  simp only [number, ← readNumber_eq_ok_iff solid]
  cases readNumber text with
  | error cause => simp
  | ok value => simp

theorem number_of_number {shape : UInt16 → Operand} (solid : Solid text)
    (written : Number text value) : number shape text = .ok (shape value) :=
  (number_eq_ok_iff solid).mpr ⟨value, written, rfl⟩

end Numbers

section Shapes

variable {text compact inner after : Text} {operand : Operand}

theorem written_of_readPlain (solid : Solid compact) (read : readPlain compact = .ok operand) :
    Written operand compact := by
  unfold readPlain at read
  split at read
  · obtain ⟨value, number, rfl⟩ := (number_eq_ok_iff solid).mp read
    exact .direct number
  · rename_i base cut
    obtain ⟨mark, comma, rfl, -⟩ := Text.cut?_eq_some cut
    obtain rfl : mark = ',' := by simpa using comma
    have plain := (Text.solid_append.mp solid).1
    obtain ⟨value, number, rfl⟩ := (number_eq_ok_iff plain).mp read
    exact .indexedX number
  · rename_i base cut
    obtain ⟨mark, comma, rfl, -⟩ := Text.cut?_eq_some cut
    obtain rfl : mark = ',' := by simpa using comma
    have plain := (Text.solid_append.mp solid).1
    obtain ⟨value, number, rfl⟩ := (number_eq_ok_iff plain).mp read
    exact .indexedY number
  · rename_i page target _ _ cut
    obtain ⟨mark, comma, rfl, -⟩ := Text.cut?_eq_some cut
    obtain rfl : mark = ',' := by simpa using comma
    obtain ⟨plain, rest⟩ := Text.solid_append.mp solid
    have behind := (Text.solid_cons.mp rest).2
    cases zeroPage : readNumber page with
    | error cause =>
      rw [zeroPage] at read
      simp at read
    | ok base =>
      rw [zeroPage] at read
      obtain ⟨value, number, rfl⟩ := (number_eq_ok_iff behind).mp read
      exact .zeroPageRelative ((readNumber_eq_ok_iff plain).mp zeroPage) number

theorem written_of_readIndirect (solid : Solid inner)
    (read : readIndirect inner after = .ok operand) :
    Written operand ('(' :: (inner ++ ')' :: after)) := by
  unfold readIndirect at read
  split at read
  · rename_i closed
    subst closed
    split at read
    · rename_i base dropped
      obtain rfl := Text.dropEnding?_eq_some_iff.mp dropped
      obtain ⟨value, number, rfl⟩ := (number_eq_ok_iff (Text.solid_append.mp solid).1).mp read
      simpa using Written.indirectX number
    · obtain ⟨value, number, rfl⟩ := (number_eq_ok_iff solid).mp read
      exact .indirect number
  split at read
  · rename_i indexed
    subst indexed
    split at read
    · rename_i base dropped
      obtain rfl := Text.dropEnding?_eq_some_iff.mp dropped
      obtain ⟨value, number, rfl⟩ := (number_eq_ok_iff (Text.solid_append.mp solid).1).mp read
      simpa using Written.stackIndirectY number
    · obtain ⟨value, number, rfl⟩ := (number_eq_ok_iff solid).mp read
      exact .indirectY number
  split at read
  · rename_i indexed
    subst indexed
    obtain ⟨value, number, rfl⟩ := (number_eq_ok_iff solid).mp read
    exact .indirectZ number
  · simp at read

theorem written_of_read (same : upper (squeeze text) = compact) (solid : Solid compact)
    (read : Operand.read text = .ok operand) : Written operand compact := by
  rw [Operand.read, same] at read
  split at read
  · cases read
    exact .empty
  · cases read
    exact .accumulator
  · obtain ⟨value, number, rfl⟩ := (number_eq_ok_iff (Text.solid_cons.mp solid).2).mp read
    exact .immediate number
  · split at read
    · simp at read
    · rename_i inner after cut
      obtain ⟨mark, closing, rfl, -⟩ := Text.cut?_eq_some cut
      obtain rfl : mark = ')' := by simpa using closing
      have plain := (Text.solid_append.mp (Text.solid_cons.mp solid).2).1
      exact written_of_readIndirect plain read
  · exact written_of_readPlain solid read

theorem Number.head {value : UInt16} (number : Number text value) :
    ∃ c rest, text = c :: rest ∧ c ≠ '#' ∧ c ≠ '(' ∧ c ≠ 'A' := by
  have digits : ∀ d < 10, ∀ c, c = Nat.digitChar d ∨ c = (Nat.digitChar d).toUpper →
      c ≠ '#' ∧ c ≠ '(' ∧ c ≠ 'A' := by
    rintro d small c (rfl | rfl)
    · revert d; decide
    · revert d; decide
  cases number with
  | hexadecimal numeral => exact ⟨'$', _, rfl, by decide⟩
  | binary numeral => exact ⟨'%', _, rfl, by decide⟩
  | decimal numeral =>
    rcases numeral with numeral | numeral
    · obtain ⟨c, rest, rfl⟩ := List.exists_cons_of_ne_nil numeral.ne_nil
      obtain ⟨d, small, written⟩ := numeral.isDigit c List.mem_cons_self
      exact ⟨c, rest, rfl, digits d small c written⟩
    · exact ⟨'+', _, rfl, by decide⟩

theorem read_of_number {value : UInt16} {back : Text} (number : Number compact value)
    (same : upper (squeeze text) = compact ++ back) :
    Operand.read text = readPlain (compact ++ back) := by
  obtain ⟨c, rest, rfl, hash, parenthesis, letter⟩ := number.head
  rw [Operand.read, same]
  split <;> simp_all

theorem read_of_parentheses (same : upper (squeeze text) = '(' :: (inner ++ ')' :: after))
    (clean : ∀ c ∈ inner, (c == ')') = false) :
    Operand.read text = readIndirect inner after := by
  rw [Operand.read, same]
  simp only [Text.cut?_append clean (beq_self_eq_true ')')]

private theorem readIndirect_closed (inner : Text) :
    readIndirect inner [] =
      match Text.dropEnding? [',', 'X'] inner with
      | some base => number indirectX base
      | Option.none => number indirect inner :=
  rfl

private theorem readIndirect_Y (inner : Text) :
    readIndirect inner [',', 'Y'] =
      match Text.dropEnding? [',', 'S', 'P'] inner with
      | some base => number stackIndirectY base
      | Option.none => number indirectY inner :=
  rfl

private theorem readIndirect_Z (inner : Text) :
    readIndirect inner [',', 'Z'] = number indirectZ inner :=
  rfl

private theorem Number.dropEnding? {value : UInt16} (number : Number text value) {ending : Text}
    (comma : ',' ∈ ending) : Text.dropEnding? ending text = Option.none := by
  cases dropped : Text.dropEnding? ending text with
  | none => rfl
  | some front =>
    obtain rfl := Text.dropEnding?_eq_some_iff.mp dropped
    have clean := number.no_comma ',' (List.mem_append_right _ comma)
    simp at clean

private theorem readPlain_pair {page target : UInt16} {base : Text} (first : Number base page)
    (second : Number text target) (solid : Solid base) (solidText : Solid text) :
    readPlain (base ++ ',' :: text) = .ok (zeroPageRelative page target) := by
  have cut : cut? (· == ',') (base ++ ',' :: text) = some (base, text) :=
    Text.cut?_append first.no_comma rfl
  have letters : ∀ c ∈ text, (c == 'X') = false ∧ (c == 'Y') = false :=
    second.forall (by decide) (by decide) (by decide) fun _ digit =>
      digit.elim (fun c => (c == 'X') = false ∧ (c == 'Y') = false) (by decide) (by decide)
  rw [readPlain, cut]
  split
  · contradiction
  · rename_i same
    cases same
    exact absurd (letters 'X' List.mem_cons_self).1 (by decide)
  · rename_i same
    cases same
    exact absurd (letters 'Y' List.mem_cons_self).2 (by decide)
  · rename_i same
    cases same
    rw [(readNumber_eq_ok_iff solid).mpr first]
    exact number_of_number solidText second

theorem read_of_written (written : Written operand compact)
    (same : upper (squeeze text) = compact) (solid : Solid compact) :
    Operand.read text = .ok operand := by
  cases written with
  | empty => rw [Operand.read, same]
  | accumulator =>
    rw [Operand.read, same]
    rfl
  | immediate number =>
    rw [Operand.read, same]
    exact number_of_number (Text.solid_cons.mp solid).2 number
  | @indirectX base value number =>
    have whole : base ++ [',', 'X', ')'] = (base ++ [',', 'X']) ++ ')' :: [] := by simp
    have clean : ∀ c ∈ base ++ [',', 'X'], (c == ')') = false :=
      List.forall_mem_append.mpr ⟨number.no_parenthesis, by simp⟩
    rw [whole] at same
    rw [read_of_parentheses same clean, readIndirect_closed,
      Text.dropEnding?_eq_some_iff.mpr rfl]
    exact number_of_number (Text.solid_append.mp (Text.solid_cons.mp solid).2).1 number
  | indirect number =>
    rw [read_of_parentheses same number.no_parenthesis, readIndirect_closed,
      number.dropEnding? (by simp)]
    exact number_of_number (Text.solid_append.mp (Text.solid_cons.mp solid).2).1 number
  | @stackIndirectY base value number =>
    have whole : base ++ [',', 'S', 'P', ')', ',', 'Y'] =
        (base ++ [',', 'S', 'P']) ++ ')' :: [',', 'Y'] := by simp
    have clean : ∀ c ∈ base ++ [',', 'S', 'P'], (c == ')') = false :=
      List.forall_mem_append.mpr ⟨number.no_parenthesis, by simp⟩
    rw [whole] at same
    rw [read_of_parentheses same clean, readIndirect_Y, Text.dropEnding?_eq_some_iff.mpr rfl]
    exact number_of_number (Text.solid_append.mp (Text.solid_cons.mp solid).2).1 number
  | indirectY number =>
    rw [read_of_parentheses same number.no_parenthesis, readIndirect_Y,
      number.dropEnding? (by simp)]
    exact number_of_number (Text.solid_append.mp (Text.solid_cons.mp solid).2).1 number
  | indirectZ number =>
    rw [read_of_parentheses same number.no_parenthesis, readIndirect_Z]
    exact number_of_number (Text.solid_append.mp (Text.solid_cons.mp solid).2).1 number
  | direct number =>
    have whole := read_of_number number (same.trans (List.append_nil _).symm)
    rw [whole, List.append_nil, readPlain, Text.cut?_of_clean number.no_comma]
    exact number_of_number solid number
  | indexedX number =>
    rw [read_of_number number same, readPlain, Text.cut?_append number.no_comma rfl]
    exact number_of_number (Text.solid_append.mp solid).1 number
  | indexedY number =>
    rw [read_of_number number same, readPlain, Text.cut?_append number.no_comma rfl]
    exact number_of_number (Text.solid_append.mp solid).1 number
  | zeroPageRelative base number =>
    obtain ⟨plain, rest⟩ := Text.solid_append.mp solid
    rw [read_of_number base same]
    exact readPlain_pair base number plain (Text.solid_cons.mp rest).2

end Shapes

/-- An operand is read from a text exactly when the text writes it, up to blanks and the case of
letters; any other text is told as an invalid operand. No text is written for two operands. -/
theorem read_iff_written (text : Text) :
    (∀ operand, Operand.read text = .ok operand ↔ Written operand (upper (squeeze text))) ∧
    ((∃ cause, Operand.read text = .error cause) ↔
      ∀ operand, ¬ Written operand (upper (squeeze text))) ∧
    ∀ first second, Written first (upper (squeeze text)) →
      Written second (upper (squeeze text)) → first = second := by
  have solid := Text.solid_upper_squeeze text
  have accepts : ∀ operand,
      Operand.read text = .ok operand ↔ Written operand (upper (squeeze text)) := fun operand =>
    ⟨written_of_read rfl solid, fun written => read_of_written written rfl solid⟩
  refine ⟨accepts, ?_, fun first second one other => ?_⟩
  · simp only [← accepts]
    cases Operand.read text with
    | error cause => simp
    | ok operand => simp
  · have read := (accepts first).mpr one
    rw [(accepts second).mpr other] at read
    exact (Except.ok.inj read).symm

end RemoteDebugger.Operand
