import Mathlib.Data.List.DropRight
import RemoteDebugger.Transport.Stream

/-!
UTF-8 and the ends of lines. Text that was read from bytes encodes to them again; and a character
outside ASCII has no ASCII byte at its end, so the carriage returns and newlines at the end of a
text are those at the end of its bytes.
-/

set_option autoImplicit false

namespace RemoteDebugger

namespace Text

theorem toUtf8_of_ofUtf8? {bytes : List UInt8} {text : Text} (read : ofUtf8? bytes = some text) :
    toUtf8 text = bytes := by
  obtain ⟨characters, decoded, rfl⟩ := Option.map_eq_some_iff.mp read
  have encoded := @ByteArray.utf8Encode_get_utf8Decode? ⟨bytes.toArray⟩ (by rw [decoded]; rfl)
  simp only [decoded, Option.get_some, List.utf8Encode] at encoded
  have same := congrArg (fun array : ByteArray => array.data.toList) encoded
  simpa [toUtf8] using same

theorem toUtf8_append (front back : Text) : toUtf8 (front ++ back) = toUtf8 front ++ toUtf8 back :=
  List.flatMap_append

theorem utf8EncodeChar_last (c : Char) :
    ∃ front last, String.utf8EncodeChar c = front ++ [last] ∧
      (last = UInt8.ofNat c.toNat ∧ c.toNat < 128 ∨ 128 ≤ last.toNat) := by
  have high : ∀ n : Nat, 128 ≤ (UInt8.ofNat (n % 64 + 128)).toNat := by
    intro n
    rw [UInt8.toNat_ofNat', Nat.mod_eq_of_lt (by omega)]
    omega
  have value : c.val.toNat = c.toNat := rfl
  rw [String.utf8EncodeChar, value]
  split
  · exact ⟨[], _, rfl, .inl ⟨rfl, by omega⟩⟩
  split
  · exact ⟨[_], _, rfl, .inr (high _)⟩
  split
  · exact ⟨[_, _], _, rfl, .inr (high _)⟩
  · exact ⟨[_, _, _], _, rfl, .inr (high _)⟩

end Text

namespace Stream

def isEndByte (byte : UInt8) : Bool := byte == carriageReturn || byte == newline

/-- Removes all carriage returns and newlines from the end of bytes. -/
def trimBytes (bytes : List UInt8) : List UInt8 := bytes.rdropWhile isEndByte

private theorem isLineEnd_of_isEndByte {c : Char} {last : UInt8}
    (kind : last = UInt8.ofNat c.toNat ∧ c.toNat < 128 ∨ 128 ≤ last.toNat)
    (ends : isEndByte last = true) : isLineEnd c = true := by
  have code : last.toNat = 13 ∨ last.toNat = 10 := by
    simp only [isEndByte, Bool.or_eq_true, beq_iff_eq] at ends
    rcases ends with rfl | rfl
    · exact .inl rfl
    · exact .inr rfl
  rcases kind with ⟨rfl, small⟩ | high
  · rw [UInt8.toNat_ofNat', Nat.mod_eq_of_lt (by omega)] at code
    have whole : c = Char.ofNat c.toNat := (Char.ofNat_toNat c).symm
    rcases code with same | same
    · rw [whole, same]
      rfl
    · rw [whole, same]
      rfl
  · omega

theorem toUtf8_trimLineEnd (text : Text) :
    Text.toUtf8 (trimLineEnd text) = trimBytes (Text.toUtf8 text) := by
  show Text.toUtf8 (text.rdropWhile isLineEnd) = _
  induction text using List.reverseRecOn with
  | nil => rfl
  | append_singleton front c ih =>
    obtain ⟨start, last, encoded, kind⟩ := Text.utf8EncodeChar_last c
    rw [List.rdropWhile_concat, Text.toUtf8_append]
    show _ = trimBytes (_ ++ (String.utf8EncodeChar c ++ []))
    rw [List.append_nil]
    by_cases ends : isLineEnd c = true
    · rw [if_pos ends, ih]
      simp only [isLineEnd, Bool.or_eq_true, beq_iff_eq] at ends
      rcases ends with rfl | rfl
      · exact (List.rdropWhile_concat_pos _ _ _ rfl).symm
      · exact (List.rdropWhile_concat_pos _ _ _ rfl).symm
    · have other : ¬ isEndByte last = true := fun hit => ends (isLineEnd_of_isEndByte kind hit)
      rw [if_neg ends, Text.toUtf8_append, encoded, ← List.append_assoc, trimBytes,
        List.rdropWhile_concat_neg _ _ _ other, List.append_assoc, ← encoded]
      show _ ++ (String.utf8EncodeChar c ++ []) = _
      rw [List.append_nil]

end Stream

end RemoteDebugger
