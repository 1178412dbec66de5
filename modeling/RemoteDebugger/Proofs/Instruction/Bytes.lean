import RemoteDebugger.Assembly.Encoding

/-!
Words and their bytes. A word is its low and its high byte, and a byte stands for exactly those
words that are its sign extension.
-/

set_option autoImplicit false

namespace RemoteDebugger

theorem toNat_lowByte (word : UInt16) : (lowByte word).toNat = word.toNat % 256 :=
  UInt16.toNat_toUInt8 word

theorem toNat_highByte (word : UInt16) : (highByte word).toNat = word.toNat / 256 := by
  have bound := word.toNat_lt
  rw [highByte, UInt16.toNat_toUInt8, UInt16.toNat_shiftRight]
  have shift : word.toNat >>> ((8 : UInt16).toNat % 16) = word.toNat / 256 :=
    Nat.shiftRight_eq_div_pow _ _
  rw [shift]
  omega

theorem toNat_wordOf (low high : UInt8) :
    (wordOf low high).toNat = low.toNat + 256 * high.toNat := by
  have lowBound : low.toNat < 2 ^ 8 := low.toNat_lt
  have highBound := high.toNat_lt
  have shift : high.toNat <<< ((8 : UInt16).toNat % 16) % 2 ^ 16 = high.toNat <<< 8 := by
    rw [Nat.mod_eq_of_lt]
    · rfl
    · show high.toNat <<< 8 < 2 ^ 16
      rw [Nat.shiftLeft_eq]
      omega
  rw [wordOf, UInt16.toNat_or, UInt16.toNat_shiftLeft, UInt8.toNat_toUInt16, UInt8.toNat_toUInt16,
    shift, Nat.or_comm, ← Nat.shiftLeft_add_eq_or_of_lt lowBound, Nat.shiftLeft_eq]
  omega

theorem wordOf_lowByte_highByte (word : UInt16) : wordOf (lowByte word) (highByte word) = word := by
  rw [← UInt16.toNat_inj, toNat_wordOf, toNat_lowByte, toNat_highByte]
  omega

theorem lowByte_wordOf (low high : UInt8) : lowByte (wordOf low high) = low := by
  have bound := low.toNat_lt
  rw [← UInt8.toNat_inj, toNat_lowByte, toNat_wordOf]
  omega

theorem highByte_wordOf (low high : UInt8) : highByte (wordOf low high) = high := by
  have bound := low.toNat_lt
  rw [← UInt8.toNat_inj, toNat_highByte, toNat_wordOf]
  omega

private theorem toNat_signExtend (byte : UInt8) :
    (signExtend byte).toNat = if byte.toNat < 128 then byte.toNat else byte.toNat + 65280 := by
  have table : ∀ n < 256, (signExtend (UInt8.ofNat n)).toNat =
      if n < 128 then n else n + 65280 := by decide +kernel
  have := table byte.toNat byte.toNat_lt
  rwa [UInt8.ofNat_toNat] at this

private theorem toInt_toInt16 (word : UInt16) :
    word.toInt16.toInt =
      if 2 * word.toNat < 65536 then (word.toNat : Int) else (word.toNat : Int) - 65536 := by
  show word.toBitVec.toInt = _
  rw [BitVec.toInt_eq_toNat_cond]
  rfl

theorem signExtend_eq_iff {byte : UInt8} {word : UInt16} :
    signExtend byte = word ↔
      (-128 ≤ word.toInt16.toInt ∧ word.toInt16.toInt ≤ 127) ∧ lowByte word = byte := by
  have bound := byte.toNat_lt
  have wordBound := word.toNat_lt
  rw [← UInt16.toNat_inj, ← UInt8.toNat_inj, toNat_signExtend, toNat_lowByte, toInt_toInt16]
  constructor
  · intro same
    split at same <;> split <;> omega
  · rintro ⟨⟨low, high⟩, same⟩
    split <;> split at low <;> omega

namespace Encoding

theorem toUInt16_eq_iff {byte : UInt8} {word : UInt16} :
    byte.toUInt16 = word ↔ word ≤ 0xFF ∧ lowByte word = byte := by
  have bound := byte.toNat_lt
  have limit : (0xFF : UInt16).toNat = 255 := rfl
  rw [← UInt16.toNat_inj, ← UInt8.toNat_inj, UInt16.le_iff_toNat_le, toNat_lowByte,
    UInt8.toNat_toUInt16, limit]
  omega

theorem wordOf_eq_iff {low high : UInt8} {word : UInt16} :
    wordOf low high = word ↔ wordBytes word = [low, high] := by
  constructor
  · rintro rfl
    rw [wordBytes, lowByte_wordOf, highByte_wordOf]
  · intro same
    simp only [wordBytes, List.cons.injEq, and_true] at same
    rw [← same.1, ← same.2, wordOf_lowByte_highByte]

theorem add_eq_iff_displacement {target address distance : UInt16} {size : Nat} :
    address + UInt16.ofNat size + distance = target ↔
      displacement target address size = distance := by
  rw [displacement]
  constructor
  · rintro rfl
    rw [UInt16.add_comm, UInt16.add_sub_cancel]
  · rintro rfl
    rw [UInt16.add_comm, UInt16.sub_add_cancel]

theorem longTarget_eq_iff {target address : UInt16} {size : Nat} {low high : UInt8} :
    Instruction.longTarget address size (wordOf low high) = target ↔
      wordBytes (displacement target address size) = [low, high] := by
  rw [Instruction.longTarget, add_eq_iff_displacement, ← wordOf_eq_iff]
  exact eq_comm

theorem shortTarget_eq_iff {target address : UInt16} {size : Nat} {byte : UInt8} :
    Instruction.shortTarget address size byte = target ↔
      shortDisplacement? target address size = some byte := by
  rw [Instruction.shortTarget, add_eq_iff_displacement, eq_comm, signExtend_eq_iff,
    shortDisplacement?, signedDisplacement]
  constructor
  · rintro ⟨near, same⟩
    rw [if_pos near, same]
  · intro found
    split at found
    · rename_i near
      exact ⟨near, Option.some.inj found⟩
    · contradiction

end Encoding

end RemoteDebugger
