import RemoteDebugger.Proofs.Monitor.Layout

/-!
Value lines read back. A register line gives the registers that were printed, with the first word
of the flags; a memory line gives its window. The other lines that a monitor prints around them,
the column heads and the echo of a command, are not taken for value lines.
-/

set_option autoImplicit false

namespace RemoteDebugger

namespace Registers

theorem byteField?_hexByte (byte : UInt8) : byteField? (Text.hexByte byte) = some byte := by
  rw [byteField?, if_pos (Nat.le_of_eq (Text.length_hexByte byte)), Text.readHex8_hexByte]
  rfl

theorem wordField?_hexWord (word : UInt16) : wordField? (Text.hexWord word) = some word := by
  rw [wordField?, if_pos (Nat.le_of_eq (Text.length_hexWord word)), Text.readHex16_hexWord]
  rfl

private def columns (registers : Registers) : List Text :=
  [Text.hexWord registers.pc, Text.hexByte registers.a, Text.hexByte registers.x,
    Text.hexByte registers.y, Text.hexByte registers.z, Text.hexByte registers.b,
    Text.hexWord registers.sp, Text.hexWord registers.maph, Text.hexWord registers.mapl,
    Text.hexByte registers.lastOp, Text.hexByte registers.reserved.1,
    Text.hexByte registers.reserved.2]

private theorem words_line (registers : Registers) :
    Text.words registers.line = registers.columns ++ Text.words registers.flags := by
  have whole : registers.line = Text.joined " " (registers.columns ++ [registers.flags]) := rfl
  rw [whole]
  apply Text.words_joined_append
  intro column member
  have printed : ∃ width n, column = Text.hex width n := by
    simp only [columns, List.mem_cons, List.not_mem_nil, or_false] at member
    rcases member with rfl | rfl | rfl | rfl | rfl | rfl | rfl | rfl | rfl | rfl | rfl | rfl <;>
      exact ⟨_, _, rfl⟩
  obtain ⟨width, n, rfl⟩ := printed
  exact ⟨Text.hex_ne_nil _ _, Text.solid_hex _ _⟩

theorem ofLine?_line (registers : Registers) :
    ofLine? registers.line =
      (Text.words registers.flags).head?.map fun flags => { registers with flags } := by
  rw [ofLine?, words_line]
  cases Text.words registers.flags with
  | nil => rfl
  | cons flags others =>
    simp [columns, ofFields?, wordField?_hexWord, byteField?_hexByte]

theorem ofLine?_header : ofLine? header = none := by decide +kernel

end Registers

namespace Window

theorem ofLine?_line (window : Window) : ofLine? window.line = some window :=
  ofLine?_of_layout (layout_line window)

theorem ofLine?_of_solid {c : Char} {rest : Text} (solid : Text.Solid (c :: rest))
    (other : c ≠ ':') : ofLine? (c :: rest) = none := by
  rw [ofLine?, Text.trim_of_solid solid]
  split
  · rename_i same
    exact absurd (List.cons.inj same).1 other
  · rfl

end Window

end RemoteDebugger
