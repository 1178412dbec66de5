import RemoteDebugger.Memory.Address
import RemoteDebugger.Monitor.Command
import RemoteDebugger.Proofs.Text.Words

/-!
Command lines read back. The monitor takes every line of the debugger for the command that it was
written for, up to the bits that a monitor address does not have.
-/

set_option autoImplicit false

namespace RemoteDebugger

theorem Address.physical_and_mask (address : Address) :
    address.physical &&& mask = address.physical := by
  have bound : address.physical.toNat ≤ 2 ^ 28 - 1 := address.physical_le_mask
  rw [← UInt32.toNat_inj, UInt32.toNat_and]
  show address.physical.toNat &&& (2 ^ 28 - 1) = _
  rw [Nat.and_two_pow_sub_one_eq_mod, Nat.mod_eq_of_lt (by omega)]

namespace Command

/-- The command with its address cut to the bits that a monitor address has. -/
def cut : Command → Command
  | readWindow physical => readWindow (physical &&& Address.mask)
  | readBulk physical => readBulk (physical &&& Address.mask)
  | write physical bytes => write (physical &&& Address.mask) bytes
  | command => command

theorem number?_hex (width : Nat) (number : UInt32) :
    number? (Text.hex width number.toNat) = some number := by
  rw [number?, Text.readHex32_hex]
  rfl

private theorem number?_hexByte (byte : UInt8) :
    number? (Text.hexByte byte) = some byte.toUInt32 := by
  rw [Text.hexByte, ← UInt8.toNat_toUInt32, number?_hex]

private theorem number?_hexWord (word : UInt16) :
    number? (Text.hexWord word) = some word.toUInt32 := by
  rw [Text.hexWord, ← UInt16.toNat_toUInt32, number?_hex]

private theorem mapM_number? (bytes : List UInt8) :
    (bytes.map Text.hexByte).mapM number? = some (bytes.map UInt8.toUInt32) := by
  induction bytes with
  | nil => rfl
  | cons byte bytes ih =>
    rw [List.map_cons, List.mapM_cons, number?_hexByte, ih]
    rfl

private theorem ofWriteFields?_hex (physical : UInt32) (bytes : List UInt8) :
    ofWriteFields? (Text.hex 7 physical.toNat :: bytes.map Text.hexByte) =
      some (write physical bytes) := by
  have narrowed : (bytes.map UInt8.toUInt32).map UInt32.toUInt8 = bytes := by
    rw [List.map_map]
    exact (List.map_congr_left fun byte _ => UInt8.toUInt8_toUInt32 byte).trans (List.map_id' bytes)
  simp only [ofWriteFields?, number?_hex, mapM_number?, Option.bind_eq_bind, Option.bind_some,
    narrowed]
  rfl

theorem ofLine?_line (command : Command) : ofLine? command.line = some command.cut := by
  cases command with
  | readRegisters => rfl
  | readWindow physical =>
    show (number? (Text.hex 7 _)).map readWindow = _
    rw [number?_hex]
    rfl
  | readBulk physical =>
    show (number? (Text.hex 4 _)).map readBulk = _
    rw [number?_hex]
    rfl
  | write physical bytes =>
    show ofWriteFields? (Text.words (Text.hex 7 _ ++ _)) = _
    rw [← List.flatMap_map Text.hexByte (' ' :: ·), Text.words_fields (Text.hex_ne_nil _ _)
      (Text.solid_hex _ _), ofWriteFields?_hex]
    · rfl
    · intro field member
      obtain ⟨byte, -, rfl⟩ := List.mem_map.mp member
      exact ⟨Text.hex_ne_nil _ _, Text.solid_hex _ _⟩
  | setBreakpoint address =>
    show (number? (Text.hexWord _)).map _ = _
    rw [number?_hexWord]
    simp [cut]
  | setPc address =>
    show (number? (Text.hexWord _)).map _ = _
    rw [number?_hexWord]
    simp [cut]
  | setRunning running => cases running <;> rfl
  | singleStep => rfl
  | stepOver => rfl

end Command

end RemoteDebugger
