import RemoteDebugger.Instruction.Opcode
import RemoteDebugger.Proofs.Text.Words

/-!
What the opcode table guarantees. An opcode and its pair of mnemonic and mode determine each other;
every mnemonic is a word in its own canonical spelling; and two modes that are written alike have no
mnemonic in common, unless one of them is the short form of the other.
-/

set_option autoImplicit false

namespace RemoteDebugger.Opcode

/-- A number for a text, one digit for a character. Equal texts have equal numbers, and the kernel
compares numbers at once. -/
private def textKey (text : Text) : Nat := text.foldl (fun key c => key * 128 + c.toNat) 0

private def key (opcode : Opcode) : Nat := textKey opcode.mnemonic * 32 + opcode.mode.ctorIdx

private def distinct : List Nat → Bool
  | [] => true
  | n :: others => others.all (fun other => !Nat.beq other n) && distinct others

private theorem nodup_of_distinct {numbers : List Nat} (checked : distinct numbers = true) :
    numbers.Nodup := by
  induction numbers with
  | nil => exact List.nodup_nil
  | cons n others ih =>
    rw [distinct, Bool.and_eq_true, List.all_eq_true] at checked
    obtain ⟨fresh, later⟩ := checked
    refine List.nodup_cons.mpr ⟨?_, ih later⟩
    intro member
    simpa using fresh n member

private theorem nodup_rows : rows.Nodup := by
  have keys : (rows.map key).Nodup := nodup_of_distinct (by decide +kernel)
  rw [List.Nodup, List.pairwise_map] at keys
  refine keys.imp ?_
  intro first second apart same
  exact apart (congrArg key same)

private theorem get_toArray {items : List Opcode} {size : Nat} (length : items.length = size)
    (index : Fin size) :
    Vector.get ⟨items.toArray, length⟩ index = items.get ⟨index.val, length ▸ index.isLt⟩ := by
  simp [Vector.get]

private theorem toNat_lt_length (byte : UInt8) : byte.toNat < rows.length :=
  length_rows ▸ byte.toNat_lt

theorem ofByte_eq_get (byte : UInt8) : ofByte byte = rows.get ⟨byte.toNat, toNat_lt_length byte⟩ :=
  get_toArray length_rows byte.toFin

theorem ofByte_mem_rows (byte : UInt8) : ofByte byte ∈ rows := by
  rw [ofByte_eq_get]
  exact List.get_mem _ _

private theorem matches_iff {opcode : Opcode} {mnemonic : Text} {mode : Mode} :
    (opcode.mnemonic == mnemonic && opcode.mode == mode) = true ↔ opcode = ⟨mnemonic, mode⟩ := by
  cases opcode
  simp

theorem byte?_eq_some_iff {mnemonic : Text} {mode : Mode} {byte : UInt8} :
    byte? mnemonic mode = some byte ↔ ofByte byte = ⟨mnemonic, mode⟩ := by
  rw [ofByte_eq_get, List.get_eq_getElem]
  constructor
  · intro found
    obtain ⟨index, first, rfl⟩ := Option.map_eq_some_iff.mp found
    obtain ⟨bound, hit, -⟩ := List.findIdx?_eq_some_iff_getElem.mp first
    have small : index < 256 := length_rows ▸ bound
    have same : (UInt8.ofNat index).toNat = index := by
      rw [UInt8.toNat_ofNat', Nat.mod_eq_of_lt small]
    simp only [same]
    exact matches_iff.mp hit
  · intro entry
    refine Option.map_eq_some_iff.mpr ⟨byte.toNat, ?_, UInt8.ofNat_toNat⟩
    rw [List.findIdx?_eq_some_iff_getElem]
    refine ⟨toNat_lt_length byte, matches_iff.mpr entry, ?_⟩
    intro earlier before hit
    have bound := toNat_lt_length byte
    have same : rows[earlier] = rows[byte.toNat] := (matches_iff.mp hit).trans entry.symm
    have := (List.getElem_inj nodup_rows).mp same
    omega

theorem byte?_ofByte (byte : UInt8) : byte? (ofByte byte).mnemonic (ofByte byte).mode = some byte :=
  byte?_eq_some_iff.mpr rfl

/-- A spelling that reading a line leaves alone: a word in upper case that is no alias. -/
private def plain (mnemonic : Text) : Bool :=
  !mnemonic.isEmpty && mnemonic.all (fun c => !Text.isBlank c && c.toUpper == c) &&
    mnemonic != "NOP".toList

private theorem plain_rows : rows.all (fun opcode => plain opcode.mnemonic) = true := by
  decide +kernel

private theorem plain_mnemonic (byte : UInt8) : plain (ofByte byte).mnemonic = true :=
  List.all_eq_true.mp plain_rows _ (ofByte_mem_rows byte)

theorem mnemonic_ne_nil (byte : UInt8) : (ofByte byte).mnemonic ≠ [] := by
  have checked := plain_mnemonic byte
  simp only [plain, Bool.and_eq_true, Bool.not_eq_true', List.isEmpty_eq_false_iff] at checked
  exact checked.1.1

theorem mnemonic_solid (byte : UInt8) : Text.Solid (ofByte byte).mnemonic := by
  have checked := plain_mnemonic byte
  simp only [plain, Bool.and_eq_true, List.all_eq_true, Bool.not_eq_true'] at checked
  exact fun c member => (checked.1.2 c member).1

theorem canonical_mnemonic (byte : UInt8) :
    canonical (ofByte byte).mnemonic = (ofByte byte).mnemonic := by
  have checked := plain_mnemonic byte
  simp only [plain, Bool.and_eq_true, List.all_eq_true, beq_iff_eq, bne_iff_ne] at checked
  obtain ⟨⟨-, letters⟩, other⟩ := checked
  have upper : Text.upper (ofByte byte).mnemonic = (ofByte byte).mnemonic := by
    rw [Text.upper, List.map_congr_left fun c member => (letters c member).2, List.map_id']
  simp only [canonical]
  rw [Text.trim_of_solid (mnemonic_solid byte), upper, if_neg other]

theorem isMnemonic_mnemonic (byte : UInt8) : isMnemonic (ofByte byte).mnemonic = true := by
  rw [isMnemonic, canonical_mnemonic, List.any_eq_true]
  exact ⟨ofByte byte, ofByte_mem_rows byte, beq_self_eq_true _⟩

private theorem calls_rows :
    rows.all (fun opcode => opcode.mnemonic != "JSR".toList || opcode.mode.size == 3) = true := by
  decide +kernel

theorem size_of_call {byte : UInt8} (call : (ofByte byte).mnemonic = "JSR".toList) :
    (ofByte byte).mode.size = 3 := by
  have checked := List.all_eq_true.mp calls_rows _ (ofByte_mem_rows byte)
  simpa [call] using checked

private def apart (first second : Mode → Bool) : Bool :=
  (rows.filter fun opcode => first opcode.mode).all fun one =>
    (rows.filter fun opcode => second opcode.mode).all fun other =>
      !Nat.beq (textKey one.mnemonic) (textKey other.mnemonic)

private theorem not_both (first second : Mode → Bool) (checked : apart first second = true)
    {one other : UInt8} (firstMode : first (ofByte one).mode = true)
    (secondMode : second (ofByte other).mode = true) :
    (ofByte one).mnemonic ≠ (ofByte other).mnemonic := by
  intro same
  rw [apart, List.all_eq_true] at checked
  have each := checked (ofByte one) (List.mem_filter.mpr ⟨ofByte_mem_rows one, firstMode⟩)
  rw [List.all_eq_true] at each
  have keys := each (ofByte other) (List.mem_filter.mpr ⟨ofByte_mem_rows other, secondMode⟩)
  rw [same] at keys
  simp at keys

private def branches (mode : Mode) : Bool := mode == .relative || mode == .relativeWord

private def isData (mode : Mode) : Bool := mode == .zeroPage || mode == .absolute

private theorem apart_rows :
    apart branches isData = true ∧ apart (· == .implicit) (· == .accumulator) = true ∧
      apart (· == .immediate) (· == .immediateWord) = true ∧
      apart (· == .indirectX) (· == .indirectAbsoluteX) = true := by
  decide +kernel

theorem branch_apart {one other : UInt8}
    (branch : (ofByte one).mode = .relative ∨ (ofByte one).mode = .relativeWord)
    (data : (ofByte other).mode = .zeroPage ∨ (ofByte other).mode = .absolute) :
    (ofByte one).mnemonic ≠ (ofByte other).mnemonic := by
  refine not_both branches isData apart_rows.1 ?_ ?_
  · simpa [branches] using branch
  · simpa [isData] using data

theorem accumulator_apart {one other : UInt8} (first : (ofByte one).mode = .implicit)
    (second : (ofByte other).mode = .accumulator) :
    (ofByte one).mnemonic ≠ (ofByte other).mnemonic :=
  not_both (· == .implicit) (· == .accumulator) apart_rows.2.1
    (by simpa using first) (by simpa using second)

theorem immediate_apart {one other : UInt8} (first : (ofByte one).mode = .immediate)
    (second : (ofByte other).mode = .immediateWord) :
    (ofByte one).mnemonic ≠ (ofByte other).mnemonic :=
  not_both (· == .immediate) (· == .immediateWord) apart_rows.2.2.1
    (by simpa using first) (by simpa using second)

theorem pointer_apart {one other : UInt8} (first : (ofByte one).mode = .indirectX)
    (second : (ofByte other).mode = .indirectAbsoluteX) :
    (ofByte one).mnemonic ≠ (ofByte other).mnemonic :=
  not_both (· == .indirectX) (· == .indirectAbsoluteX) apart_rows.2.2.2
    (by simpa using first) (by simpa using second)

end RemoteDebugger.Opcode
