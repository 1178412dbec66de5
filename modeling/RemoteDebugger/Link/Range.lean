import RemoteDebugger.Link.Basic

/-!
Ranges of memory over the link. Reads go by blocks of 256 bytes while they fit and then by windows
of sixteen; writes go by eight bytes. Searching and copying read their whole source first.
-/

set_option autoImplicit false

namespace RemoteDebugger.Link

def writeLimit : Nat := 8

def readBlocks (link : Link) (address : Address) (count : Nat) : Exchange (List UInt8) := do
  let blocks ← (List.range count).mapM fun index =>
    link.readBulk (address.offset (UInt32.ofNat (256 * index)))
  pure (blocks.flatten.flatMap fun window => window.bytes.toList)

def readWindows (link : Link) (address : Address) (start count : Nat) : Exchange (List UInt8) := do
  let windows ← (List.range count).mapM fun index =>
    link.readWindow (address.offset (UInt32.ofNat (start + 16 * index)))
  pure (windows.flatMap fun window => window.bytes.toList)

def readRange (link : Link) (address : Address) (length : Nat) : Exchange (List UInt8) := do
  let blocks := length / 256
  let whole ← link.readBlocks address blocks
  let tail ← link.readWindows address (256 * blocks) ((length % 256 + 15) / 16)
  pure ((whole ++ tail).take length)

/-- Writes pieces of a range, the first one at a distance from the address. -/
def writePieces (link : Link) (address : Address) : Nat → List (List UInt8) → Exchange Unit
  | _, [] => pure ()
  | start, piece :: others => do
    link.tell (.write (address.offset (UInt32.ofNat start)).physical piece)
    writePieces link address (start + writeLimit) others

def writeRange (link : Link) (address : Address) (bytes : List UInt8) : Exchange Unit :=
  link.writePieces address 0 (pieces writeLimit bytes)

/-- Writes bytes by one command if they fit, and no bytes by none. -/
def writeMemory (link : Link) (address : Address) (bytes : List UInt8) : Exchange Unit :=
  if writeLimit < bytes.length then link.writeRange address bytes
  else if bytes.isEmpty then pure ()
  else link.tell (.write address.physical bytes)

def peek (link : Link) (address : Address) : Exchange UInt8 := do
  let window ← link.readWindow address
  pure window.firstByte

def peekWord (link : Link) (address : Address) : Exchange UInt16 := do
  let window ← link.readWindow address
  pure window.firstWord

def peekDword (link : Link) (address : Address) : Exchange UInt32 := do
  let window ← link.readWindow address
  pure window.firstDword

/-- The distances at which a pattern occurs, overlaps included, counted from a start. -/
def occurrencesFrom (pattern : List UInt8) : Nat → List UInt8 → List Nat
  | _, [] => []
  | index, byte :: rest =>
    if pattern.isPrefixOf (byte :: rest) then index :: occurrencesFrom pattern (index + 1) rest
    else occurrencesFrom pattern (index + 1) rest

/-- The addresses at which a pattern occurs in a range. -/
def search (link : Link) (address : Address) (length : Nat) (pattern : List UInt8) :
    Exchange (List Address) :=
  if pattern.isEmpty || length < pattern.length then pure []
  else do
    let bytes ← link.readRange address length
    pure ((occurrencesFrom pattern 0 bytes).map fun index => address.offset (UInt32.ofNat index))

/-- Copies a range; the source is read before the first byte is written. -/
def copy (link : Link) (source destination : Address) (count : Nat) : Exchange Unit := do
  let bytes ← link.readRange source count
  link.writeRange destination bytes

end RemoteDebugger.Link
