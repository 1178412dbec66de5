import RemoteDebugger.Text.Utf8
import RemoteDebugger.Transport.Basic

/-!
A transport over two byte streams, as a serial device gives them. Bytes arrive in deliveries whose
borders mean nothing; a line ends at a newline or where the stream ends. A device that gives up
waiting drops what had arrived of the unfinished line, and a line that is no text is consumed and
reported.
-/

set_option autoImplicit false

namespace RemoteDebugger

/-- What a failed read means for the line that is being read. -/
inductive Disturbance where
  /-- The read is tried again. -/
  | passing
  /-- The device gave up waiting: there is no line for now. -/
  | quiet
  /-- The device failed. -/
  | broken
  deriving DecidableEq, Repr

inductive Delivery where
  | bytes (chunk : List UInt8)
  | fault (kind : Disturbance) (fault : Fault)
  deriving DecidableEq, Repr

/-- Both ends of a device: what will arrive, what was written, how many more bytes it takes, and
what it says when it takes no more. -/
structure Stream where
  incoming : List Delivery
  written : List UInt8 := []
  room : Option Nat := none
  refusal : Fault := ⟨"failed to write whole buffer"⟩
  deriving DecidableEq, Repr

namespace Stream

def newline : UInt8 := 10

def carriageReturn : UInt8 := 13

def write (stream : Stream) (bytes : List UInt8) : Except Fault Unit × Stream :=
  match stream.room with
  | none => (.ok (), { stream with written := stream.written ++ bytes })
  | some room =>
    let next := { stream with
      written := stream.written ++ bytes.take room
      room := some (room - bytes.length) }
    (if bytes.length ≤ room then .ok () else .error stream.refusal, next)

def cutLine? : List UInt8 → Option (List UInt8 × List UInt8)
  | [] => none
  | byte :: rest =>
    if byte = newline then some ([byte], rest)
    else (cutLine? rest).map fun (line, after) => (byte :: line, after)

/-- What the reading of one line comes to: all its bytes, or the fault that cut it short. -/
inductive Ending where
  | line (bytes : List UInt8)
  | fault (kind : Disturbance) (fault : Fault)
  deriving DecidableEq, Repr

/-- Collects the bytes of a line from deliveries, after those already seen. -/
def collect : List UInt8 → List Delivery → Ending × List Delivery
  | seen, [] => (.line seen, [])
  | seen, .bytes chunk :: others =>
    match cutLine? chunk with
    | some (line, after) => (.line (seen ++ line), .bytes after :: others)
    | none => collect (seen ++ chunk) others
  | seen, .fault .passing _ :: others => collect seen others
  | _, .fault kind fault :: others => (.fault kind fault, others)

def isLineEnd (c : Char) : Bool := c == '\r' || c == '\n'

/-- Removes all carriage returns and newlines from the end. -/
def trimLineEnd (text : Text) : Text := (text.reverse.dropWhile isLineEnd).reverse

/-- What a finished line says. No bytes at all are the end of the stream. -/
def lineText (bytes : List UInt8) : Except Fault (Option Text) :=
  if bytes.isEmpty then .ok none
  else
    match Text.ofUtf8? bytes with
    | some text => .ok (some (trimLineEnd text))
    | none => .error .notText

def receive (stream : Stream) : Except Fault (Option Text) × Stream :=
  let (ending, incoming) := collect [] stream.incoming
  let answer := match ending with
    | .line bytes => lineText bytes
    | .fault .broken fault => .error fault
    | .fault _ _ => .ok none
  (answer, { stream with incoming })

instance : Transport Stream where
  send stream line := stream.write (line.toUtf8 ++ [newline])
  receive := receive
  interrupted stream := (false, stream)

def arriving (stream : Stream) : Nat :=
  stream.incoming.foldr (fun delivery count =>
    match delivery with
    | .bytes chunk => count + chunk.length + 1
    | .fault _ _ => count + 1) 0

/-- More rounds than any waiting loop goes over a stream: each round uses up a byte. -/
def rounds (stream : Stream) : Nat := stream.arriving + 2

end Stream

end RemoteDebugger
