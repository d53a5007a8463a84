import CodeIndex.Failure
import CodeIndex.Json.Printer

/-!
# Lines of JSON

Results are handed on as lines, each holding the JSON text of one value. The lines go to a
device through a buffer of 8 KiB: a piece of text that fits is kept, a piece that does not fit
first empties the buffer, and a piece as large as the whole buffer goes straight to the device.

A device may refuse every text (`Device.refusing`). What is refused stays in the buffer, and so
do the pieces of a value that was written in part. A value that could not be written as a whole
is an error of serialization, a line end or a flush that failed an error of input and output.
-/

namespace CodeIndex

/-- How a device refuses: every text, for a cause, and perhaps to be flushed as well. -/
structure Refusal where
  cause : IoCause
  flushFails : Bool
deriving DecidableEq, Repr

namespace Refusal

/-- A closed device refuses everything. -/
def refused : Refusal := ⟨.refused, true⟩

/-- A device without space refuses every text. It holds none back that a flush could fail on. -/
def full : Refusal := ⟨.noSpace, false⟩

end Refusal

/-- Where lines end up: all that was written, or nothing ever. -/
inductive Device where
  | memory (written : String)
  | refusing (refusal : Refusal)
deriving DecidableEq, Repr

namespace Device

/-- What is on a device. -/
def text : Device → String
  | .memory written => written
  | .refusing _ => ""

/-- Writes a text. -/
def write : Device → String → Except IoCause Device
  | .memory written, text => .ok (.memory (written ++ text))
  | .refusing refusal, _ => .error refusal.cause

/-- Makes sure that everything written has arrived. -/
def flush : Device → Except IoCause Unit
  | .memory _ => .ok ()
  | .refusing refusal => if refusal.flushFails then .error refusal.cause else .ok ()

end Device

/-- Lines on their way to a device. The count is that of the lines written without an error. -/
structure JsonLines where
  device : Device
  buffer : String := ""
  count : Nat := 0
deriving DecidableEq, Repr

namespace JsonLines

/-- The size of the buffer in bytes. -/
def capacity : Nat := 8192

/-- How many bytes still fit into the buffer. -/
def spare (sink : JsonLines) : Nat := capacity - sink.buffer.utf8ByteSize

/-- The sink with a piece of text in its buffer. -/
def keep (sink : JsonLines) (piece : String) : JsonLines :=
  { sink with buffer := sink.buffer ++ piece }

/-- Empties the buffer. -/
def drain (sink : JsonLines) : Except IoCause JsonLines :=
  if sink.buffer.utf8ByteSize = 0 then .ok sink
  else (sink.device.write sink.buffer).map fun device =>
    { sink with device := device, buffer := "" }

/-- Writes one piece of text. If that is refused, the sink is as before. -/
def put (sink : JsonLines) (piece : String) : Except IoCause JsonLines :=
  if piece.utf8ByteSize < sink.spare then .ok (sink.keep piece)
  else do
    let sink ← if sink.spare < piece.utf8ByteSize then sink.drain else .ok sink
    if capacity ≤ piece.utf8ByteSize then
      (sink.device.write piece).map fun device => { sink with device := device }
    else .ok (sink.keep piece)

/-- Writes pieces of text up to the first one that is refused. -/
def putAll (sink : JsonLines) : List String → JsonLines × Except IoCause Unit
  | [] => (sink, .ok ())
  | piece :: rest =>
    match sink.put piece with
    | .ok next => next.putAll rest
    | .error cause => (sink, .error cause)

/-- Writes a value as one line. -/
def write (sink : JsonLines) (value : Json) : JsonLines × Except Error Unit :=
  match sink.putAll value.pieces with
  | (next, .error cause) => (next, .error (.serialization cause))
  | (next, .ok ()) =>
    match next.put "\n" with
    | .error cause => (next, .error (.io cause))
    | .ok last => ({ last with count := last.count + 1 }, .ok ())

/-- Hands everything on to the device. -/
def flush (sink : JsonLines) : JsonLines × Except Error Unit :=
  match sink.drain with
  | .error cause => (sink, .error (.io cause))
  | .ok next =>
    match next.device.flush with
    | .error cause => (next, .error (.io cause))
    | .ok () => (next, .ok ())

/-- Hands everything on and gives the device back. -/
def finish (sink : JsonLines) : Except Error Device :=
  match sink.drain with
  | .error cause => .error (.io cause)
  | .ok next => .ok next.device

end JsonLines

end CodeIndex
