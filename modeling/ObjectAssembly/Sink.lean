import ObjectAssembly.Error

/-!
# Sink — writing a text to an output that answers as it likes

An output answers each write: it takes some of the offered bytes, asks to be tried again, refuses
to take more, or fails.  `Sink.writeAll` offers what is left until everything is taken, and gives up
on a failure, a refusal or when nothing is taken.  `Sink.print` flushes after the last byte.
-/

namespace ObjectAssembly

/-- The bytes of a text in UTF-8. -/
def utf8 (s : String) : List UInt8 := s.toList.flatMap String.utf8EncodeChar

/-- An output's answer to a write.  One that takes nothing has accepted an empty write, one that
refuses has accepted none. -/
inductive WriteReply
  | take (atMost : Nat)
  | interrupted
  | refuse
  | fail (message : String)
  deriving DecidableEq, Repr

/-- An output: its answers to the first writes, how many bytes each later write takes at most, and
how its flush fails if it does. -/
structure Sink where
  replies : List WriteReply
  chunk : Nat
  flushFailure : Option String
  deriving DecidableEq, Repr

/-- What an output has received: the bytes of each accepted write, and the number of flushes. -/
structure Received where
  writes : List (List UInt8)
  flushes : Nat
  deriving DecidableEq, Repr

namespace Received

def nothing : Received := ⟨[], 0⟩

/-- The accepted bytes. -/
def bytes (r : Received) : List UInt8 := r.writes.flatten

end Received

/-- Writes to an output that takes at most `chunk` bytes at a time. -/
def writeChunks (chunk : Nat) (bytes : List UInt8) : List (List UInt8) × Except IoError Unit :=
  if bytes = [] then ([], .ok ())
  else if chunk = 0 then ([[]], .error .stalled)
  else
    let (writes, outcome) := writeChunks chunk (bytes.drop chunk)
    (bytes.take chunk :: writes, outcome)
termination_by bytes.length
decreasing_by
  have := List.length_pos_iff.2 ‹¬bytes = []›
  simp only [List.length_drop]
  omega

/-- Writes to an output whose next answers are given. -/
def writeBytes (chunk : Nat) :
    List WriteReply → List UInt8 → List (List UInt8) × Except IoError Unit
  | _, [] => ([], .ok ())
  | [], bytes => writeChunks chunk bytes
  | .interrupted :: replies, bytes => writeBytes chunk replies bytes
  | .refuse :: _, _ => ([], .error .stalled)
  | .fail message :: _, _ => ([], .error (.failed message))
  | .take atMost :: replies, bytes =>
    if atMost = 0 then ([[]], .error .stalled)
    else
      let (writes, outcome) := writeBytes chunk replies (bytes.drop atMost)
      (bytes.take atMost :: writes, outcome)

namespace Sink

variable (s : Sink)

/-- Offers bytes until all are taken. -/
def writeAll (bytes : List UInt8) : List (List UInt8) × Except IoError Unit :=
  writeBytes s.chunk s.replies bytes

/-- Writes a text, and flushes once all of it is written. -/
def print (text : String) : Received × Except ConfigurationError Unit :=
  match s.writeAll (utf8 text) with
  | (writes, .error e) => (⟨writes, 0⟩, .error (.io e))
  | (writes, .ok ()) =>
    match s.flushFailure with
    | none => (⟨writes, 1⟩, .ok ())
    | some message => (⟨writes, 1⟩, .error (.io (.failed message)))

end Sink

end ObjectAssembly
