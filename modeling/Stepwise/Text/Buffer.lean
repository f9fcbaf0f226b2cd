import Stepwise.Text.Utf8

/-!
# Text buffers

A buffer collects a text from chunks of bytes. Each chunk is a text by itself or is
refused as a whole.
-/

namespace Stepwise.Text

/-- The text that was collected. -/
structure Buffer where
  content : String := ""
deriving DecidableEq, Repr

inductive WriteFault
  /-- The bytes of the chunk are no text. -/
  | invalidData (cause : Utf8Fault)
deriving DecidableEq, Repr

def WriteFault.message : WriteFault → String
  | invalidData cause => cause.message

namespace Buffer

def append (buffer : Buffer) (text : String) : Buffer :=
  ⟨buffer.content ++ text⟩

def appendLine (buffer : Buffer) (line : String) : Buffer :=
  (buffer.append line).append "\n"

/-- Appends a chunk of bytes and tells how many there were. A chunk that is no text
leaves the buffer as it is. -/
def write (buffer : Buffer) (chunk : List UInt8) : Buffer × Except WriteFault Nat :=
  match decode chunk with
  | .ok text => (buffer.append (String.ofList text), .ok chunk.length)
  | .error cause => (buffer, .error (.invalidData cause))

end Buffer

end Stepwise.Text
