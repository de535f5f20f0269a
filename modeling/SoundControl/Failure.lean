import SoundControl.Error
import SoundControl.Number.Literal
import SoundControl.Text.Hex

/-! # Failures

A failure of any operation above the codec: its message and what it comes down to, kept through
any number of wrappings. A runtime fault ends the whole operation, and no wrapping touches it. -/

namespace SoundControl

/-- What a failure comes down to. -/
inductive Cause where
  | codec (fault : Fault)
  | invalidNode
  | endOfStream
  | numberMalformed
  | numberOutOfRange
  | hexLength
  | hexByte
  /-- A runtime fault that stops the whole program, such as hashing a value that has no hash. -/
  | fault
  | other
  deriving DecidableEq, Repr

/-- A failure and what it comes down to. -/
structure Failure where
  cause : Cause
  message : String
  /-- The codec error itself, when the failure is one passed on unwrapped. -/
  error? : Option Error := none
  deriving Repr

namespace Failure

/-- A failure with no cause of its own. -/
def plain (message : String) : Failure := ⟨.other, message, none⟩

/-- A runtime fault. -/
def ofFault (message : String) : Failure := ⟨.fault, message, none⟩

/-- The runtime fault of reading a field through a reference that points nowhere. -/
def nilDereference : Failure :=
  ofFault "runtime error: invalid memory address or nil pointer dereference"

/-- A codec error passed on unwrapped. -/
def ofError (e : Error) : Failure := ⟨.codec e.fault, e.message, some e⟩

/-- A failed number reading. -/
def ofNumError (e : NumError) : Failure :=
  ⟨match e.kind with
    | .malformed => .numberMalformed
    | .outOfRange => .numberOutOfRange, e.message, none⟩

/-- A failed hex reading. -/
def ofHexError (e : Hex.Error) : Failure :=
  ⟨match e with
    | .oddLength => .hexLength
    | .invalidByte _ => .hexByte, e.message, none⟩

/-- The failure wrapped with a prefix to its message; a runtime fault passes unchanged. -/
def wrap (pre : String) (f : Failure) : Failure :=
  if f.cause = .fault then f else ⟨f.cause, pre ++ f.message, none⟩

end Failure

end SoundControl
