/-! # Errors

Every failure of the codec, the stream framing and the field binding is one `Error`: the kind of
fault, the operation it arose in, a detail text, and where it happened. -/

namespace SoundControl

/-- The kinds of failure. -/
inductive Fault where
  | unexpectedEnd
  | malformedPadding
  | invalidTypeTags
  | unsupportedType
  | invalidBundleMarker
  | depthExceeded
  | arityMismatch
  | fieldTypeMismatch
  | trailingData
  | invalidString
  | tooLarge
  deriving DecidableEq, Repr

/-- The text of a fault. -/
def Fault.text : Fault → String
  | .unexpectedEnd => "unexpected end of data"
  | .malformedPadding => "malformed padding"
  | .invalidTypeTags => "invalid type tag string"
  | .unsupportedType => "unsupported type"
  | .invalidBundleMarker => "invalid bundle marker"
  | .depthExceeded => "maximum bundle depth exceeded"
  | .arityMismatch => "field count mismatch"
  | .fieldTypeMismatch => "field type mismatch"
  | .trailingData => "trailing data after message"
  | .invalidString => "invalid string"
  | .tooLarge => "value too large"

/-- The operation during which a failure arose. -/
inductive Stage where
  | decode
  | encode
  | append
  | read
  | scan
  | marshal
  | unmarshal
  deriving DecidableEq, Repr

/-- The name of an operation, as the message shows it. -/
def Stage.name : Stage → String
  | .decode => "decode"
  | .encode => "encode"
  | .append => "append"
  | .read => "read"
  | .scan => "scan"
  | .marshal => "marshal"
  | .unmarshal => "unmarshal"

/-- A failure and where it happened. -/
structure Error where
  stage : Stage
  fault : Fault
  detail : String
  /-- The absolute byte offset in the outermost buffer. -/
  offset : Option Nat := none
  /-- The element index at each bundle level, outermost first. -/
  path : List Nat := []
  /-- The index of the argument concerned. -/
  argument : Option Nat := none
  deriving DecidableEq, Repr

namespace Error

/-- The nesting depth at which the failure happened. -/
def depth (e : Error) : Nat := e.path.length

/-- Marks the failure as one inside element `i` of the enclosing bundle. -/
def inElement (i : Nat) (e : Error) : Error := { e with path := i :: e.path }

/-- Marks the failure as one of argument `i`, unless it already names an argument. -/
def atArgument (i : Nat) (e : Error) : Error :=
  match e.argument with
  | some _ => e
  | none => { e with argument := some i }

/-- The message of a failure. -/
def message (e : Error) : String :=
  let detail := if e.detail.isEmpty then "" else " (" ++ e.detail ++ ")"
  let offset := match e.offset with
    | some n => " at offset " ++ toString n
    | none => ""
  let path := match e.path with
    | [] => ""
    | p => " in element " ++ "/".intercalate (p.map toString)
  let argument := match e.argument with
    | some k => " argument " ++ toString k
    | none => ""
  "osc: " ++ e.stage.name ++ ": " ++ e.fault.text ++ detail ++ offset ++ path ++ argument

end Error

end SoundControl
