import SoundControl.Editing
import SoundControl.Failure

/-! # Binding arguments to fields

A field list names the kind each argument must have and where its value goes. Binding checks the
counts, then each argument's kind in order, and only then stores each argument. -/

namespace SoundControl

/-- The kind of a field. -/
inductive FieldKind where
  | int32
  | float32
  | string
  | blob
  deriving DecidableEq, Repr

/-- The type tag letter of a field kind. -/
def FieldKind.tag : FieldKind → Char
  | .int32 => 'i'
  | .float32 => 'f'
  | .string => 's'
  | .blob => 'b'

/-- The name of the kind of an argument slot: its letter, or `invalid` for an empty slot. -/
def slotKindName : Option Argument → String
  | some a => String.singleton a.tag
  | none => "invalid"

/-- A binding failure. -/
def scanError (fault : Fault) (detail : String) : Error :=
  { stage := .scan, fault := fault, detail := detail }

/-- Checks the kinds of the slots against the fields, from index `i` on. -/
def checkKinds (i : Nat) : List (Option Argument) → List FieldKind → Except Error (List Argument)
  | some a :: args, f :: fs =>
    if a.tag = f.tag then (checkKinds (i + 1) args fs).map (a :: ·)
    else .error { scanError .fieldTypeMismatch
      ("want " ++ Quoted.quoteString (String.singleton f.tag) ++ ", got " ++
        Quoted.quoteString (String.singleton a.tag)) with argument := some i }
  | none :: _, f :: _ =>
    .error { scanError .fieldTypeMismatch
      ("want " ++ Quoted.quoteString (String.singleton f.tag) ++ ", got " ++
        Quoted.quoteString "invalid") with argument := some i }
  | _, _ => .ok []

/-- Binds argument slots to fields: the values, one per field, or the failure. -/
def scan (args : List (Option Argument)) (fields : List FieldKind) : Except Error (List Argument) :=
  if args.length ≠ fields.length then
    .error (scanError .arityMismatch
      (toString args.length ++ " arguments, " ++ toString fields.length ++ " fields"))
  else checkKinds 0 args fields

/-- A typed destination for one argument: the kind of argument it takes and the place in memory
that it stores the argument's value to. -/
structure Field (α : Type) where
  kind : FieldKind
  target : α

/-- The argument that a field of this kind takes from a slot: the slot's argument when it has
the field's type, and nothing for an empty slot or an argument of another type. -/
def FieldKind.take : FieldKind → Option Argument → Option Argument
  | .int32, some (.int32 v) => some (.int32 v)
  | .float32, some (.float32 bits) => some (.float32 bits)
  | .string, some (.string s) => some (.string s)
  | .blob, some (.blob d) => some (.blob d)
  | _, _ => none

section Memory

variable {α : Type} [DecidableEq α]

/-- Stores a slot's argument through a field when it has the field's type, and tells whether it
did. -/
def Field.set (f : Field α) (mem : α → Argument) (slot : Option Argument) :
    (α → Argument) × Bool :=
  match f.kind.take slot with
  | some a => (fun x => if x = f.target then a else mem x, true)
  | none => (mem, false)

/-- Stores each slot through the field at its index, in order. -/
def Field.setAll (mem : α → Argument) : List (Option Argument) → List (Field α) → α → Argument
  | a :: args, f :: fs => Field.setAll (f.set mem a).1 args fs
  | _, _ => mem

/-- Binds argument slots to fields in memory: the memory after the call, and the failure. The
counts and the kinds are checked first, and only then is each argument stored through its
field. -/
def scanInto (mem : α → Argument) (args : List (Option Argument)) (fields : List (Field α)) :
    (α → Argument) × Option Error :=
  match scan args (fields.map Field.kind) with
  | .error e => (mem, some e)
  | .ok _ => (Field.setAll mem args fields, none)

end Memory

namespace Message

/-- Builds a message with the address from the arguments that a source gives; `none` is a
missing source. -/
def marshal (address : Bytes) :
    Option (Except Failure (List (Option Argument))) → Except Failure Message
  | none => .error (Failure.ofError
      { stage := .marshal, fault := .unsupportedType, detail := "nil Marshaler" })
  | some (.error f) => .error f
  | some (.ok args) =>
    match (Message.append args).apply ⟨address, .nil⟩ with
    | (m, none) => .ok m
    | (_, some e) => .error (Failure.ofError e)

/-- Binds the arguments of a message to fields; `none` stands for a missing message or a missing
field list. -/
def unmarshal (m : Option Message) (fields : Option (List FieldKind)) :
    Except Error (List Argument) :=
  match m, fields with
  | none, _ => .error { stage := .unmarshal, fault := .unsupportedType, detail := "nil *Message" }
  | _, none => .error { stage := .unmarshal, fault := .unsupportedType, detail := "nil Unmarshaler" }
  | some m, some fs => scan m.args fs

end Message

end SoundControl
