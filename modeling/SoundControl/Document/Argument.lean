import SoundControl.Display
import SoundControl.Failure

/-! # Argument text

An argument written as `tag:value`, where the tag is one letter: `i:`, `f:`, `s:` or `b:`, and an
empty slot is written `?`. -/

namespace SoundControl

namespace Argument

/-- The text of an argument slot. -/
def formatText : Option Argument → Bytes
  | some (.int32 v) => Utf8.ofString ("i:" ++ toString v.toInt)
  | some (.float32 bits) => Utf8.ofString ("f:" ++ singleText bits)
  | some (.string s) => Utf8.ofString "s:" ++ s
  | some (.blob data) => Utf8.ofString ("b:" ++ Hex.encode data.toList)
  | none => Utf8.ofString "?"

/-- Reads an argument from its text. -/
def parseText (s : Bytes) : Except Failure Argument :=
  let context := "argument " ++ Quoted.quote s ++ ": "
  match s with
  | tag :: 0x3A :: value =>
    if tag = 0x3A then .error (Failure.plain (context ++ "want <tag>:<value>"))
    else if tag = 0x69 then
      match Literal.integer 32 value with
      | .ok n => .ok (.int32 (Int32.ofInt n))
      | .error e => .error ((Failure.ofNumError e).wrap context)
    else if tag = 0x66 then
      match Literal.float BinaryFormat.single value with
      | .ok bits => .ok (.float32 bits.toUInt32)
      | .error e => .error ((Failure.ofNumError e).wrap context)
    else if tag = 0x73 then .ok (.string value)
    else if tag = 0x62 then
      match Hex.decode value with
      | .ok data => .ok (.blob (.ofList data))
      | .error e => .error ((Failure.ofHexError e).wrap context)
    else .error ⟨.codec .unsupportedType, context ++ "unsupported type", none⟩
  | _ => .error (Failure.plain (context ++ "want <tag>:<value>"))

end Argument

end SoundControl
