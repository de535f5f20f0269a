import SoundControl.Codec
import SoundControl.Number.Format
import SoundControl.Failure

/-! # Packet text

The text view of packets: a message is one line with its address, type tags and arguments, and a
packet tree is one line per node, indented two spaces per level. Lines are bytes, since addresses
need not be valid UTF-8. -/

namespace SoundControl

/-- The text of an argument in a message line. -/
def Argument.text : Argument → String
  | .int32 v => toString v.toInt
  | .float32 bits => singleText bits
  | .string s => Quoted.quote s
  | .blob data => "blob[" ++ toString data.toList.length ++ "]"

/-- The line of a message. -/
def Message.line (m : Message) : Bytes :=
  match m.typeTags with
  | .error _ => m.address ++ Utf8.ofString " <invalid>"
  | .ok tags =>
    m.address ++ Utf8.ofString (" " ++ tags ++
      String.join (m.args.map fun a => match a with
        | some a => " " ++ a.text
        | none => ""))

/-- The line of a message reference; one that points nowhere has an empty line. -/
def Message.refLine : Option Message → Bytes
  | some m => m.line
  | none => []

/-- Two spaces per level. -/
def indentation (level : Nat) : Bytes := List.replicate (2 * level) 0x20

/-- A time tag as `0x` and sixteen lowercase hex digits. -/
def Timetag.hexText (t : Timetag) : String :=
  "0x" ++ String.ofList (Quoted.hexDigits 16 t.bits.toNat)

mutual

/-- The lines of a packet tree whose root is at nesting level `level`. -/
def Packet.textAt (level : Nat) : Packet → Except Failure Bytes
  | .message m => .ok (indentation level ++ m.line ++ [0x0A])
  | .nullMessage => .ok (indentation level ++ [0x0A])
  | .bundle t els =>
    (Packet.textAll (level + 1) els).map fun rest =>
      indentation level ++
        Utf8.ofString ("#bundle " ++ t.hexText ++ " (" ++ toString els.length ++ " elements)\n") ++
        rest
  | .absent => .ok (indentation level)
  | .nullBundle => .error Failure.nilDereference

/-- The lines of a list of packet trees at nesting level `level`, the first fault ending them. -/
def Packet.textAll (level : Nat) : List Packet → Except Failure Bytes
  | [] => .ok []
  | p :: rest =>
    match Packet.textAt level p with
    | .error f => .error f
    | .ok first => (Packet.textAll level rest).map (first ++ ·)

end

/-- The text of a packet tree. -/
def Packet.text (p : Packet) : Except Failure Bytes := p.textAt 0

end SoundControl
