import SoundControl.Document.Json
import SoundControl.Document.Cbor
import SoundControl.Document.Yaml

/-! # Document formats

Reading and writing a node in a named format. JSON, YAML and CBOR can be read and written; the
text format only written, as the text of the packet that the node describes. A read failure of a
format's own is reported as `parse <format> document: ...`. -/

namespace SoundControl

namespace Node

/-- Reads a node from a document in the named format. -/
def readDocument (format : String) (data : Bytes) : Except Failure Node :=
  match format with
  | "json" => Node.ofJsonText data
  | "yaml" => Node.ofYamlText data
  | "cbor" => Node.ofCborBytes data
  | _ => .error (Failure.plain ("cannot read format " ++ Quoted.quoteString format))

/-- Writes a node as a document in the named format. -/
def writeDocument (format : String) (n : Node) : Except Failure Bytes :=
  match format with
  | "json" => .ok (Utf8.ofString n.jsonText)
  | "yaml" => .ok (Utf8.ofString n.yamlText)
  | "cbor" => .ok n.cborBytes
  | "text" => n.toPacket.bind Packet.text
  | _ => .error (Failure.plain ("unknown format " ++ Quoted.quoteString format))

end Node

end SoundControl
