import SoundControl.Bytes
import SoundControl.Text.Utf8
import SoundControl.Text.Printable
import SoundControl.Text.Case
import SoundControl.Text.Quoted
import SoundControl.Text.Hex
import SoundControl.Error
import SoundControl.Packet
import SoundControl.Wire.Encode
import SoundControl.Wire.Decode
import SoundControl.Number.Binary
import SoundControl.Number.Shortest
import SoundControl.Number.Format
import SoundControl.Number.Literal
import SoundControl.Json.Value
import SoundControl.Json.Grammar
import SoundControl.Json.Reader
import SoundControl.Codec
import SoundControl.Display
import SoundControl.Stream
import SoundControl.Timetag
import SoundControl.Moment
import SoundControl.Failure
import SoundControl.Editing
import SoundControl.Fields
import SoundControl.Document.Argument
import SoundControl.Document.Node
import SoundControl.Cbor.Item
import SoundControl.Document.Json
import SoundControl.Document.Cbor
import SoundControl.Document.Format
import SoundControl.Settings
import SoundControl.Text.Base64
import SoundControl.Yaml.Token
import SoundControl.Yaml.Input
import SoundControl.Yaml.Scanner
import SoundControl.Yaml.Event
import SoundControl.Yaml.Resolve
import SoundControl.Yaml.Tree
import SoundControl.Yaml.Emit
import SoundControl.Document.Yaml
import SoundControl.Cli.Flags
import SoundControl.Cli.Commands
import SoundControl.Cli.Complete
import SoundControl.Cli.Scripts
import SoundControl.Cli.Tool
import SoundControl.Main
import SoundControl.Proofs.Timetag.RoundTrip
import SoundControl.Proofs.Wire.Equations
import SoundControl.Proofs.Wire.RoundTrip
import SoundControl.Proofs.Wire.Canonical
import SoundControl.Proofs.Wire.Defects
import SoundControl.Proofs.Wire.Failures
import SoundControl.Proofs.Stream.Framing
import SoundControl.Proofs.Packet.Equality
import SoundControl.Proofs.Editing.Atomicity
import SoundControl.Proofs.Text.ReadBack
import SoundControl.Proofs.Number.Rounding
import SoundControl.Proofs.Number.Shortest
import SoundControl.Proofs.Number.FloatText
import SoundControl.Proofs.Document.RoundTrip
import SoundControl.Proofs.Wire.Nesting
import SoundControl.Proofs.Wire.DepthLimit
import SoundControl.Proofs.Wire.Appending
import SoundControl.Proofs.Stream.Grammar
import SoundControl.Proofs.Editing.Binding
import SoundControl.Proofs.Wire.Alignment
import SoundControl.Proofs.Display.Lines
