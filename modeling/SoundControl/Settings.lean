import SoundControl.Codec
import SoundControl.Text.Quoted

/-! # Settings

The tool's settings: the codec limits, the output format, and the log level and log format,
validated in that order. -/

namespace SoundControl

/-- A character in upper case, as far as a comparison with ASCII words can tell. -/
def upperChar (c : Char) : Char :=
  if c = 'ı' then 'I' else if c = 'ſ' then 'S' else c.toUpper

/-- A text in upper case, as far as a comparison with ASCII words can tell. -/
def upperText (s : String) : String := String.ofList (s.toList.map upperChar)

/-- A text with its ASCII letters in lower case. -/
def lowerText (s : String) : String := String.ofList (s.toList.map Char.toLower)

/-- The log levels. -/
inductive LogLevel where
  | debug
  | info
  | warn
  | error
  deriving DecidableEq, Repr

namespace LogLevel

/-- The severity of a level. -/
def severity : LogLevel → Int
  | .debug => -4
  | .info => 0
  | .warn => 4
  | .error => 8

/-- The name of a level. -/
def name : LogLevel → String
  | .debug => "DEBUG"
  | .info => "INFO"
  | .warn => "WARN"
  | .error => "ERROR"

/-- Reads a level in any case; the empty text is `info` and `warning` is `warn`. -/
def parse (s : String) : Except String LogLevel :=
  match upperText s with
  | "DEBUG" => .ok .debug
  | "INFO" | "" => .ok .info
  | "WARN" | "WARNING" => .ok .warn
  | "ERROR" => .ok .error
  | _ => .error ("unknown log level " ++ Quoted.quoteString s)

end LogLevel

/-- The tool's settings. -/
structure Settings where
  maxDepth : Int := 32
  maxPacketSize : Int := 1048576
  output : String := "text"
  logLevel : String := "INFO"
  logFormat : String := "text"
  deriving DecidableEq, Repr

namespace Settings

/-- The output formats, spelled exactly. -/
def outputFormats : List String := ["text", "json", "yaml", "cbor"]

/-- The log levels a setting may name, in upper case. -/
def levelNames : List String := ["DEBUG", "INFO", "WARN", "ERROR"]

/-- The log formats, in lower case. -/
def logFormats : List String := ["text", "json"]

/-- Checks the settings, reporting the first that fails. -/
def validate (s : Settings) : Except String Unit :=
  if s.maxDepth < 1 then .error ("max_depth must be at least 1, got " ++ toString s.maxDepth)
  else if s.maxPacketSize < 1 then
    .error ("max_packet_size must be at least 1, got " ++ toString s.maxPacketSize)
  else if !outputFormats.contains s.output then
    .error ("invalid output format " ++ Quoted.quoteString s.output)
  else if !levelNames.contains (upperText s.logLevel) then
    .error ("invalid log level " ++ Quoted.quoteString s.logLevel)
  else if !logFormats.contains (lowerText s.logFormat) then
    .error ("invalid log format " ++ Quoted.quoteString s.logFormat)
  else .ok ()

/-- The codec of the settings. -/
def codec (s : Settings) : Codec := Codec.ofLimits s.maxDepth s.maxPacketSize

end Settings

end SoundControl
