import SoundControl.Cli.Tool

/-! # The command-line program

Reads standard input when the command needs it, runs the tool on the command line, writes what
it printed to standard output, and on failure writes `Error: ` and the message to standard
error and exits with status 1. -/

open SoundControl

/-- Reads a stream to its end. -/
partial def readToEnd (h : IO.FS.Stream) (acc : ByteArray) : IO ByteArray := do
  let chunk ← h.read 65536
  if chunk.isEmpty then return acc else readToEnd h (acc ++ chunk)

/-- Runs the tool on the command line. -/
def main (args : List String) : IO UInt32 := do
  let input ← if Cli.readsInput args then readToEnd (← IO.getStdin) ByteArray.empty
    else pure ByteArray.empty
  let out := Cli.run args input.toList
  let stdout ← IO.getStdout
  stdout.write (ByteArray.mk out.stdout.toArray)
  stdout.flush
  match out.failure with
  | some f =>
    (← IO.getStderr).putStrLn ("Error: " ++ f.message)
    return 1
  | none => return 0
