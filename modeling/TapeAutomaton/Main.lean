import TapeAutomaton.Cli.Session
/-!
# The `tape-machine` command

The command line on the process's own streams and files: it gives a session a console that
prints to standard output, reads standard input a line at a time and reads files from disk,
then writes the session's error text to standard error and exits with its status.
-/
namespace TapeAutomaton
namespace Cli

def ioErrorOf : IO.Error → IoError
  | .noFileOrDirectory _ _ _ => .notFound
  | .inappropriateType _ 21 _ => .isDirectory
  | .inappropriateType _ 20 _ => .notDirectory
  | .invalidArgument _ 36 _ => .nameTooLong
  | .inappropriateType _ code details => .other (details ++ " (os error " ++ toString code ++ ")")
  | .permissionDenied _ code details => .other (details ++ " (os error " ++ toString code ++ ")")
  | .otherError code details => .other (details ++ " (os error " ++ toString code ++ ")")
  | e => .other (toString e)

/-- Reads bytes of `h` up to and including a line feed, or up to the end of input. -/
partial def readLineBytes (h : IO.FS.Stream) (acc : Array UInt8) : IO (Array UInt8) := do
  let chunk ← h.read 1
  match chunk.toList with
  | [] => pure acc
  | b :: _ => if b = lineFeed then pure (acc.push b) else readLineBytes h (acc.push b)

def processConsole (stdin stdout : IO.FS.Stream) (interactive : Bool) : Console IO where
  print s := do
    stdout.putStr s
    stdout.flush
  readLine := do
    try
      let bytes ← readLineBytes stdin #[]
      pure (decodeLine bytes.toList)
    catch e => pure (.error (ioErrorOf e))
  readFile path := do
    try
      let bytes ← IO.FS.readBinFile path
      pure (match String.fromUTF8? bytes with
        | some s => .ok s
        | none => .error .invalidUtf8)
    catch e => pure (.error (ioErrorOf e))
  interactive := interactive

end Cli
end TapeAutomaton

open TapeAutomaton.Cli in
/-- Runs one session on the process's arguments and streams. -/
def main (args : List String) : IO UInt32 := do
  let stdin ← IO.getStdin
  let stdout ← IO.getStdout
  let ending ← session (processConsole stdin stdout (← stdin.isTty)) args
  (← IO.getStderr).putStr ending.errors
  pure ending.status.toUInt32
