import TapeAutomaton.FileTree
/-!
# Standard input, line by line

The command line reads standard input a line at a time through one buffer shared by every
read of the process: a line is everything up to and including the next line feed, wherever
the reads that deliver the bytes begin and end, and bytes after that line feed wait in the
buffer for the next line. A read that finds the end of input (it delivers nothing) ends the
line read so far, so a read at the end of input with nothing buffered gives the empty line.

A pipe delivers its bytes as they are, in one read. A terminal in canonical mode with echo off
delivers what its line discipline makes of the typed bytes (with the usual control
characters), one read per completed line:

* a carriage return arrives as a line feed, and a line feed ends the read;
* `^D` ends the read without arriving itself, so on an empty line it reads as the end of input;
* `DEL` erases the last byte of the line, `^U` the whole line, and `^W` the last word (word
  bytes being letters, digits and `_`, Latin-1 letters included, with what follows them);
* `^V` makes the next byte arrive as it is, without its meaning: a line feed typed after it is
  part of the read but does not end it (the buffer still cuts the line there);
* `^Q` and `^S` never arrive;
* `^C`, `^\` and `^Z` raise a signal that reaches no process and empty the input queue: the
  line being typed and every line typed before it are lost, since all the typed bytes reach
  the terminal before the first read;
* a line holds at most 4096 bytes: a byte typed when it is full first takes the last byte off,
  so a line read has at most 4095 bytes before its line feed.

Typed input is completed with a line feed when it does not end in one and is followed by
enough `^D`s that every later read is at the end of input.
-/
namespace TapeAutomaton
namespace Cli

/-- Where standard input comes from. -/
inductive Stdin where
  /-- Nothing: every read is at the end of input. -/
  | closed
  /-- A pipe holding these bytes. -/
  | pipe (bytes : List UInt8)
  /-- A terminal on which these bytes were typed. -/
  | terminal (typed : List UInt8)
  deriving DecidableEq, Repr

def lineFeed : UInt8 := 10

def cutLines (cur : List UInt8) : List UInt8 → List (List UInt8) × List UInt8
  | [] => ([], cur)
  | b :: bs =>
    if b = lineFeed then
      let (ls, rest) := cutLines [] bs
      ((b :: cur).reverse :: ls, rest)
    else cutLines (b :: cur) bs

def isWordByte (b : UInt8) : Bool :=
  (48 ≤ b && b ≤ 57) || (65 ≤ b && b ≤ 90) || (97 ≤ b && b ≤ 122) || b == 95 ||
    (192 ≤ b && b != 215 && b != 247)

/-- The line discipline between two typed bytes: the line typed so far, and whether the next
byte is taken as it is. -/
structure Discipline where
  line : Array UInt8
  literal : Bool
  deriving DecidableEq, Repr

namespace Discipline

def start : Discipline := ⟨#[], false⟩

def capacity : Nat := 4096

/-- What typing one byte does to the input queue. -/
inductive Effect where
  /-- The byte only changes the line being typed. -/
  | typing
  /-- The byte completes a read with these bytes. -/
  | completes (read : List UInt8)
  /-- The byte empties the input queue. -/
  | flushes
  deriving DecidableEq, Repr

def isSignal (b : UInt8) : Bool := b == 3 || b == 28 || b == 26

/-- Types one byte: what it does to the input queue, and the discipline after it. A full line
first loses its last byte. -/
def feed (d : Discipline) (b : UInt8) : Effect × Discipline :=
  let line := if d.line.size < capacity then d.line else d.line.pop
  if d.literal then (.typing, ⟨line.push b, false⟩)
  else if isSignal b then (.flushes, start)
  else if b = 17 || b = 19 then (.typing, ⟨line, false⟩)
  else
    let b := if b = 13 then lineFeed else b
    if b = 127 then (.typing, ⟨line.pop, false⟩)
    else if b = 21 then (.typing, ⟨#[], false⟩)
    else if b = 23 then (.typing, ⟨(line.popWhile (!isWordByte ·)).popWhile isWordByte, false⟩)
    else if b = 22 then (.typing, ⟨line, true⟩)
    else if b = lineFeed then (.completes (line.push b).toList, start)
    else if b = 4 then (.completes line.toList, start)
    else (.typing, ⟨line.push b, false⟩)

def reads (d : Discipline) (done : List (List UInt8)) : List UInt8 → List (List UInt8)
  | [] => done.reverse
  | b :: bs =>
    match d.feed b with
    | (.completes r, d) => reads d (r :: done) bs
    | (.flushes, d) => reads d [] bs
    | (.typing, d) => reads d done bs

end Discipline

def joinReads (cur : List UInt8) : List (List UInt8) → List (List UInt8)
  | [] => if cur.isEmpty then [] else [cur.reverse]
  | r :: rs =>
    if r.isEmpty then cur.reverse :: joinReads [] rs
    else
      let (ls, rest) := cutLines cur r
      ls ++ joinReads rest rs

def endMarks : Nat := 256

def terminalBytes (typed : List UInt8) : List UInt8 :=
  let typed := if typed.getLast? == some lineFeed then typed else typed ++ [lineFeed]
  typed ++ List.replicate endMarks 4

namespace Stdin

def isTerminal : Stdin → Bool
  | terminal _ => true
  | _ => false

/-- The lines successive reads return before every read is at the end of input. -/
def lines : Stdin → List (List UInt8)
  | closed => []
  | pipe bytes => joinReads [] [bytes]
  | terminal typed => joinReads [] (Discipline.start.reads [] (terminalBytes typed))

end Stdin

def decodeLine (bytes : List UInt8) : Except IoError String :=
  match String.fromUTF8? ⟨bytes.toArray⟩ with
  | some s => .ok s
  | none => .error .invalidUtf8

/-- Reads one line from the lines left: its text (empty at the end of input) and the lines
left after it. -/
def readLine : List (List UInt8) → Except IoError String × List (List UInt8)
  | [] => (.ok "", [])
  | l :: ls => (decodeLine l, ls)

end Cli
end TapeAutomaton
