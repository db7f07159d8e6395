import TapeAutomaton.Json.Scalar
/-!
# String formats

A document's brackets, commas, colons and blanks are fixed; how the characters of a string are written between its
quotes, and how a character is written as a string, is the part of a document format a reader and a writer must
agree on. `Strings` is that part: the writer's escaping and the reader of what it escapes, and the writer's string
for a character and the reader's character for a string. Reading and writing programs take it as a parameter.

`Strings.standard` is the format this library writes and reads. A string is written with `"` and `\` escaped by a
backslash, the control characters backspace, form feed, line feed, carriage return and tab by their short escapes,
the other characters below U+0020 as `\u00xx` (lower-case hexadecimal), and every other character as itself; it is
read by `Reader.string`. A character is written as the string of that one character, and a string is read as a
character when it holds exactly one.
-/
namespace TapeAutomaton
namespace Json

def hexDigit (n : Nat) : Char :=
  if n < 10 then Char.ofNat (n + '0'.toNat) else Char.ofNat (n - 10 + 'a'.toNat)

def escapeChar (c : Char) : List Char :=
  if c = '"' then ['\\', '"']
  else if c = '\\' then ['\\', '\\']
  else if c.toNat = 8 then ['\\', 'b']
  else if c.toNat = 12 then ['\\', 'f']
  else if c = '\n' then ['\\', 'n']
  else if c = '\r' then ['\\', 'r']
  else if c = '\t' then ['\\', 't']
  else if c.toNat < 0x20 then ['\\', 'u', '0', '0', hexDigit (c.toNat / 16), hexDigit (c.toNat % 16)]
  else [c]

/-- How a format writes and reads strings and characters. -/
structure Strings where
  /-- The characters written between a string's quotes. -/
  escape : String → List Char
  /-- Reads a string after its opening quote, up to its closing quote and past it. -/
  unescape : Reader String
  /-- The string a character is written as. -/
  ofChar : Char → String
  /-- The character a string is read as, or why it is none. -/
  toChar : String → Except Problem Char

def oneChar (s : String) : Except Problem Char :=
  match s.toList with
  | [c] => .ok c
  | _ => .error (.invalidValue (.string s) "a character")

def Strings.standard : Strings where
  escape s := s.toList.flatMap escapeChar
  unescape := Reader.string
  ofChar := String.singleton
  toChar := oneChar

end Json
end TapeAutomaton
