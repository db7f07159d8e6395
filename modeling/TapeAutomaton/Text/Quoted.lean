import TapeAutomaton.Text.ExtendingMark
import TapeAutomaton.Text.Printable
/-!
# Quoted texts and characters

Messages show a text between double quotes and a character between single quotes, escaped
so that every character of the value can be told apart: NUL, tab, carriage return, line feed
and the backslash get a backslash and a letter, the quote that delimits the value gets a
backslash, and an extending mark or a character that is not printable is written as its
code point, `\u{hex}` in lower-case hexadecimal. Every other character stands for itself.

A list of quoted values is written between brackets, separated by a comma and a space.
-/
namespace TapeAutomaton
namespace Text

def codePointEscape (c : Char) : List Char :=
  ['\\', 'u', '\x7b'] ++ Nat.toDigits 16 c.toNat ++ ['\x7d']

/-- How `c` is written inside a value delimited by `quote`. -/
def escapeChar (quote : Char) (c : Char) : List Char :=
  if c = '\x00' then ['\\', '0']
  else if c = '\t' then ['\\', 't']
  else if c = '\r' then ['\\', 'r']
  else if c = '\n' then ['\\', 'n']
  else if c = '\\' then ['\\', '\\']
  else if c = quote then ['\\', c]
  else if isExtendingMark c then codePointEscape c
  else if isPrintable c then [c]
  else codePointEscape c

def quoteString (s : String) : String :=
  String.ofList ('"' :: s.toList.flatMap (escapeChar '"') ++ ['"'])

def quoteChar (c : Char) : String :=
  String.ofList ('\'' :: escapeChar '\'' c ++ ['\''])

def bracketList (items : List String) : String :=
  "[" ++ ", ".intercalate items ++ "]"

theorem escapeChar_plain {quote c : Char} (h0 : c ≠ '\x00') (ht : c ≠ '\t') (hr : c ≠ '\r')
    (hn : c ≠ '\n') (hb : c ≠ '\\') (hq : c ≠ quote) (hg : isExtendingMark c = false)
    (hp : isPrintable c = true) : escapeChar quote c = [c] := by
  simp [escapeChar, h0, ht, hr, hn, hb, hq, hg, hp]

end Text
end TapeAutomaton
