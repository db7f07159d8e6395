import TapeAutomaton.Text.CodeRanges
/-!
# Blank characters and trimming

A character is blank when it has the Unicode property White_Space (25 characters in
Unicode 17.0). Trimming removes blank characters from both ends of a text and keeps
everything between the first and the last character that is not blank.
-/
namespace TapeAutomaton
namespace Text

def whiteSpace : CodeRanges := [
  (0x9, 0xD), (0x20, 0x20), (0x85, 0x85), (0xA0, 0xA0), (0x1680, 0x1680), (0x2000, 0x200A),
  (0x2028, 0x2029), (0x202F, 0x202F), (0x205F, 0x205F), (0x3000, 0x3000)]

/-- Whether `c` is a Unicode White_Space character. -/
def isBlank (c : Char) : Bool :=
  whiteSpace.containsChar c

def trimList (cs : List Char) : List Char :=
  ((cs.dropWhile isBlank).reverse.dropWhile isBlank).reverse

def trim (s : String) : String :=
  String.ofList (trimList s.toList)

theorem isBlank_of_isWhitespace {c : Char} (h : c.isWhitespace = true) : isBlank c = true := by
  simp only [Char.isWhitespace, Bool.or_eq_true, decide_eq_true_eq] at h
  rcases h with ((h | h) | h) | h <;> subst h <;> decide

end Text
end TapeAutomaton
