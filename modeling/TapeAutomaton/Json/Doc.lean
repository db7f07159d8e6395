import TapeAutomaton.Json.Strings
/-!
# Writing documents

The documents this library writes hold only strings, lists and maps, so `Doc` has only those.
A string is written between double quotes, its characters as the string format `j` escapes
them.

`compact` writes a document on one line without blanks. `pretty` puts every element of a
list and every entry of a map on its own line, indented two spaces deeper than the bracket
that holds it, with `": "` between a key and its value; an empty list or map is `[]` or `{}`.
-/
namespace TapeAutomaton
namespace Json

/-- A document of strings, lists and maps. -/
inductive Doc where
  | str (s : String)
  | list (items : List Doc)
  | map (entries : List (String × Doc))
  deriving Repr

def quote (j : Strings) (s : String) : String :=
  String.ofList ('"' :: j.escape s ++ ['"'])

namespace Doc

mutual
def compact (j : Strings) : Doc → String
  | .str s => quote j s
  | .list items => "[" ++ compactItems j items ++ "]"
  | .map entries => "\x7b" ++ compactEntries j entries ++ "\x7d"

def compactItems (j : Strings) : List Doc → String
  | [] => ""
  | [d] => compact j d
  | d :: rest => compact j d ++ "," ++ compactItems j rest

def compactEntries (j : Strings) : List (String × Doc) → String
  | [] => ""
  | [(k, d)] => quote j k ++ ":" ++ compact j d
  | (k, d) :: rest => quote j k ++ ":" ++ compact j d ++ "," ++ compactEntries j rest
end

def indent (level : Nat) : String := String.ofList (List.replicate (2 * level) ' ')

mutual
/-- The document with one element or entry per line, its brackets at depth `level`. -/
def prettyAt (j : Strings) (level : Nat) : Doc → String
  | .str s => quote j s
  | .list [] => "[]"
  | .list (d :: rest) =>
    "[\n" ++ indent (level + 1) ++ prettyAt j (level + 1) d ++ prettyItems j (level + 1) rest
      ++ "\n" ++ indent level ++ "]"
  | .map [] => "\x7b\x7d"
  | .map ((k, d) :: rest) =>
    "\x7b\n" ++ indent (level + 1) ++ quote j k ++ ": " ++ prettyAt j (level + 1) d
      ++ prettyEntries j (level + 1) rest ++ "\n" ++ indent level ++ "\x7d"

def prettyItems (j : Strings) (level : Nat) : List Doc → String
  | [] => ""
  | d :: rest => ",\n" ++ indent level ++ prettyAt j level d ++ prettyItems j level rest

def prettyEntries (j : Strings) (level : Nat) : List (String × Doc) → String
  | [] => ""
  | (k, d) :: rest =>
    ",\n" ++ indent level ++ quote j k ++ ": " ++ prettyAt j level d ++ prettyEntries j level rest
end

def pretty (j : Strings) (d : Doc) : String := d.prettyAt j 0

end Doc

end Json
end TapeAutomaton
