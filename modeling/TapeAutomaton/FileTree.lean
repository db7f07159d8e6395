/-!
# A tree of files

Programs are loaded from files. A `FileTree` holds directories and files (with their bytes)
by path, a path being the list of its components and the root `[]` always a directory. The
root is the working directory, somewhere in a file system that holds nothing else known:
outside the tree there are only directories (the root of the file system and the directories
above the tree), and none of them has an entry one could name.

A relative path is resolved component by component from the root of the tree, an absolute
path from outside it. Empty components and `.` stay where they are, `..` goes up (from the
root of the tree to outside it, and from outside it nowhere else), and any other component
steps into the entry of that name. Stepping through a component that does not exist fails
with "no such file or directory", and through a file with "not a directory", whenever a
component follows it (a trailing `/` counts as one); outside the tree every name fails so.
The empty path names nothing, and a path with a NUL character is refused before it is looked
at.

Names and paths have the limits of the file system: a path of 4096 bytes or more is refused
before it is looked at, and a component of more than 255 bytes is refused when the walk gets
to it ("file name too long"), after any failure of the components before it.

Building a tree follows a written path the same way, creating each directory it steps into
that does not exist yet: `d/../a.json` creates `d` and puts `a.json` at the root.

Reading a file's text fails on a directory ("is a directory") and on bytes that are not
UTF-8. Listing a directory gives the names of its entries in order.
-/
namespace TapeAutomaton

/-- Why a file system operation failed. -/
inductive IoError where
  | notFound
  | isDirectory
  | notDirectory
  | invalidUtf8
  /-- A path with a NUL character, which no file name holds. -/
  | nulInName
  /-- A path or a component of a path longer than the file system allows. -/
  | nameTooLong
  /-- Any other failure, with its wording. -/
  | other (message : String)
  deriving DecidableEq, Repr

def IoError.message : IoError → String
  | .notFound => "No such file or directory (os error 2)"
  | .isDirectory => "Is a directory (os error 21)"
  | .notDirectory => "Not a directory (os error 20)"
  | .invalidUtf8 => "stream did not contain valid UTF-8"
  | .nulInName => "file name contained an unexpected NUL byte"
  | .nameTooLong => "File name too long (os error 36)"
  | .other message => message

/-- What a path names. -/
inductive FileEntry where
  | file (bytes : List UInt8)
  | directory
  deriving DecidableEq, Repr

/-- Directories and files by path. -/
structure FileTree where
  entries : List (List String × FileEntry)
  deriving DecidableEq, Repr

namespace FileTree

def empty : FileTree := ⟨[]⟩

def entry? (t : FileTree) (path : List String) : Option FileEntry :=
  if path.isEmpty then some .directory
  else (t.entries.find? fun e => e.1 == path).map (·.2)

def put (t : FileTree) (path : List String) (e : FileEntry) : FileTree :=
  ⟨(t.entries.filter fun x => x.1 != path) ++ [(path, e)]⟩

def components (p : String) : List String := p.splitOn "/"

def makeDirectories (t : FileTree) (cur : List String) : List String → FileTree × List String
  | [] => (t, cur)
  | c :: rest =>
    if c.isEmpty || c == "." then makeDirectories t cur rest
    else if c == ".." then makeDirectories t cur.dropLast rest
    else
      let next := cur ++ [c]
      makeDirectories (if (t.entry? next).isSome then t else t.put next .directory) next rest

def addFile (t : FileTree) (p : String) (bytes : List UInt8) : FileTree :=
  let cs := components p
  let (t, dir) := t.makeDirectories [] cs.dropLast
  t.put (dir ++ [cs.getLastD ""]) (.file bytes)

def addDirectory (t : FileTree) (p : String) : FileTree :=
  (t.makeDirectories [] (components p)).1

def pathLimit : Nat := 4096

def nameLimit : Nat := 255

inductive Place where
  /-- The path of the tree, whether or not it has an entry. -/
  | inside (path : List String)
  /-- A directory outside the tree. -/
  | outside
  deriving DecidableEq, Repr

def walk (t : FileTree) : Place → List String → Except IoError Place
  | place, [] => .ok place
  | .outside, c :: rest =>
    if c.isEmpty || c == "." || c == ".." then walk t .outside rest
    else if c.utf8ByteSize > nameLimit then .error .nameTooLong
    else .error .notFound
  | .inside cur, c :: rest =>
    if c.isEmpty || c == "." then walk t (.inside cur) rest
    else if c == ".." then walk t (if cur.isEmpty then .outside else .inside cur.dropLast) rest
    else if c.utf8ByteSize > nameLimit then .error .nameTooLong
    else
      let next := cur ++ [c]
      if rest.isEmpty then .ok (.inside next)
      else match t.entry? next with
        | some .directory => walk t (.inside next) rest
        | some (.file _) => .error .notDirectory
        | none => .error .notFound

/-- The place a written path names. -/
def resolve (t : FileTree) (p : String) : Except IoError Place :=
  if p.isEmpty then .error .notFound
  else if p.contains '\x00' then .error .nulInName
  else if p.utf8ByteSize ≥ pathLimit then .error .nameTooLong
  else t.walk (if p.startsWith "/" then .outside else .inside []) (components p)

def lookup (t : FileTree) (p : String) : Except IoError FileEntry := do
  match ← t.resolve p with
  | .outside => pure .directory
  | .inside path =>
    match t.entry? path with
    | some e => pure e
    | none => throw .notFound

def contains (t : FileTree) (p : String) : Bool :=
  match t.lookup p with
  | .ok _ => true
  | .error _ => false

def isDirectory (t : FileTree) (p : String) : Bool :=
  match t.lookup p with
  | .ok .directory => true
  | _ => false

def readText (t : FileTree) (p : String) : Except IoError String := do
  match ← t.lookup p with
  | .directory => throw .isDirectory
  | .file bytes =>
    match String.fromUTF8? ⟨bytes.toArray⟩ with
    | some s => pure s
    | none => throw .invalidUtf8

def list (t : FileTree) (p : String) : Except IoError (List String) := do
  match ← t.resolve p with
  | .outside => pure []
  | .inside path =>
    match t.entry? path with
    | none => throw .notFound
    | some (.file _) => throw .notDirectory
    | some .directory =>
      let names := t.entries.filterMap fun e =>
        if e.1.dropLast == path && e.1.length == path.length + 1 then e.1.getLast? else none
      pure (names.mergeSort fun a b => !decide (b < a))

end FileTree

def joinPath (dir name : String) : String :=
  if dir.isEmpty then name
  else if dir.endsWith "/" then dir ++ name
  else dir ++ "/" ++ name

/-- The extension of a file name: what follows its last `.`, unless that dot is its first
character (or the name is `..`). -/
def extension? (name : String) : Option String :=
  if name == ".." then none
  else
    match (name.splitOn ".").reverse with
    | [] | [_] => none
    | ext :: before =>
      let stem := ".".intercalate before.reverse
      if stem.isEmpty then none else some ext

end TapeAutomaton
