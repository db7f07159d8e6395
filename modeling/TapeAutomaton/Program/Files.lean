import TapeAutomaton.Program.Document
import TapeAutomaton.FileTree
/-!
# Loading programs from files

`Program.loadFile` reads the text of one file and loads the program it holds. A file that
cannot be read as text is a file fault that names the path; otherwise the faults are those of
the document.

`Program.loadDirectory` loads every file of one directory whose name has the extension
`json` (exactly, in lower case), skipping subdirectories and not descending into them. Each
file gives a program or a file fault naming its path (the directory's path joined with the
file name) and the fault that loading it met. A directory that does not exist, or cannot be
listed, gives one fault instead.
-/
namespace TapeAutomaton

namespace Program

def ofFileText (path : String) : Except IoError String → Except Fault Program
  | .ok text => load text
  | .error e => .error (.file ("Failed to read file " ++ path ++ ": " ++ e.message))

def loadFile (t : FileTree) (path : String) : Except Fault Program :=
  ofFileText path (t.readText path)

/-- The programs held by the files of extension `json` in the directory at `dir`, each with
its path, in order of their names. -/
def loadDirectory (t : FileTree) (dir : String) : List (Except Fault (String × Program)) :=
  if !t.contains dir then [.error (.file ("Directory " ++ dir ++ " does not exist"))]
  else
    match t.list dir with
    | .error e => [.error (.file ("Failed to read directory " ++ dir ++ ": " ++ e.message))]
    | .ok names => names.filterMap fun name =>
      let path := joinPath dir name
      if t.isDirectory path || extension? name != some "json" then none
      else some (match loadFile t path with
        | .ok p => .ok (path, p)
        | .error f => .error (.file ("Failed to load program from " ++ path ++ ": " ++ f.message)))

end Program

end TapeAutomaton
