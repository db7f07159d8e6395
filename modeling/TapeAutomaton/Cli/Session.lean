import TapeAutomaton.Cli.Arguments
import TapeAutomaton.Cli.Input
import TapeAutomaton.Cli.Report
import TapeAutomaton.Program.Files
/-!
# A session of the command line

`session` is one run of `tape-machine`, written against a `Console`: standard output, line
reads of standard input, file reads, and whether standard input is a terminal. It ends with
an exit status and the text for standard error.

* Arguments the parser refuses end the session with status 2 and the parser's message;
  `--help` and `--version` print their text and end it with status 0.
* `--list` prints the table of built-in programs before anything else is looked at.
* The program is read from `--program`, else found by `--builtin`, else the first built-in one.
* On a terminal, a missing tape or budget brings the banner and then a prompt for each missing
  one: an empty answer takes the program's tape or the standard budget. Elsewhere those
  defaults are taken without asking.
* The run prints the configuration and every applied transition unless `--quiet`; with
  `--step` it waits for a line after each transition (a line that cannot be read is passed
  over). The report follows.
* Any other failure ends the session with status 1 and `Error: ` with the failure, followed
  by the failures under it.

`simulate` runs a session on given input and files and collects what it prints.
-/
namespace TapeAutomaton
namespace Cli

/-- A failure that ends a session with status 1: its message and the failures under it,
outermost first. -/
structure ErrorChain where
  message : String
  causes : List String
  deriving DecidableEq, Repr

def indentLines (pad s : String) : String := ("\n" ++ pad).intercalate (s.splitOn "\n")

def ErrorChain.text (e : ErrorChain) : String :=
  let causes := match e.causes with
    | [] => ""
    | [c] => "\n\nCaused by:\n    " ++ indentLines "    " c
    | cs => "\n\nCaused by:" ++ String.join ((cs.zip (List.range cs.length)).map fun (c, n) =>
        "\n" ++ padLeft (toString n) 5 ++ ": " ++ indentLines "       " c)
  "Error: " ++ e.message ++ causes ++ "\n"

/-- What a session needs from its surroundings. -/
structure Console (μ : Type → Type) where
  /-- Writes to standard output. -/
  print : String → μ Unit
  /-- Reads a line of standard input with its line feed; the empty line at the end of input. -/
  readLine : μ (Except IoError String)
  /-- Reads the text of a file. -/
  readFile : String → μ (Except IoError String)
  /-- Whether standard input is a terminal. -/
  interactive : Bool

/-- How a session ended: its exit status and its text for standard error. -/
structure Ending where
  status : Nat
  errors : String
  deriving DecidableEq, Repr

section

variable {μ : Type → Type} [Monad μ]

def chooseProgram (c : Console μ) (o : Options) : ExceptT ErrorChain μ Program := do
  match o.program with
  | some path =>
    match Program.ofFileText path (← c.readFile path) with
    | .ok p => pure p
    | .error f => throw ⟨"Failed to load program from " ++ path, [f.message]⟩
  | none =>
    let found := match o.builtin with
      | some name => Registry.byName name
      | none => Registry.byIndex 0
    match found with
    | .ok p => pure p
    | .error f => throw ⟨f.message, []⟩

def ask (c : Console μ) (prompt : String) : ExceptT ErrorChain μ String := do
  c.print prompt
  match ← c.readLine with
  | .ok line => pure (Text.trim line)
  | .error e => throw ⟨"Failed to read from stdin", [e.message]⟩

def askTape (c : Console μ) (default : String) : ExceptT ErrorChain μ String := do
  let line ← ask c (tapePrompt default)
  pure (if line.isEmpty then default else line)

def askBudget (c : Console μ) : ExceptT ErrorChain μ StepBudget := do
  let line ← ask c budgetPrompt
  if line.isEmpty then pure StepBudget.standard
  else
    match StepBudget.parse line with
    | .ok b => pure b
    | .error f => throw ⟨f.message, []⟩

def observe (c : Console μ) (quiet pause : Bool) (s : Snapshot) : StateT String μ Unit := do
  let previous ← get
  if !quiet then c.print (stepLines previous s)
  set s.state
  if pause then
    c.print pausePrompt
    let _ ← c.readLine

def execute (c : Console μ) (o : Options) : ExceptT ErrorChain μ Unit := do
  if o.list then c.print listing
  else
    let program ← chooseProgram c o
    if c.interactive && (o.tape.isNone || o.budget.isNone) then
      c.print (banner ++ "Program: " ++ program.name ++ "\n")
    let tape ← match o.tape with
      | some t => pure t
      | none => if c.interactive then askTape c program.tape else pure program.tape
    let budget ← match o.budget with
      | some b => pure b
      | none => if c.interactive then askBudget c else pure StepBudget.standard
    let m ← match Machine.new program.rules program.start tape program.blank with
      | .ok m => pure m
      | .error f => throw ⟨"Failed to start program '" ++ program.name ++ "'", [f.message]⟩
    if !o.quiet then c.print (startLine program.name ++ configuration m)
    let (r, _) ← (m.runWith (observe c o.quiet o.step) budget.steps).run m.state
    c.print (finalReport r budget)

/-- One run of the command line on `args`. -/
def session (c : Console μ) (args : List String) : μ Ending := do
  match parse args with
  | .error (.refuse r) => pure ⟨2, r.text⟩
  | .error .help =>
    c.print helpText
    pure ⟨0, ""⟩
  | .error .version =>
    c.print versionText
    pure ⟨0, ""⟩
  | .ok o =>
    match ← (execute c o).run with
    | .ok () => pure ⟨0, ""⟩
    | .error e => pure ⟨1, e.text⟩

end

/-- A console's state in a simulated session: the lines standard input has left and what
was printed so far. -/
structure Transcript where
  input : List (List UInt8)
  output : String
  deriving DecidableEq, Repr

def Console.simulated (files : FileTree) (interactive : Bool) : Console (StateM Transcript) where
  print s := modify fun t => { t with output := t.output ++ s }
  readLine := modifyGet fun t =>
    let (line, rest) := Cli.readLine t.input
    (line, { t with input := rest })
  readFile path := pure (files.readText path)
  interactive := interactive

structure Outcome where
  status : Nat
  output : String
  errors : String
  deriving DecidableEq, Repr

/-- Runs the command line on `args` with standard input `stdin` and the files of `files`. -/
def simulate (files : FileTree) (stdin : Stdin) (args : List String) : Outcome :=
  let (e, t) := Id.run ((session (Console.simulated files stdin.isTerminal) args).run
    ⟨stdin.lines, ""⟩)
  ⟨e.status, t.output, e.errors⟩

end Cli
end TapeAutomaton
