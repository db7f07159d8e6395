import TapeAutomaton.Machine.Basic
import TapeAutomaton.Registry
import TapeAutomaton.Cli.Arguments
/-!
# What the command line prints

The texts of a session: the banner and the prompts of a terminal session, the configuration
before the first step, the lines of each applied transition, the report after the run, the
table of built-in programs, and the help and version texts.

A tape is shown on one line between `>>>` and `<<<`, with a caret on the next line under the
head when the head is on a stored cell or just right of the last one, where the tape grows;
elsewhere the caret line is left out.
-/
namespace TapeAutomaton
namespace Cli

def padRight (s : String) (width : Nat) : String :=
  s ++ String.ofList (List.replicate (width - s.length) ' ')

def padLeft (s : String) (width : Nat) : String :=
  String.ofList (List.replicate (width - s.length) ' ') ++ s

def equalSigns (n : Nat) : String := String.ofList (List.replicate n '=')

def banner : String :=
  equalSigns 25 ++ "\n===== Tape  Machine =====\n" ++ equalSigns 25 ++ "\n\n"

def tapePrompt (default : String) : String := "Initial tape (e.g. 10101) [" ++ default ++ "]: "

def budgetPrompt : String :=
  "Maximum number of steps [" ++ toString StepBudget.standard.steps ++ "]: "

def pausePrompt : String := "\n... Press Enter to continue..."

/-- The tape and, when the head is at most one cell right of the stored ones and not left of
them, a caret under it. -/
def tapeView (t : Tape) (head : Int) : String :=
  let column := head - t.leftmost
  let line := "| >>> " ++ t.render ++ " <<<"
  if 0 ≤ column && column ≤ (t.len : Int) then
    line ++ "\n|     " ++ String.ofList (List.replicate column.toNat ' ') ++ "^"
  else line

def startLine (name : String) : String := "\n[START] Running '" ++ name ++ "'\n"

def configuration (m : Machine) : String :=
  "\n> State: " ++ m.state ++ "\n| Symbol under head: \"" ++ String.singleton m.symbol ++
    "\"\n| Head position: " ++ toString m.head ++ "\n" ++ tapeView m.tape m.head ++ "\n"

def stepLines (previous : String) (s : Snapshot) : String :=
  let tr := s.transition
  "\n> Step " ++ toString s.step ++ "\n| Read \"" ++ String.singleton tr.read ++
    "\" at position " ++ toString tr.position ++ " in state " ++ previous ++
    "\n| Wrote \"" ++ String.singleton tr.rule.write ++ "\", moved " ++ tr.rule.move.word ++
    ", now in state " ++ s.state ++ "\n" ++ tapeView s.tape s.head ++ "\n"

/-- The report after a run with budget `budget`: the final configuration, the number of
steps, and why the run ended. -/
def finalReport (r : Run) (budget : StepBudget) : String :=
  let m := r.machine
  let ending :=
    if r.halted then
      "Halted: no rule for state '" ++ m.state ++ "' and symbol \"" ++
        String.singleton m.symbol ++ "\"\n"
    else "Paused: step budget of " ++ toString budget ++ " exhausted\n"
  "\n[DONE] Execution finished.\n" ++ equalSigns 31 ++ "\nFinal tape: >>> " ++ m.tape.render ++
    " <<<\nFinal state: " ++ m.state ++ "\nHead position: " ++ toString m.head ++
    "\nSteps executed: " ++ toString r.executed ++ "\n" ++ ending ++ equalSigns 31 ++ "\n"

def listingLine (i : Registry.Info) : String :=
  padLeft (toString (i.index + 1)) 2 ++ ". " ++ padRight i.name 20 ++ " start: " ++
    padRight i.start 8 ++ " tape: " ++ padRight i.tape 10 ++ " states: " ++
    padRight (toString i.stateCount) 3 ++ " rules: " ++ toString i.ruleCount ++ "\n"

def listing : String :=
  String.join ((List.range Registry.count).filterMap fun i =>
    (Registry.info i).toOption.map listingLine)

def versionText : String := "tape-machine-cli 0.1.0\n"

def Opt.helpLine : Opt → String
  | .program => "JSON program file to execute [env: TAPE_MACHINE_PROGRAM=]"
  | .builtin => "Name of a built-in program (defaults to the first one)"
  | .tape => "Initial tape contents; prompted for when omitted on a terminal"
  | .maxSteps =>
    "Maximum number of steps; prompted for when omitted on a terminal [env: TAPE_MACHINE_MAX_STEPS=]"
  | .step => "Wait for Enter after every step"
  | .quiet => "Only print the final report"
  | .list => "List the built-in programs and exit"
  | .verbose => "Print debug logs"
  | .help => "Print help"
  | .version => "Print version"

def Opt.spelling (o : Opt) : String :=
  "-" ++ String.singleton o.short ++ ", " ++ o.display

/-- The text printed by `--help`. -/
def helpText : String :=
  let width := (Opt.all.map fun o => o.spelling.length).foldl max 0
  "Command-line driver for the tape-machine automaton interpreter\n\n" ++ usageLine [] ++
    "\n\nOptions:\n" ++
    String.join (Opt.all.map fun o => "  " ++ padRight o.spelling width ++ "  " ++ o.helpLine ++ "\n") ++
    "\nEXAMPLES:\n  tape-machine --tape 10101 --max-steps 100\n" ++
    "  tape-machine --builtin \"Busy beaver 2\" --step\n" ++
    "  tape-machine --program machine.json --quiet\n"

end Cli
end TapeAutomaton
