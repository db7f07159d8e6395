import TapeAutomaton.StepBudget
import TapeAutomaton.Cli.Similarity
/-!
# Command-line arguments

`parse` reads the arguments of `tape-machine`. Which message a bad command line gets depends
on the order in which the parser notices things, so that order is part of the definition:

* Arguments are read left to right. `--name value`, `--name=value`, `-n value`, `-nvalue` and
  `-n=value` give an option its value; switches may be grouped (`-qs`).
* An option that takes a value and has none attached waits for the next argument, which is
  its value unless it looks like an option itself; `--max-steps` takes any next argument.
* `--` ends the options: every argument after it is a stray one.
* A waiting option is recorded (its value checked, a repetition refused) only when the next
  option or the end arrives. A stray argument or an unknown option reports itself instead,
  whatever recording the waiting option met, and the usage line of an unknown long option
  lists the options given so far, with the suggested one.
* `--program` names a file, and an empty name counts as no value at all.
* A value attached to a switch is refused at once. Its usage line shows the switch, or, when
  an option was given before it, the group of the program's own options (every option but
  `--help` and `--version`) as alternatives, after the switch if it is not in the group.
* `--help` and `--version` stop reading when they are recorded.
* After the last argument, `--program` and `--builtin` must not both have been given.
-/
namespace TapeAutomaton
namespace Cli

/-- The options of the command line, in the order the help lists them. -/
inductive Opt where
  | program
  | builtin
  | tape
  | maxSteps
  | step
  | quiet
  | list
  | verbose
  | help
  | version
  deriving DecidableEq, Repr

namespace Opt

def all : List Opt := [program, builtin, tape, maxSteps, step, quiet, list, verbose, help, version]

def long : Opt → String
  | program => "program"
  | builtin => "builtin"
  | tape => "tape"
  | maxSteps => "max-steps"
  | step => "step"
  | quiet => "quiet"
  | list => "list"
  | verbose => "verbose"
  | help => "help"
  | version => "version"

def short : Opt → Char
  | program => 'p'
  | builtin => 'b'
  | tape => 't'
  | maxSteps => 'm'
  | step => 's'
  | quiet => 'q'
  | list => 'l'
  | verbose => 'v'
  | help => 'h'
  | version => 'V'

def placeholder? : Opt → Option String
  | program => some "PROGRAM"
  | builtin => some "BUILTIN"
  | tape => some "TAPE"
  | maxSteps => some "MAX_STEPS"
  | _ => none

def takesValue (o : Opt) : Bool := o.placeholder?.isSome

def isPath : Opt → Bool
  | program => true
  | _ => false

def isOwn : Opt → Bool
  | help | version => false
  | _ => true

def takesHyphenValues : Opt → Bool
  | maxSteps => true
  | _ => false

def display (o : Opt) : String :=
  match o.placeholder? with
  | some v => "--" ++ o.long ++ " <" ++ v ++ ">"
  | none => "--" ++ o.long

def ofLong? (name : String) : Option Opt := all.find? (·.long == name)

def ofShort? (c : Char) : Option Opt := all.find? (·.short == c)

def rival? : Opt → Option Opt
  | program => some builtin
  | builtin => some program
  | _ => none

end Opt

def ownGroup : String :=
  "<" ++ "|".intercalate ((Opt.all.filter Opt.isOwn).map Opt.display) ++ ">"

def attachedUsage (o : Opt) (given : List Opt) : List String :=
  if given.isEmpty then [o.display]
  else (if o.isOwn then [] else [o.display]) ++ [ownGroup]

/-- What the command line asks for. -/
structure Options where
  program : Option String
  builtin : Option String
  tape : Option String
  budget : Option StepBudget
  step : Bool
  quiet : Bool
  list : Bool
  verbose : Bool
  deriving DecidableEq, Repr

def Options.unset : Options := ⟨none, none, none, none, false, false, false, false⟩

/-- Why the arguments are refused. The options a refusal carries are those its usage line
shows. -/
inductive Refusal where
  /-- A stray argument or an unknown option, with the long name of a similar option. -/
  | unexpected (arg : String) (similar : Option String) (shown : List Opt)
  /-- A value attached to a switch, after the options given so far. -/
  | unneededValue (value : String) (o : Opt) (given : List Opt)
  /-- An option without a value, or a file option with an empty one. -/
  | missingValue (o : Opt)
  | invalidValue (o : Opt) (value : String) (reason : Fault)
  | repeated (o : Opt)
  | conflict (o other : Opt) (shown : List Opt)
  deriving Repr

def usageLine (items : List String) : String :=
  "Usage: tape-machine" ++
    (if items.isEmpty then " [OPTIONS]" else String.join (items.map fun i => " " ++ i))

def moreInformation : String := "\n\nFor more information, try '--help'.\n"

def Refusal.text : Refusal → String
  | .unexpected arg similar shown =>
    "error: unexpected argument '" ++ arg ++ "' found\n" ++
      (match similar with
       | some s => "\n  tip: a similar argument exists: '--" ++ s ++ "'\n"
       | none => "") ++
      "\n" ++ usageLine (shown.map Opt.display) ++ moreInformation
  | .unneededValue value o given =>
    "error: unexpected value '" ++ value ++ "' for '" ++ o.display ++
      "' found; no more were expected\n\n" ++ usageLine (attachedUsage o given) ++ moreInformation
  | .missingValue o =>
    "error: a value is required for '" ++ o.display ++ "' but none was supplied" ++ moreInformation
  | .invalidValue o value reason =>
    "error: invalid value '" ++ value ++ "' for '" ++ o.display ++ "': " ++ reason.message ++
      moreInformation
  | .repeated o =>
    "error: the argument '" ++ o.display ++ "' cannot be used multiple times\n\n" ++
      usageLine [] ++ moreInformation
  | .conflict o other shown =>
    "error: the argument '" ++ o.display ++ "' cannot be used with '" ++ other.display ++ "'\n\n" ++
      usageLine (shown.map Opt.display) ++ moreInformation

/-- How reading the arguments ends before a run. -/
inductive Stop where
  | refuse (r : Refusal)
  | help
  | version
  deriving Repr

/-- What reading has recorded: the options, and which were given, in the order they were
first recorded. -/
structure Parsed where
  options : Options
  given : List Opt
  deriving Repr

abbrev Pending := Option (Opt × Option String)

def Options.set (x : Options) (o : Opt) (value : String) : Except Fault Options :=
  match o with
  | .program => .ok { x with program := some value }
  | .builtin => .ok { x with builtin := some value }
  | .tape => .ok { x with tape := some value }
  | .maxSteps => (StepBudget.parse value).map fun b => { x with budget := some b }
  | .step => .ok { x with step := true }
  | .quiet => .ok { x with quiet := true }
  | .list => .ok { x with list := true }
  | .verbose => .ok { x with verbose := true }
  | .help | .version => .ok x

def record (p : Parsed) (o : Opt) (value : Option String) : Parsed × Option Stop :=
  if o.takesValue && value.isNone then (p, some (.refuse (.missingValue o)))
  else if o = .help then (p, some .help)
  else if o = .version then (p, some .version)
  else if p.given.contains o then (⟨p.options, p.given.erase o⟩, some (.refuse (.repeated o)))
  else
    let given := p.given ++ [o]
    let v := value.getD ""
    if o.isPath && v.isEmpty then (⟨p.options, given⟩, some (.refuse (.missingValue o)))
    else
      match p.options.set o v with
      | .ok x => (⟨x, given⟩, none)
      | .error f => (⟨p.options, given⟩, some (.refuse (.invalidValue o v f)))

def settle (p : Parsed) : Pending → Parsed × Option Stop
  | none => (p, none)
  | some (o, v) => record p o v

def take (p : Parsed) (pending : Pending) (o : Opt) (value : Option String) : Except Stop Parsed :=
  match settle p pending with
  | (_, some s) => .error s
  | (p, none) =>
    match record p o value with
    | (_, some s) => .error s
    | (p, none) => .ok p

def readGroup (p : Parsed) (pending : Pending) : List Char → Except Stop (Parsed × Pending)
  | [] => .ok (p, pending)
  | c :: rest =>
    match Opt.ofShort? c with
    | none => .error (.refuse (.unexpected ("-" ++ c.toString) none []))
    | some o =>
      if !o.takesValue then
        match take p pending o none with
        | .ok p => readGroup p none rest
        | .error s => .error s
      else if rest.isEmpty then
        match settle p pending with
        | (_, some s) => .error s
        | (p, none) => .ok (p, some (o, none))
      else
        let value := match rest with
          | '=' :: v => String.ofList v
          | v => String.ofList v
        match take p pending o (some value) with
        | .ok p => .ok (p, none)
        | .error s => .error s

def unknownLong (p : Parsed) (pending : Pending) (name : String) : Stop :=
  let given := (settle p pending).1.given
  let similar := Cli.closest name (Opt.all.map Opt.long)
  let shown := match similar.bind Opt.ofLong? with
    | some o => if given.contains o then given else given ++ [o]
    | none => given
  .refuse (.unexpected ("--" ++ name) similar shown)

def splitAttached (body : List Char) : String × Option String :=
  match body.span (· != '=') with
  | (name, []) => (String.ofList name, none)
  | (name, _ :: value) => (String.ofList name, some (String.ofList value))

def finish (p : Parsed) (pending : Pending) : Except Stop Parsed :=
  match settle p pending with
  | (_, some s) => .error s
  | (p, none) =>
    let clash := p.given.findSome? fun o =>
      (Opt.rival? o).bind fun r => if p.given.contains r then some (o, r) else none
    match clash with
    | some (o, r) => .error (.refuse (.conflict o r (p.given.filter (· != r))))
    | none => .ok p

/-- Reads the arguments from the state `p`, with `pending` waiting for a value and `ended`
telling whether `--` was read. -/
def scan (p : Parsed) (pending : Pending) (ended : Bool) : List String → Except Stop Parsed
  | [] => finish p pending
  | a :: rest =>
    let waiting : Option Opt := match pending with
      | some (o, none) => some o
      | _ => none
    let hyphenValue := (waiting.map Opt.takesHyphenValues).getD false
    let stray : Except Stop Parsed := .error (.refuse (.unexpected a none []))
    let asValue : Except Stop Parsed := match waiting with
      | some o => scan p (some (o, some a)) false rest
      | none => stray
    if ended then stray
    else if hyphenValue then asValue
    else
      match a.toList with
      | ['-', '-'] => scan p pending true rest
      | '-' :: '-' :: body =>
        let (name, value) := splitAttached body
        match Opt.ofLong? name, value with
        | none, _ => .error (unknownLong p pending name)
        | some o, some v =>
          if o.takesValue then
            match take p pending o (some v) with
            | .ok p => scan p none false rest
            | .error s => .error s
          else .error (.refuse (.unneededValue v o p.given))
        | some o, none =>
          if o.takesValue then
            match settle p pending with
            | (_, some s) => .error s
            | (p, none) => scan p (some (o, none)) false rest
          else
            match take p pending o none with
            | .ok p => scan p none false rest
            | .error s => .error s
      | '-' :: c :: group =>
        match readGroup p pending (c :: group) with
        | .ok (p, pending) => scan p pending false rest
        | .error s => .error s
      | _ => asValue

/-- The options a command line asks for, or why it stops before a run. -/
def parse (args : List String) : Except Stop Options :=
  (scan ⟨Options.unset, []⟩ none false args).map (·.options)

end Cli
end TapeAutomaton
