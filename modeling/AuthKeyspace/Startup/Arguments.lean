import AuthKeyspace.Text.Integer

/-!
# The command line

The command knows three options: help, the path of a node config and a number of copies. A long
option can be cut short as long as it is clear which one is meant, and takes its value behind an
equals sign or as the next argument; the last one of a kind wins. What begins with a hyphen is an
option, unless it is a hyphen alone, a negative number or has a space in it; behind two hyphens
nothing is an option. Two hyphens behind the equals sign of an option are no value either, though
the option is there. The command takes nothing but options.

First every argument is sorted, then they are taken in order. Help ends that at once, and so does a
value that is missing, not a number or not wanted; what is left over is told at the end.
-/

namespace AuthKeyspace.Startup

/-- The options of the command. -/
inductive Switch
  | help
  | config
  | factor
deriving DecidableEq, Repr

namespace Switch

/-- All options. -/
def all : List Switch := [.help, .config, .factor]

/-- An option as it is written. -/
def text : Switch → String
  | .help => "--help"
  | .config => "--config"
  | .factor => "--replication-factor"

/-- An option as messages name it. -/
def shown : Switch → String
  | .help => "-h/--help"
  | s => s.text

end Switch

/-- Why a command line is refused. -/
inductive UsageError
  | ambiguous (argument : String)
  | unwantedValue (switch : Switch) (value : String)
  | missingValue (switch : Switch)
  | notANumber (switch : Switch) (value : String)
  | unrecognized (arguments : List String)
deriving DecidableEq, Repr

/-- What is said of a command line that is refused. -/
def UsageError.message : UsageError → String
  | .ambiguous argument =>
    let options := ", ".intercalate (Switch.all.map (·.text))
    "ambiguous option: " ++ argument ++ " could match " ++ options
  | .unwantedValue s value =>
    "argument " ++ s.shown ++ ": ignored explicit argument " ++ Text.quoted value
  | .missingValue s => "argument " ++ s.shown ++ ": expected one argument"
  | .notANumber s value => "argument " ++ s.shown ++ ": invalid int value: " ++ Text.quoted value
  | .unrecognized arguments => "unrecognized arguments: " ++ " ".intercalate arguments

/-! ## Sorting arguments -/

/-- What an argument is: an option, perhaps with a value behind an equals sign; help asked for with
one hyphen, with what comes behind the letter; an option that is not known; the two hyphens behind
which nothing is an option; or something else. -/
inductive Form
  | switch (switch : Switch) (value? : Option String)
  | shortHelp (equals : Bool) (rest : List Char)
  | unknown
  | terminator
  | operand
deriving DecidableEq, Repr

/-- Is every character a digit, and is there one? -/
def isNumeral (cs : List Char) : Bool := !cs.isEmpty && cs.all fun c => (Text.digitValue? c).isSome

/-- Is this a number behind a hyphen: digits, or digits with a point before the last of them? -/
def isNegativeNumber : List Char → Bool
  | '-' :: rest =>
    let rest := if rest.getLast? = some '\n' then rest.dropLast else rest
    let whole := rest.takeWhile (· != '.')
    isNumeral rest ||
      (whole.all (fun c => (Text.digitValue? c).isSome) &&
        (match rest.drop whole.length with
          | '.' :: behind => isNumeral behind
          | _ => false))
  | _ => false

/-- An argument with two hyphens: what it is, if it is an option. -/
def longForm? (argument : String) : Except UsageError (Option Form) :=
  let cs := argument.toList
  let word := String.ofList (cs.takeWhile (· != '='))
  let value? :=
    match cs.drop word.length with
    | '=' :: value => some (String.ofList value)
    | _ => none
  match Switch.all.filter fun s => s.text.startsWith word with
  | [] => .ok none
  | [s] => .ok (some (.switch s value?))
  | _ => .error (.ambiguous argument)

/-- What an argument that is no option is. -/
def otherForm (argument : String) : Form :=
  if isNegativeNumber argument.toList || argument.toList.contains ' ' then .operand else .unknown

/-- What an argument is. -/
def formOf (argument : String) : Except UsageError Form :=
  match argument.toList with
  | '-' :: '-' :: _ => do return (← longForm? argument).getD (otherForm argument)
  | ['-', 'h'] => .ok (.switch .help none)
  | '-' :: 'h' :: '=' :: rest => .ok (.shortHelp true rest)
  | '-' :: 'h' :: rest => .ok (.shortHelp false rest)
  | '-' :: _ :: _ => .ok (otherForm argument)
  | _ => .ok .operand

/-- Sort all arguments. -/
def sortArguments : List String → Except UsageError (List (Form × String))
  | [] => .ok []
  | "--" :: rest => .ok ((.terminator, "--") :: rest.map fun a => (.operand, a))
  | a :: rest => do
    let form ← formOf a
    let forms ← sortArguments rest
    return (form, a) :: forms

/-! ## Taking arguments -/

/-- What an option that is there gives: a value or nothing. -/
inductive Given (α : Type)
  | value (value : α)
  | nothing
deriving DecidableEq, Repr

/-- What a command line asks for. -/
structure Arguments where
  config? : Option (Given String) := none
  factor? : Option (Given Int) := none
deriving DecidableEq, Repr

/-- A command line that is understood. -/
inductive Request
  | help
  | describe (arguments : Arguments)
deriving DecidableEq, Repr

/-- Take the value of an option. -/
def Arguments.set (arguments : Arguments) (s : Switch) (value : String) :
    Except UsageError Arguments :=
  match s with
  | .help => .error (.unwantedValue .help value)
  | .config => .ok { arguments with config? := some (.value value) }
  | .factor =>
    match Text.readInteger value with
    | .ok n => .ok { arguments with factor? := some (.value n) }
    | .error _ => .error (.notANumber .factor value)

/-- Take an option that gives nothing. -/
def Arguments.setNothing (arguments : Arguments) (s : Switch) (value : String) :
    Except UsageError Arguments :=
  match s with
  | .help => .error (.unwantedValue .help value)
  | .config => .ok { arguments with config? := some .nothing }
  | .factor => .ok { arguments with factor? := some .nothing }

/-- What comes behind the letter for help: nothing but the same letter again. -/
def checkShortHelp (equals : Bool) (behind : List Char) : Except UsageError Unit :=
  let rest := behind.dropWhile (· == 'h')
  if rest.isEmpty && !(equals && behind.isEmpty) then .ok ()
  else .error (.unwantedValue .help (String.ofList rest))

/-- Take the sorted arguments in order, `left` being what was left over. -/
def takeAll (arguments : Arguments) (left : List String) :
    List (Form × String) → Except UsageError Request
  | [] => if left.isEmpty then .ok (.describe arguments) else .error (.unrecognized left.reverse)
  | (.switch .help none, _) :: _ => .ok .help
  | (.switch s (some "--"), _) :: rest => do takeAll (← arguments.setNothing s "--") left rest
  | (.switch s (some value), _) :: rest => do takeAll (← arguments.set s value) left rest
  | (.switch s none, _) :: (.operand, value) :: rest => do
    takeAll (← arguments.set s value) left rest
  | (.switch s none, _) :: _ => .error (.missingValue s)
  | (.shortHelp equals behind, _) :: _ => do
    checkShortHelp equals behind
    return .help
  | (.unknown, a) :: rest | (.terminator, a) :: rest | (.operand, a) :: rest =>
    takeAll arguments (a :: left) rest

/-- Understand a command line. -/
def parse (arguments : List String) : Except UsageError Request := do
  takeAll {} [] (← sortArguments arguments)

/-! ## Texts -/

/-- How the command is used. -/
def usage : String :=
  "usage: describe [-h] [--config CONFIG]\n" ++
    "                [--replication-factor REPLICATION_FACTOR]\n"

/-- What the command has to tell about itself. -/
def helpText : String :=
  usage ++
    "\nDescribe the auth keyspace schema as CQL.\n" ++
    "\noptions:\n" ++
    "  -h, --help            show this help message and exit\n" ++
    "  --config CONFIG       Path to the YAML node config.\n" ++
    "  --replication-factor REPLICATION_FACTOR\n" ++
    "                        Override the configured default keyspace replication\n" ++
    "                        factor.\n"

/-- What is written about a command line that is refused. -/
def UsageError.report (e : UsageError) : String := usage ++ "describe: error: " ++ e.message ++ "\n"

end AuthKeyspace.Startup
