namespace MeshTrace.Command

/-- An option of a command. -/
structure OptionSpec where
  long : String
  short : Option Char
  /-- Which texts are values of the option; none for an option without value. -/
  value : Option (String → Bool)

/-- What may stand on a command line. -/
structure Spec where
  options : List OptionSpec
  /-- Which texts may stand alone, one after the other. -/
  positionals : List (String → Bool)
  /-- The names after which another command line begins. -/
  subcommands : List String

/-- What stands on a command line. -/
structure Arguments where
  /-- The options by their long names, with their values. -/
  options : List (String × String)
  positionals : List String
  /-- The subcommand, and what stands after it. -/
  subcommand : Option (String × List String)

/-- Why a command line is not carried out. -/
inductive Halt
  /-- It is not understood. -/
  | usage
  /-- It asks for the version. -/
  | version
  /-- It asks for help. -/
  | help
  deriving DecidableEq, Repr

namespace Arguments

def none : Arguments := ⟨[], [], Option.none⟩

def value? (a : Arguments) (long : String) : Option String := a.options.lookup long

def hasFlag (a : Arguments) (long : String) : Bool := (a.value? long).isSome

/-- Adds an option, which must not stand there twice. -/
def addOption (a : Arguments) (o : OptionSpec) (value : String) : Except Halt Arguments :=
  if o.long = "help" then .error .help
  else if o.long = "version" then .error .version
  else if a.hasFlag o.long then .error .usage
  else if (o.value.map (· value)).getD true then
    .ok { a with options := (o.long, value) :: a.options }
  else .error .usage

/-- Adds a text that stands alone. -/
def addPositional (spec : Spec) (a : Arguments) (text : String) : Except Halt Arguments :=
  match spec.positionals[a.positionals.length]? with
  | some accepts =>
    if accepts text then .ok { a with positionals := a.positionals ++ [text] } else .error .usage
  | Option.none => .error .usage

/-- What one argument is. -/
inductive Argument
  /-- The rest stands alone. -/
  | escape
  | subcommand (name : String)
  | long (name : String) (value : Option String)
  | short (letters : List Char)
  | positional (text : String)

/-- Splits at the first equals sign. -/
def splitValue (cs : List Char) : String × Option String :=
  match cs.dropWhile (· != '=') with
  | [] => (String.ofList cs, Option.none)
  | _ :: value => (String.ofList (cs.takeWhile (· != '=')), some (String.ofList value))

def classify (spec : Spec) (arg : String) : Argument :=
  if spec.subcommands.contains arg then .subcommand arg
  else
    match arg.toList with
    | ['-', '-'] => .escape
    | '-' :: '-' :: rest =>
      let (name, value) := splitValue rest
      .long name value
    | '-' :: c :: rest => .short (c :: rest)
    | _ => .positional arg

/-- Whether an argument can be the value of the option before it: it must not look like one. -/
def isValue (arg : String) : Bool := arg = "-" || !arg.startsWith "-"

/-- What one argument leads to: the arguments so far, or an option that still needs a value. -/
inductive Step
  | done (a : Arguments)
  | needs (a : Arguments) (o : OptionSpec)

/-- Reads the letters of options. What follows the letter of an option with value is its value. -/
def addLetters (spec : Spec) (a : Arguments) : List Char → Except Halt Step
  | [] => .ok (.done a)
  | c :: rest =>
    match spec.options.find? (·.short = some c) with
    | Option.none => .error .usage
    | some o =>
      match o.value with
      | Option.none => (a.addOption o "").bind fun a => addLetters spec a rest
      | some _ =>
        match rest with
        | [] => .ok (.needs a o)
        | '=' :: value => (a.addOption o (String.ofList value)).map .done
        | value => (a.addOption o (String.ofList value)).map .done

/-- Reads the long name of an option, and its value if that stands in the same argument. -/
def addLong (spec : Spec) (a : Arguments) (name : String) (value : Option String) :
    Except Halt Step :=
  match spec.options.find? (·.long = name) with
  | Option.none => .error .usage
  | some o =>
    match o.value, value with
    | Option.none, Option.none => (a.addOption o "").map .done
    | Option.none, some _ => .error .usage
    | some _, Option.none => .ok (.needs a o)
    | some _, some value => (a.addOption o value).map .done

/-- Reads what stands alone. -/
def addAlone (spec : Spec) (a : Arguments) : List String → Except Halt Arguments
  | [] => .ok a
  | text :: rest => (a.addPositional spec text).bind fun a => addAlone spec a rest

/-- Reads a command line up to its end or to a subcommand; `pending` is an option that still needs a
value. -/
def readFrom (spec : Spec) (a : Arguments) (pending : Option OptionSpec) :
    List String → Except Halt Arguments
  | [] => if pending.isSome then .error .usage else .ok a
  | arg :: rest =>
    match pending with
    | some o =>
      if isValue arg then (a.addOption o arg).bind fun a => readFrom spec a Option.none rest
      else .error .usage
    | Option.none =>
      let proceed (step : Step) : Except Halt Arguments :=
        match step with
        | .done a => readFrom spec a Option.none rest
        | .needs a o => readFrom spec a (some o) rest
      match classify spec arg with
      | .escape => addAlone spec a rest
      | .subcommand name => .ok { a with subcommand := some (name, rest) }
      | .long name value => (addLong spec a name value).bind proceed
      | .short letters => (addLetters spec a letters).bind proceed
      | .positional text => (a.addPositional spec text).bind fun a => readFrom spec a Option.none rest

/-- Reads a command line. -/
def read (spec : Spec) (args : List String) : Except Halt Arguments :=
  readFrom spec none Option.none args

/-- What becomes of the only text that stands alone, which must be there. -/
def single {β : Type} (a : Arguments) (f : String → β) : Except Halt β :=
  match a.positionals with
  | [text] => .ok (f text)
  | _ => .error .usage

end Arguments

/-- Values of options for paths. -/
def isPath (s : String) : Bool := !s.isEmpty

/-- Values of options for any text. -/
def isText (_ : String) : Bool := true

def helpOption : OptionSpec := ⟨"help", some 'h', none⟩

def versionOption : OptionSpec := ⟨"version", some 'V', none⟩

/-- The option as it is explained to the user. -/
def OptionSpec.usage (o : OptionSpec) : String :=
  "  " ++ (match o.short with | some c => String.ofList ['-', c, ',', ' '] | none => "    ") ++
    "--" ++ o.long ++ if o.value.isSome then " <VALUE>" else ""

/-- The command line as it is explained to the user. -/
def Spec.usage (spec : Spec) (name : String) : String :=
  "Usage: " ++ name ++ " [OPTIONS]" ++
    (if spec.subcommands.isEmpty then "" else " <" ++ "|".intercalate spec.subcommands ++ ">") ++
    "\n\nOptions:\n" ++ "\n".intercalate (spec.options.map OptionSpec.usage)

end MeshTrace.Command
