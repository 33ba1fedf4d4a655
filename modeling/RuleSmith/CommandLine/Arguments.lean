namespace RuleSmith.CommandLine

inductive Command
  | compile (request : String) (allowWarnings : Bool)
  | render (request : String)
  | recover (name condition : String) (json : Bool)
  | sanitize (raw : String)
deriving DecidableEq

inductive Topic
  | program
  | compile
  | render
  | recover
  | sanitize
  | help
deriving DecidableEq

inductive Invocation
  | version
  | help (topic : Topic)
  | run (directory : Option String) (command : Command)
deriving DecidableEq

inductive Argument
  | separator
  | long (name : String) (value : Option String)
  | short (letters : List Char)
  | plain (text : String)
deriving DecidableEq

def Argument.ofString (text : String) : Argument :=
  match text.toList with
  | ['-', '-'] => .separator
  | '-' :: '-' :: rest =>
    match rest.dropWhile (· ≠ '=') with
    | _ :: value => .long (String.ofList (rest.takeWhile (· ≠ '='))) (some (String.ofList value))
    | [] => .long (String.ofList rest) none
  | '-' :: c :: rest => .short (c :: rest)
  | _ => .plain text

def attached : List Char → Option String
  | [] => none
  | '=' :: value => some (String.ofList value)
  | value => some (String.ofList value)

inductive Known
  | flag
  | value
  | help
  | version
deriving DecidableEq

structure OptionSpec where
  long : String
  short : Option Char
  known : Known
deriving DecidableEq

def helpOption : OptionSpec := ⟨"help", some 'h', .help⟩

structure Given where
  flags : List String
  values : List (String × String)
  plain : List String
deriving DecidableEq, Inhabited

inductive Outcome
  | version
  | help
  | given (given : Given)
deriving DecidableEq

def Given.addValue (given : Given) (name value : String) : Option Given :=
  if (given.values.lookup name).isSome then none
  else some { given with values := given.values ++ [(name, value)] }

def Given.addFlag (given : Given) (name : String) : Option Given :=
  if given.flags.contains name then none else some { given with flags := given.flags ++ [name] }

inductive Progress
  | stop (outcome : Outcome)
  | next (given : Given)
  | awaiting (name : String) (given : Given)
deriving DecidableEq

def takeOption (option : OptionSpec) (value : Option String) (given : Given) : Option Progress :=
  match option.known, value with
  | .value, some value => (given.addValue option.long value).map .next
  | .value, none => some (.awaiting option.long given)
  | .flag, none => (given.addFlag option.long).map .next
  | .help, none => some (.stop .help)
  | .version, none => some (.stop .version)
  | _, some _ => none

def takeShort (options : List OptionSpec) : List Char → Given → Option Progress
  | [], given => some (.next given)
  | letter :: rest, given =>
    match options.find? fun option => option.short = some letter with
    | none => none
    | some option =>
      match option.known with
      | .value => takeOption option (attached rest) given
      | _ =>
        match takeOption option none given with
        | some (.next given) => takeShort options rest given
        | other => other

def takeArgument (options : List OptionSpec) (argument : Argument) (given : Given) :
    Option Progress :=
  match argument with
  | .long name value =>
    match options.find? fun option => option.long = name with
    | none => none
    | some option => takeOption option value given
  | .short letters => takeShort options letters given
  | .separator | .plain _ => none

def takePlain (most : Nat) (given : Given) (arguments : List String) : Option Given :=
  let plain := given.plain ++ arguments
  if plain.length ≤ most then some { given with plain } else none

def readArguments (options : List OptionSpec) (most : Nat) :
    List String → Given → Option Outcome
  | [], given => some (.given given)
  | argument :: rest, given =>
    match Argument.ofString argument with
    | .separator => (takePlain most given rest).map .given
    | .plain text =>
      match takePlain most given [text] with
      | none => none
      | some given => readArguments options most rest given
    | option =>
      match takeArgument options option given with
      | none => none
      | some (.stop outcome) => some outcome
      | some (.next given) => readArguments options most rest given
      | some (.awaiting name given) =>
        match rest with
        | [] => none
        | value :: rest =>
          match Argument.ofString value with
          | .plain value =>
            match given.addValue name value with
            | none => none
            | some given => readArguments options most rest given
          | _ => none

def commandOf (name : String) (given : Given) : Option Command :=
  match name, given.plain with
  | "compile", [request] =>
    if request.isEmpty then none
    else some (.compile request (given.flags.contains "allow-warnings"))
  | "render", [request] => if request.isEmpty then none else some (.render request)
  | "recover", [rule] =>
    (given.values.lookup "condition").map fun condition =>
      .recover rule condition (given.flags.contains "json")
  | "sanitize", [raw] => some (.sanitize raw)
  | _, _ => none

def commandOptions : String → Option (List OptionSpec)
  | "compile" => some [helpOption, ⟨"allow-warnings", none, .flag⟩]
  | "render" => some [helpOption]
  | "recover" => some [helpOption, ⟨"condition", some 'c', .value⟩, ⟨"json", none, .flag⟩]
  | "sanitize" => some [helpOption]
  | _ => none

def Topic.ofName? : String → Option Topic
  | "compile" => some .compile
  | "render" => some .render
  | "recover" => some .recover
  | "sanitize" => some .sanitize
  | "help" => some .help
  | _ => none

def Topic.ofArguments? : List String → Option Topic
  | [] => some .program
  | [name] => Topic.ofName? name
  | _ => none

def readCommand (directory : Option String) (name : String) (rest : List String) :
    Option Invocation :=
  if name = "help" then (Topic.ofArguments? rest).map .help
  else
    match commandOptions name with
    | none => none
    | some options =>
      match readArguments options 1 rest default with
      | none => none
      | some .version => some .version
      | some .help => (Topic.ofName? name).map .help
      | some (.given given) => (commandOf name given).map (.run directory)

def programOptions : List OptionSpec :=
  [helpOption, ⟨"version", some 'V', .version⟩, ⟨"rules-dir", some 'r', .value⟩]

def hasEmptyDirectory (given : Given) : Bool := given.values.lookup "rules-dir" = some ""

def readInvocation : List String → Given → Option Invocation
  | [], _ => none
  | argument :: rest, given =>
    match Argument.ofString argument with
    | .separator => none
    | .plain name => readCommand (given.values.lookup "rules-dir") name rest
    | option =>
      match takeArgument programOptions option given with
      | none => none
      | some (.stop .version) => some .version
      | some (.stop _) => some (.help .program)
      | some (.next given) => if hasEmptyDirectory given then none else readInvocation rest given
      | some (.awaiting name given) =>
        match rest with
        | [] => none
        | value :: rest =>
          match Argument.ofString value with
          | .plain value =>
            match given.addValue name value with
            | none => none
            | some given =>
              if hasEmptyDirectory given then none else readInvocation rest given
          | _ => none

def Invocation.ofArguments (arguments : List String) : Option Invocation :=
  readInvocation arguments default

end RuleSmith.CommandLine
