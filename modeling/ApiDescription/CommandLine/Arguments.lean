import ApiDescription.Generate

namespace ApiDescription.CommandLine

-- The settings that take a value.
inductive Setting where
  | input
  | output
  | format
deriving DecidableEq, Repr

def Setting.name : Setting → String
  | input => "--input"
  | output => "--output"
  | format => "--format"

-- What is wrong with a command line.
inductive UsageError where
  | noCommand
  | unexpected (argument : String)
  | noValue (setting : Setting)
  | repeated (setting : Setting)
  | unknownFormat (text : String)
  | noInput
deriving DecidableEq, Repr

def UsageError.message : UsageError → String
  | noCommand => "a command is needed"
  | unexpected argument => "unexpected argument '" ++ argument ++ "'"
  | noValue setting => "a value is needed for '" ++ setting.name ++ "'"
  | repeated setting => "'" ++ setting.name ++ "' cannot be given twice"
  | unknownFormat text => "'" ++ text ++ "' is no format, try json or yaml"
  | noInput => "'--input' is needed"

-- The variables that a run is sensitive to.
structure Environment where
  input : Option String := none
  output : Option String := none
  log : Option String := none

-- What a command line asks for.
inductive Order where
  | generate (request : Request) (verbosity : Nat)
  | help
  | version
deriving DecidableEq, Repr

structure Draft where
  input : Option String := none
  output : Option String := none
  format : Option Format := none
  verbosity : Nat := 0

def fileName (setting : Setting) (value : String) : Except UsageError String :=
  if value = "" then .error (.noValue setting) else .ok value

namespace Draft

-- Every setting can be given once.
def set (d : Draft) (setting : Setting) (value : String) : Except UsageError Draft :=
  match setting with
  | .input =>
    if d.input.isSome then .error (.repeated .input)
    else (fun name => { d with input := some name }) <$> fileName .input value
  | .output =>
    if d.output.isSome then .error (.repeated .output)
    else (fun name => { d with output := some name }) <$> fileName .output value
  | .format =>
    if d.format.isSome then .error (.repeated .format)
    else match Entries.get? Format.names value with
      | some format => .ok { d with format := some format }
      | none => .error (.unknownFormat value)

def raise (d : Draft) : Draft := { d with verbosity := d.verbosity + 1 }

-- What was not given comes from the environment.
def order (d : Draft) (environment : Environment) (outer : Nat) : Except UsageError Order := do
  let input ← match d.input with
    | some input => .ok (some input)
    | none => environment.input.mapM (fileName .input)
  let output ← match d.output with
    | some output => .ok (some output)
    | none => environment.output.mapM (fileName .output)
  match input with
  | none => .error .noInput
  | some input =>
    return .generate { input, output, format := d.format }
      (if d.verbosity = 0 then outer else d.verbosity)

end Draft

-- One argument in the parts that can be told apart.
inductive Shape where
  | marker
  | long (name : List Char) (value : Option String)
  | short (letters : List Char)
  | plain (text : String)

def shape (argument : String) : Shape :=
  match argument.toList with
  | ['-', '-'] => .marker
  | '-' :: '-' :: rest =>
    let name := rest.takeWhile (· ≠ '=')
    match rest.drop name.length with
    | '=' :: value => .long name (some (String.ofList value))
    | _ => .long name none
  | '-' :: c :: rest => .short (c :: rest)
  | _ => .plain argument

-- How letters after one dash end: they were all flags, or one of them wants help or a value.
inductive LettersEnd where
  | done
  | help
  | value (setting : Setting) (attached : Option String)

def attached : List Char → Option String
  | [] => none
  | '=' :: value => some (String.ofList value)
  | value => some (String.ofList value)

def readLetters (argument : String) : List Char → Draft → Except UsageError (Draft × LettersEnd)
  | [], d => .ok (d, .done)
  | 'v' :: rest, d => readLetters argument rest d.raise
  | 'h' :: _, d => .ok (d, .help)
  | 'i' :: rest, d => .ok (d, .value .input (attached rest))
  | 'o' :: rest, d => .ok (d, .value .output (attached rest))
  | _ :: _, _ => .error (.unexpected argument)

def longSetting? (name : List Char) : Option Setting :=
  [Setting.input, .output, .format].find? fun s => s.name.toList = '-' :: '-' :: name

-- The arguments after the command; none if they want help. `pending` is a setting that waits for
-- its value.
def readOptions (pending : Option Setting) : List String → Draft → Except UsageError (Option Draft)
  | [], d =>
    match pending with
    | some setting => .error (.noValue setting)
    | none => .ok (some d)
  | argument :: rest, d =>
    match pending, shape argument with
    | some setting, .plain value => do readOptions none rest (← d.set setting value)
    | some setting, _ => .error (.noValue setting)
    | none, .marker =>
      match rest with
      | [] => .ok (some d)
      | extra :: _ => .error (.unexpected extra)
    | none, .long name value =>
      match longSetting? name, value with
      | some setting, some value => do readOptions none rest (← d.set setting value)
      | some setting, none => readOptions (some setting) rest d
      | none, some _ => .error (.unexpected argument)
      | none, none =>
        if name = "verbose".toList then readOptions none rest d.raise
        else if name = "help".toList then .ok none
        else .error (.unexpected argument)
    | none, .short letters => do
      match ← readLetters argument letters d with
      | (d, .done) => readOptions none rest d
      | (_, .help) => .ok none
      | (d, .value setting none) => readOptions (some setting) rest d
      | (d, .value setting (some value)) => do readOptions none rest (← d.set setting value)
    | none, .plain text => .error (.unexpected text)

-- Help can be wanted on any command.
def readHelp : List String → Except UsageError Order
  | [] | ["generate"] | ["help"] => .ok .help
  | "generate" :: extra :: _ | "help" :: extra :: _ => .error (.unexpected extra)
  | extra :: _ => .error (.unexpected extra)

-- The flags before the command.
def readFlags (argument : String) : List Char → Nat → Except UsageError (Nat ⊕ Order)
  | [], verbosity => .ok (.inl verbosity)
  | 'v' :: rest, verbosity => readFlags argument rest (verbosity + 1)
  | 'h' :: _, _ => .ok (.inr .help)
  | 'V' :: _, _ => .ok (.inr .version)
  | _ :: _, _ => .error (.unexpected argument)

def readCommand (environment : Environment) : List String → Nat → Except UsageError Order
  | [], _ => .error .noCommand
  | argument :: rest, verbosity =>
    match shape argument with
    | .plain "generate" => do
      match ← readOptions none rest {} with
      | some draft => draft.order environment verbosity
      | none => return .help
    | .plain "help" => readHelp rest
    | .long name none =>
      if name = "verbose".toList then readCommand environment rest (verbosity + 1)
      else if name = "help".toList then .ok .help
      else if name = "version".toList then .ok .version
      else .error (.unexpected argument)
    | .short letters => do
      match ← readFlags argument letters verbosity with
      | .inl verbosity => readCommand environment rest verbosity
      | .inr order => return order
    | _ => .error (.unexpected argument)

-- What the arguments of a run ask for.
def order (arguments : List String) (environment : Environment) : Except UsageError Order :=
  readCommand environment arguments 0

end ApiDescription.CommandLine
