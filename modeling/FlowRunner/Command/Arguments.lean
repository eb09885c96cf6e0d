import FlowRunner.Text.Cut

/-!
# Arguments of the command line

A command is a word with its arguments and options. Options start with one dash and a letter or with
two dashes and a name; an option with a value takes it after an equals sign, right after its letter,
or from the next argument, which then may not look like an option. After two dashes alone nothing is
an option. An option may be given once, unless it collects its values.
-/

namespace FlowRunner

/-- A command with what it is given. -/
inductive Command
  | run (file : String) (params : List String) (paramsFile config : Option String)
  | runDirectory (directory : String) (config : Option String) (failFast : Bool)
  | list (directory : String)
  | validate (path : String)
  | version
  | help
  deriving DecidableEq, Repr

namespace Arguments

/-- An option: its name, its letter, whether it takes a value, and whether it may be given again. -/
structure OptionForm where
  name : String
  letter : Option Char
  valued : Bool
  again : Bool

/-- What was found among arguments: options with their values, the others in order. -/
structure Found where
  options : List (String × String)
  others : List String

/-- Nothing found. -/
def Found.none : Found := ⟨[], []⟩

/-- Adds an option; none when it may not be given again. -/
def Found.with? (found : Found) (form : OptionForm) (value : String) : Option Found :=
  if !form.again && (found.options.lookup form.name).isSome then Option.none
  else some { found with options := found.options ++ [(form.name, value)] }

/-- Whether an argument looks like an option. -/
def looksLikeOption (arg : String) : Bool :=
  arg.startsWith "-" && arg != "-"

/-- The value that the next argument gives, and the arguments after it. -/
def nextValue? : List String → Option (String × List String)
  | [] => none
  | arg :: rest => if looksLikeOption arg then none else some (arg, rest)

/-- Reads letters of options after one dash. The last one may take a value: from the rest of the
letters, or from the next argument. -/
def letters? (forms : List OptionForm) (found : Found) :
    List Char → List String → Option (Found × List String)
  | [], rest => some (found, rest)
  | c :: more, rest =>
    match forms.find? fun form => form.letter == some c with
    | none => none
    | some form =>
      if form.valued then
        match more with
        | [] => do
          let (value, rest) ← nextValue? rest
          let found ← found.with? form value
          some (found, rest)
        | '=' :: value => (found.with? form (String.ofList value)).map fun found => (found, rest)
        | value => (found.with? form (String.ofList value)).map fun found => (found, rest)
      else do
        let found ← found.with? form ""
        letters? forms found more rest

/-- Reads an option by its name, with the value after its equals sign or in the next argument. -/
def named? (forms : List OptionForm) (found : Found) (text : List Char) (rest : List String) :
    Option (Found × List String) := do
  let (name, value) :=
    match Text.cut? '=' text with
    | some (name, value) => (name, some (String.ofList value))
    | none => (text, none)
  let form ← forms.find? fun form => form.name == String.ofList name
  if form.valued then
    match value with
    | some value =>
      let found ← found.with? form value
      some (found, rest)
    | none =>
      let (value, rest) ← nextValue? rest
      let found ← found.with? form value
      some (found, rest)
  else if value.isSome then none
  else
    let found ← found.with? form ""
    some (found, rest)

/-- Reads arguments. Every round takes at least one of them, so that their number bounds the rounds.
-/
def read? (forms : List OptionForm) : (rounds : Nat) → Found → List String → Option Found
  | _, found, [] => some found
  | 0, _, _ :: _ => none
  | rounds + 1, found, arg :: rest =>
    match arg.toList with
    | ['-', '-'] => some { found with others := found.others ++ rest }
    | '-' :: '-' :: text => do
      let (found, rest) ← named? forms found text rest
      read? forms rounds found rest
    | '-' :: c :: more => do
      let (found, rest) ← letters? forms found (c :: more) rest
      read? forms rounds found rest
    | _ => read? forms rounds { found with others := found.others ++ [arg] } rest

/-! ## Commands -/

/-- The option that every command knows. -/
def verbose : OptionForm := ⟨"verbose", some 'v', false, false⟩

/-- The option that asks for help. -/
def helpOption : OptionForm := ⟨"help", some 'h', false, true⟩

/-- The option that names a configuration. -/
def config : OptionForm := ⟨"config", some 'c', true, false⟩

/-- The one argument besides the options. -/
def single? (found : Found) : Option String :=
  match found.others with
  | [arg] => if arg.isEmpty then none else some arg
  | _ => none

/-- The path that an option gives; it may not be empty. -/
def path? (found : Found) (name : String) : Option (Option String) :=
  match found.options.lookup name with
  | some "" => none
  | value => some value

/-- Whether an option is given. -/
def has (found : Found) (name : String) : Bool :=
  (found.options.lookup name).isSome

/-- The command of a word with its arguments. -/
def command? (word : String) (args : List String) : Option Command := do
  let find (forms : List OptionForm) : Option Found :=
    read? (verbose :: helpOption :: forms) args.length .none args
  match word with
  | "run" =>
    let found ← find [⟨"param", some 'p', true, true⟩, ⟨"params-file", none, true, false⟩, config]
    if has found "help" then some .help
    else
      let file ← single? found
      let paramsFile ← path? found "params-file"
      let configFile ← path? found "config"
      let params := (found.options.filter fun option => option.1 == "param").map Prod.snd
      some (.run file params paramsFile configFile)
  | "run-dir" =>
    let found ← find [config, ⟨"fail-fast", some 'f', false, false⟩]
    if has found "help" then some .help
    else
      let directory ← single? found
      let configFile ← path? found "config"
      some (.runDirectory directory configFile (has found "fail-fast"))
  | "list" =>
    let found ← find []
    if has found "help" then some .help else (single? found).map .list
  | "validate" =>
    let found ← find []
    if has found "help" then some .help else (single? found).map .validate
  | "help" => some .help
  | _ => none

/-- Reads the letters of options before a command. -/
def leadingLetters? : (verbose : Bool) → List Char → Option (Sum Command Bool)
  | verbose, [] => some (.inr verbose)
  | verbose, c :: rest =>
    if c = 'V' then some (.inl .version)
    else if c = 'h' then some (.inl .help)
    else if c = 'v' && !verbose then leadingLetters? true rest
    else none

/-- The command that arguments give; none when they do not make sense. -/
def commandAfter? : (verbose : Bool) → List String → Option Command
  | _, [] => none
  | verbose, arg :: rest =>
    match arg with
    | "--version" => some .version
    | "--help" => some .help
    | "--verbose" => if verbose then none else commandAfter? true rest
    | _ =>
      if looksLikeOption arg then
        if arg.startsWith "--" then none
        else
          match leadingLetters? verbose (arg.toList.drop 1) with
          | some (.inl command) => some command
          | some (.inr verbose) => commandAfter? verbose rest
          | none => none
      else command? arg rest

/-- The command that arguments give; none when they do not make sense. -/
def parse? (args : List String) : Option Command :=
  commandAfter? false args

end Arguments

end FlowRunner
