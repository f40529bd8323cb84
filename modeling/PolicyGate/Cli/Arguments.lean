import PolicyGate.Text.Numeral
import PolicyGate.Text.Split

/-!
The command line. A command is followed by its options, each with a value in the same argument after
an equals sign or in the next one. The value of an option is looked at when the next option comes, or
at the end.
-/
namespace PolicyGate.Cli

inductive Command where
  | start (config : Option String)
  | compile (config : Option String) (table : String) (permissions : List String)
  | token (config : Option String) (subject : String) (permissions : List String)
      (minutes : Option Int)
deriving DecidableEq

/-- Why a command line stands for no command. -/
inductive UsageFault where
  /-- There is no command; help is shown. -/
  | missingCommand
  | help
  | version
  | unknownCommand
  | unknownArgument
  | missingOption
  /-- An option without its value, or an empty path. -/
  | missingValue
  | unexpectedValue
  | badValue
  /-- An option that may be given once is given again. -/
  | repeatedOption
deriving DecidableEq

/-- Asking for help or the version is no error. -/
def UsageFault.exitCode : UsageFault → UInt32
  | .help => 0
  | .version => 0
  | _ => 2

/-- What the value of an option has to be. -/
inductive ValueKind where
  | text
  /-- A path, which is not empty. -/
  | path
  | integer
deriving DecidableEq

structure OptionSpec where
  name : String
  kind : ValueKind := .text
  repeatable : Bool := false
deriving DecidableEq

def configOption : OptionSpec := { name := "config", kind := .path }

def tableOption : OptionSpec := { name := "table" }

def permissionOption : OptionSpec := { name := "permission", repeatable := true }

def subjectOption : OptionSpec := { name := "subject" }

def minutesOption : OptionSpec := { name := "ttl-minutes", kind := .integer }

/-- An argument that is no plain value, by its first characters. -/
inductive Argument where
  /-- Two dashes alone: what follows are no options. -/
  | divider
  | long (name : String) (value : Option String)
  | short (letters : List Char)
  | plain (text : String)
deriving DecidableEq

def Argument.ofString (arg : String) : Argument :=
  match arg.toList with
  | ['-', '-'] => .divider
  | '-' :: '-' :: rest =>
    match Text.cut? '=' rest with
    | some (name, value) => .long (String.ofList name) (some (String.ofList value))
    | none => .long (String.ofList rest) none
  | '-' :: c :: rest => .short (c :: rest)
  | _ => .plain arg

/-- The options read so far with their values, in order, and one whose value is still to be looked
at or to come. -/
structure OptionsRead where
  settled : List (String × String) := []
  pending : Option (OptionSpec × Option String) := none

namespace OptionsRead

/-- The values under the name of an option. -/
def values (r : OptionsRead) (option : OptionSpec) : List String :=
  (r.settled.filter fun (name, _) => name == option.name).map Prod.snd

def checkValue (kind : ValueKind) (value : String) : Except UsageFault Unit :=
  match kind with
  | .text => .ok ()
  | .path => if value.isEmpty then .error .missingValue else .ok ()
  | .integer => if (Text.integer? value.toList).isSome then .ok () else .error .badValue

/-- Looks at the value of an option, if it came. -/
def settle (r : OptionsRead) (option : OptionSpec) (value : Option String) :
    Except UsageFault OptionsRead :=
  match value with
  | none => .error .missingValue
  | some v =>
    if !option.repeatable && !(r.values option).isEmpty then .error .repeatedOption
    else (checkValue option.kind v).map fun _ => ⟨r.settled ++ [(option.name, v)], none⟩

/-- Looks at the value that was still to be looked at. -/
def flush (r : OptionsRead) : Except UsageFault OptionsRead :=
  match r.pending with
  | none => .ok r
  | some (option, value) => settle ⟨r.settled, none⟩ option value

/-- The options of a command in its arguments. -/
def read (options : List OptionSpec) (r : OptionsRead) : List String → Except UsageFault OptionsRead
  | [] => r.flush
  | arg :: rest =>
    match Argument.ofString arg with
    | .divider => if rest.isEmpty then r.flush else .error .unknownArgument
    | .long "help" none => r.flush.bind fun _ => .error .help
    | .long "help" (some _) => .error .unexpectedValue
    | .long name value =>
      match options.find? (·.name == name) with
      | none => .error .unknownArgument
      | some option =>
        match r.flush with
        | .error e => .error e
        | .ok r =>
          match value with
          | none => read options ⟨r.settled, some (option, none)⟩ rest
          | some _ =>
            match r.settle option value with
            | .error e => .error e
            | .ok r => read options r rest
    | .short ('h' :: _) => r.flush.bind fun _ => .error .help
    | .short _ => .error .unknownArgument
    | .plain value =>
      match r.pending with
      | some (option, none) => read options ⟨r.settled, some (option, some value)⟩ rest
      | _ => .error .unknownArgument

end OptionsRead

namespace Command

def usualSubject : String := "rowgate-cli"

def names : List String := ["start", "compile", "token"]

def ofOptions (name : String) (args : List String) : Except UsageFault Command := do
  match name with
  | "start" =>
    let r ← OptionsRead.read [configOption] {} args
    return .start (r.values configOption).head?
  | "compile" =>
    let r ← OptionsRead.read [configOption, tableOption, permissionOption] {} args
    match (r.values tableOption).head? with
    | some table => return .compile (r.values configOption).head? table (r.values permissionOption)
    | none => throw .missingOption
  | "token" =>
    let r ← OptionsRead.read [configOption, subjectOption, permissionOption, minutesOption] {} args
    return .token (r.values configOption).head? ((r.values subjectOption).head?.getD usualSubject)
      (r.values permissionOption) ((r.values minutesOption).head?.bind fun s => Text.integer? s.toList)
  | _ => throw .unknownCommand

/-- Help may be asked for a command by its name, `help` among them. -/
def helpFault : List String → UsageFault
  | [] => .help
  | [name] => if ("help" :: names).contains name then .help else .unknownCommand
  | _ => .unknownCommand

def ofArguments : List String → Except UsageFault Command
  | [] => .error .missingCommand
  | "help" :: rest => .error (helpFault rest)
  | arg :: rest =>
    match Argument.ofString arg with
    | .divider =>
      match rest with
      | [] => .error .missingCommand
      | next :: _ =>
        .error (if ("help" :: names).contains next then .unknownArgument else .unknownCommand)
    | .long "help" value => .error (if value.isSome then .unexpectedValue else .help)
    | .long "version" value => .error (if value.isSome then .unexpectedValue else .version)
    | .long _ _ => .error .unknownArgument
    | .short ('h' :: _) => .error .help
    | .short ('V' :: _) => .error .version
    | .short _ => .error .unknownArgument
    | .plain name => ofOptions name rest

end Command
end PolicyGate.Cli
