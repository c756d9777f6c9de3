/-!
# Arguments

What the arguments of the command line ask for. There are two options with a value, which may follow
its option or be joined to it by an equals sign, and flags that ask for the version or for help. An
argument that cannot be understood rejects all of them, unless a flag stands before it.
-/

namespace GuildRelay

/-- How the service is to be run. -/
structure Arguments where
  /-- Where the settings are. -/
  settingsPath : String := "switchboard.toml"
  /-- The name under which events are claimed. -/
  source : String := "gateway"
deriving DecidableEq, Repr

/-- What arguments ask for. -/
inductive CommandRequest where
  | run (a : Arguments)
  | version
  | help
  | rejected
deriving DecidableEq, Repr

namespace CommandRequest

/-- The options that have a value. -/
inductive ValuedOption where
  | settingsPath
  | source
deriving DecidableEq, Repr

/-- The name of an option. -/
def ValuedOption.name : ValuedOption → String
  | settingsPath => "config"
  | source => "source"

/-- The values that were given so far. -/
structure Given where
  settingsPath : Option String := none
  source : Option String := none

namespace Given

/-- The values with another one. An option must not be given twice. -/
def add (g : Given) (value : String) : ValuedOption → Option Given
  | .settingsPath =>
    if g.settingsPath.isSome then none else some { g with settingsPath := some value }
  | .source => if g.source.isSome then none else some { g with source := some value }

/-- The given values, and the standard ones for what was not given. -/
def arguments (g : Given) : Arguments :=
  let standard : Arguments := {}
  ⟨g.settingsPath.getD standard.settingsPath, g.source.getD standard.source⟩

end Given

/-- What a single argument is. -/
inductive Argument where
  /-- An option, with a value if one is joined to it. -/
  | option (o : ValuedOption) (value : Option String)
  | version
  | help
  /-- Nothing but values follows. -/
  | separator
  | unknown

/-- What an argument is when no value is expected. -/
def Argument.ofText (s : String) : Argument :=
  match s.toList with
  | ['-', '-'] => separator
  | '-' :: '-' :: rest =>
    let name := String.ofList (rest.takeWhile (· ≠ '='))
    let joined := match rest.dropWhile (· ≠ '=') with
      | _ :: value => some (String.ofList value)
      | [] => none
    match [ValuedOption.settingsPath, .source].find? fun o => o.name = name with
    | some o => option o joined
    | none =>
      if joined.isSome then unknown
      else if name = "version" then version
      else if name = "help" then help
      else unknown
  | '-' :: 'V' :: _ => version
  | '-' :: 'h' :: _ => help
  | _ => unknown

/-- An argument that is taken for an option where a value is expected. -/
def looksLikeOption (s : String) : Bool :=
  match s.toList with
  | '-' :: _ :: _ => true
  | _ => false

/-- What arguments ask for after others that gave some values. -/
def ofRest (g : Given) : List String → CommandRequest
  | [] => .run g.arguments
  | s :: rest =>
    match Argument.ofText s with
    | .option o (some value) =>
      match g.add value o with
      | some g => ofRest g rest
      | none => .rejected
    | .option o none =>
      match rest with
      | value :: rest =>
        if looksLikeOption value then .rejected
        else
          match g.add value o with
          | some g => ofRest g rest
          | none => .rejected
      | [] => .rejected
    | .version => .version
    | .help => .help
    | .separator => if rest.isEmpty then .run g.arguments else .rejected
    | .unknown => .rejected

/-- What arguments ask for. -/
def ofArguments (arguments : List String) : CommandRequest :=
  ofRest {} arguments

/-- The answer to those who ask for the version. -/
def versionText : String := "switchboard 0.1.0"

end CommandRequest

end GuildRelay
