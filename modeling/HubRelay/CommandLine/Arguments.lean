import HubRelay.Settings.Toml

/-!
# Arguments

The command line names an action, a snapshot and options. Options may stand before and after the
snapshot. A long option takes its value after an equals sign or as the next argument, a short one
also right after its letter; `--keyword-types` alone takes a value only after an equals sign.
After `--` nothing is an option.

Arguments are read from left to right. An option that waits for its value, and a value that has
not been examined yet, are pending; they are settled when the next option or value comes, or at
the end. So an option that is given twice is noticed before its second value is looked at, and an
argument that nothing can be made of is reported before a pending value.
-/

set_option autoImplicit false

namespace HubRelay

/-- Why a command line is not run. -/
inductive UsageError
  | unknownArgument
  /-- A value is missing, or not one of those allowed. -/
  | invalidValue
  | invalidAction
  /-- No snapshot is named. -/
  | missingSnapshot
  /-- An option is given twice. -/
  | repeatedOption
  /-- A value is given where none belongs. -/
  | unneededValue
  /-- Help is asked for. -/
  | helpWanted
  /-- The version is asked for. -/
  | versionWanted
  /-- Nothing is asked for. -/
  | nothingWanted
deriving DecidableEq, Repr

/-- What is to be done with the hubs of a snapshot. -/
inductive Action
  /-- Write the document. -/
  | generate
  /-- Print the hubs. -/
  | inspect
deriving DecidableEq, Repr

/-- An option that takes a value. -/
inductive OptionName
  | config
  | out
  | hintName
  | hubBaseName
  | hubAssembly
  | dispatcherPathPrefix
  | newline
  | keywordTypes
deriving DecidableEq, Repr

/-- Whether a text can be the value of an option. A path must not be empty. -/
def OptionName.accepts (name : OptionName) (value : String) : Bool :=
  match name with
  | .config | .out => !value.isEmpty
  | .hintName | .hubBaseName | .hubAssembly | .dispatcherPathPrefix => true
  | .newline => (PartialSettings.endingNamed? value).isSome
  | .keywordTypes => value == "true" || value == "false"

/-- A command line that can be run. -/
structure Invocation where
  action : Action
  /-- The path of the snapshot. -/
  snapshot : String
  /-- The path of the configuration file, if one is named. -/
  config : Option String
  /-- The directory to write the document to, if one is named. -/
  out : Option String
  /-- The settings that are given as options. -/
  overrides : PartialSettings
deriving DecidableEq, Repr

namespace Arguments

/-! ### Options -/

/-- The action with a name. -/
def actionNamed? : String → Option Action
  | "generate" | "g" => some .generate
  | "inspect" | "i" => some .inspect
  | _ => none

/-- The option with a long name. Only the document can be written to a directory. -/
def longOption? (action : Action) : String → Option OptionName
  | "config" => some .config
  | "out" => if action = .generate then some .out else none
  | "hint-name" => some .hintName
  | "hub-base-name" => some .hubBaseName
  | "hub-assembly" => some .hubAssembly
  | "dispatcher-path-prefix" => some .dispatcherPathPrefix
  | "newline" => some .newline
  | "keyword-types" => some .keywordTypes
  | _ => none

/-- The option with a letter. -/
def shortOption? (action : Action) : Char → Option OptionName
  | 'c' => some .config
  | 'o' => if action = .generate then some .out else none
  | _ => none

/-! ### Reading -/

/-- What has been read and not been settled. -/
inductive Pending
  | nothing
  /-- The path of the snapshot. -/
  | snapshot (path : String)
  /-- An option that waits for its value. -/
  | waiting (name : OptionName)
  /-- An option with its value. -/
  | value (name : OptionName) (value : String)
deriving DecidableEq, Repr

/-- What has been read so far. -/
structure State where
  pending : Pending := .nothing
  snapshot : Option String := none
  values : List (OptionName × String) := []
  /-- Whether the snapshot has been named, settled or not. -/
  hasSnapshot : Bool := false
  /-- Whether `--` has been read. -/
  onlyValues : Bool := false
deriving DecidableEq, Repr

namespace State

/-- Sets an option. -/
def assign (s : State) (name : OptionName) (value : String) : Except UsageError State :=
  if (s.values.lookup name).isSome then .error .repeatedOption
  else if name.accepts value then .ok { s with values := (name, value) :: s.values }
  else .error .invalidValue

/-- Settles what is pending. -/
def settle (s : State) : Except UsageError State :=
  let rest := { s with pending := .nothing }
  match s.pending with
  | .nothing => .ok rest
  | .snapshot path =>
    if path.isEmpty then .error .invalidValue else .ok { rest with snapshot := some path }
  | .waiting _ => .error .invalidValue
  | .value name value => rest.assign name value

/-- Sets an option at once, after what is pending. -/
def assignNow (s : State) (name : OptionName) (value : String) : Except UsageError State := do
  (← s.settle).assign name value

/-- Makes an option wait for its value. -/
def await (s : State) (name : OptionName) : Except UsageError State := do
  return { ← s.settle with pending := .waiting name }

/-- Reads an argument that starts with two dashes, without these. -/
def readLong (action : Action) (s : State) (argument : List Char) : Except UsageError State :=
  let name := argument.takeWhile (· != '=')
  let value? := (argument.drop name.length).tail?.map String.ofList
  let name := String.ofList name
  if name = "help" then
    if value?.isSome then .error .unneededValue
    else do
      let _ ← s.settle
      throw .helpWanted
  else
    match longOption? action name, value? with
    | none, _ => .error .unknownArgument
    | some option, some value => s.assignNow option value
    | some .keywordTypes, none => s.assignNow .keywordTypes "true"
    | some option, none => s.await option

/-- Reads an argument that starts with one dash, without it. A letter that takes a value takes the
rest of the argument, so only the first letter decides. -/
def readShort (action : Action) (s : State) (letter : Char) (rest : List Char) :
    Except UsageError State :=
  if letter = 'h' then do
    let _ ← s.settle
    throw .helpWanted
  else
    match shortOption? action letter, rest with
    | none, _ => .error .unknownArgument
    | some option, [] => s.await option
    | some option, '=' :: value => s.assignNow option (String.ofList value)
    | some option, value => s.assignNow option (String.ofList value)

/-- Reads an argument that is no option: the snapshot. There is only one. -/
def readPath (s : State) (argument : String) : Except UsageError State :=
  if s.hasSnapshot then .error .unknownArgument
  else do return { ← s.settle with pending := .snapshot argument, hasSnapshot := true }

/-- Reads an argument. -/
def read (action : Action) (s : State) (argument : String) : Except UsageError State :=
  if s.onlyValues then s.readPath argument
  else
    match argument.toList with
    | ['-', '-'] => .ok { s with onlyValues := true }
    | '-' :: '-' :: rest => s.readLong action rest
    | '-' :: letter :: rest => s.readShort action letter rest
    | _ =>
      match s.pending with
      | .waiting name => .ok { s with pending := .value name argument }
      | _ => s.readPath argument

/-- The settings that were given as options. -/
def overrides (s : State) : PartialSettings where
  hubBaseName := s.values.lookup .hubBaseName
  hubAssembly := s.values.lookup .hubAssembly
  dispatcherPathPrefix := s.values.lookup .dispatcherPathPrefix
  hintName := s.values.lookup .hintName
  newline := (s.values.lookup .newline).bind PartialSettings.endingNamed?
  keywordTypes := (s.values.lookup .keywordTypes).map (· == "true")

/-- The command line that has been read. -/
def finish (action : Action) (s : State) : Except UsageError Invocation := do
  let s ← s.settle
  match s.snapshot with
  | none => throw .missingSnapshot
  | some path =>
    return ⟨action, path, s.values.lookup .config, s.values.lookup .out, s.overrides⟩

end State

/-! ### The whole command line -/

/-- What a request for help is answered with. It may name an action to be helped with. -/
def helpFor : List String → UsageError
  | [] | ["help"] => .helpWanted
  | [name] => if (actionNamed? name).isSome then .helpWanted else .invalidAction
  | _ => .invalidAction

/-- What a command line is answered with that begins with no action. -/
def withoutAction (first : String) (rest : List String) : UsageError :=
  match first.toList with
  | ['-', '-'] =>
    match rest with
    | [] => .nothingWanted
    | name :: _ =>
      if name = "help" ∨ (actionNamed? name).isSome then .unknownArgument else .invalidAction
  | '-' :: '-' :: name =>
    let asked := String.ofList (name.takeWhile (· != '='))
    if asked ≠ "help" ∧ asked ≠ "version" then .unknownArgument
    else if name.contains '=' then .unneededValue
    else if asked = "help" then .helpWanted
    else .versionWanted
  | '-' :: 'h' :: _ => .helpWanted
  | '-' :: 'V' :: _ => .versionWanted
  | '-' :: _ :: _ => .unknownArgument
  | _ => .invalidAction

/-- Reads a command line. -/
def parse : List String → Except UsageError Invocation
  | [] => .error .nothingWanted
  | first :: rest =>
    match actionNamed? first with
    | some action => do
      let s ← rest.foldlM (State.read action) {}
      s.finish action
    | none => .error (if first = "help" then helpFor rest else withoutAction first rest)

end Arguments

end HubRelay
