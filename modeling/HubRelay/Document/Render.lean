import HubRelay.Document.Dispatch
import HubRelay.Document.Field
import HubRelay.Writer.Scope

/-!
# The generated document

For each hub the document has the other half of the hub's class. A constructor takes the actor
system. Each method of the server contract posts a message to the dispatcher actor. The messages of
both contracts are records in two nested classes, and each record can deliver the client's call to
nine kinds of targets.

The document depends on the hubs and the settings alone, and each hub is written by itself.
-/

set_option autoImplicit false

namespace HubRelay

/-- A document with the name that a build knows it by. -/
structure Document where
  hintName : String
  text : String
deriving DecidableEq, Repr

namespace Document

/-! ### Names -/

/-- The class of actor systems. -/
def actorSystem : String := "global::Akka.Actor.ActorSystem"

/-- The interface of a hub's clients. -/
def hubClients : String := "global::Microsoft.AspNetCore.SignalR.IHubClients"

/-- The namespace of tasks. -/
def tasks : String := "System.Threading.Tasks"

/-- The name of a type in the document. -/
def typeName (settings : Settings) (type : TypeRef) : String :=
  if settings.keywordTypes then type.keywordOrGlobalName else type.globalName

/-- A list of names with their types, as parameters are declared. -/
def declared (entries : List (String × String)) : String :=
  ", ".intercalate (entries.map fun entry ↦ entry.1 ++ " " ++ entry.2)

/-! ### Forwarding methods -/

/-- The value that a forwarding method returns once the message is posted, if it returns any. -/
def completion? (settings : Settings) (returnType : TypeRef) : Option String :=
  if returnType.isVoid then none
  else some <|
    if returnType.container = tasks ∧ returnType.name = "Task" then
      match returnType.arguments with
      | [] => "global::" ++ tasks ++ ".Task.CompletedTask"
      | [result] =>
        "global::" ++ tasks ++ ".Task.FromResult<" ++ typeName settings result ++ ">(default!)"
      | _ => "default!"
    else if returnType.container = tasks ∧ returnType.name = "ValueTask" then
      if returnType.arguments.length ≤ 1 then "default" else "default!"
    else "default!"

/-- What a forwarding method tells of the connection. -/
def contextArguments : List String :=
  ["Context.ConnectionId", "Context.UserIdentifier", "Context.User"]

/-- Writes a method of the server contract, which posts its call to the dispatcher actor. -/
def forwardingMethod (settings : Settings) (method : Method) (w : Writer) : Writer :=
  let parameters := method.parameters.map fun p ↦ (typeName settings p.type, p.name)
  let arguments := contextArguments ++ method.parameters.map (·.name)
  (w.writeBreak ("public " ++ typeName settings method.returnType ++ " " ++ method.name ++ "(" ++
      declared parameters ++ ")")).within (.block "") fun w ↦
    let w := w.writeBreak ("var msg = new " ++ Direction.toServer.className ++ "." ++ method.name ++
      "(" ++ ", ".intercalate arguments ++ ");")
    let w := w.writeLine
      "_actorSystem.ActorSelection(HubDispatcherActorSelection).Tell(msg);"
    match completion? settings method.returnType with
    | some value => w.writeBreak ("return " ++ value ++ ";")
    | none => w

/-! ### Messages -/

/-- Writes several parts with empty lines between them. -/
def separated {α : Type} (part : α → Writer → Writer) : List α → Writer → Writer
  | [], w => w
  | [last], w => part last w
  | next :: rest, w => separated part rest (part next w).blankLine

/-- Writes the method of a record that delivers the call to a target. -/
def dispatchMethod (settings : Settings) (method : Method) (arguments : List String)
    (target : Target) (w : Writer) : Writer :=
  let clients := (hubClients ++ "<" ++ typeName settings method.declaringType ++ ">", "hubClients")
  (w.writeBreak ("public " ++ typeName settings method.returnType ++ " " ++ target.methodName ++
      "(" ++ declared (clients :: target.parameters) ++ ")")).within .indent fun w ↦
    w.writeBreak ("=> hubClients." ++ target.address ++ "." ++ method.name ++ "(" ++
      ", ".intercalate arguments ++ ");")

/-- The fields of the record for a method, each with its type. -/
def recordFields (settings : Settings) (direction : Direction) (method : Method) :
    List (String × String) :=
  direction.contextFields ++
    (method.parameters.zip (Field.names direction method)).map fun entry ↦
      (typeName settings entry.1.type, entry.2)

/-- Writes the record of a contract method. -/
def message (settings : Settings) (direction : Direction) (method : Method) (w : Writer) :
    Writer :=
  let w := w.within .documentation fun w ↦
    w.within .summary fun w ↦
      (((w.see method.name).write " is derived from ").see method.cref).blankLine
  (w.writeBreak ("public record " ++ method.name ++ "(" ++
      declared (recordFields settings direction method) ++ ")")).within (.block "") <|
    separated (dispatchMethod settings method (Field.names direction method)) Target.every

/-- Writes the class with the messages of a contract. -/
def messages (settings : Settings) (direction : Direction) (contract : Contract) (w : Writer) :
    Writer :=
  w.within (.classBlock direction.className ["public", "static"]) <|
    separated (message settings direction) contract.methods

/-! ### Hubs -/

/-- A namespace without `global::` at its start, however often it stands there. The number bounds
how often that is. -/
def withoutGlobal : Nat → List Char → List Char
  | 0, cs => cs
  | bound + 1, cs =>
    let mark := "global::".toList
    if mark.isPrefixOf cs then withoutGlobal bound (cs.drop mark.length) else cs

/-- The namespace that a hub's class is declared in. -/
def hubNamespace (hub : Hub) : String :=
  let cs := hub.bridgeType.container.toList
  String.ofList (withoutGlobal cs.length cs)

/-- Writes the constructor of a hub. -/
def constructor (name : String) (w : Writer) : Writer :=
  (w.writeBreak ("public " ++ name ++ "(" ++ actorSystem ++ " actorSystem)")).within (.block "")
    fun w ↦ w.writeLine ("_actorSystem = actorSystem ?? " ++
      "throw new global::System.ArgumentNullException(nameof(actorSystem));")

/-- Writes the class of a hub. -/
def hubClass (settings : Settings) (hub : Hub) (w : Writer) : Writer :=
  let name := hub.bridgeType.name
  w.within (.classBlock name ["public", "partial"]) fun w ↦
    let w := (w.writeBreak ("public const string HubDispatcherActorSelection = \"" ++
      settings.dispatcherPathPrefix ++ Text.toLower name ++ "\";")).blankLine
    let w := (w.writeBreak ("private readonly " ++ actorSystem ++ " _actorSystem;")).blankLine
    let w := (constructor name w).blankLine
    let w := hub.server.methods.foldl
      (fun w method ↦ (forwardingMethod settings method w).blankLine) w
    let w := (messages settings .toClient hub.client w).blankLine
    messages settings .toServer hub.server w

/-- Writes the part of a hub: its class, in its namespace if it has one. -/
def hubPart (settings : Settings) (hub : Hub) (w : Writer) : Writer :=
  let container := hubNamespace hub
  if container.isEmpty then hubClass settings hub w
  else w.within (.namespaceBlock container) (hubClass settings hub)

/-- Writes the two lines that every document starts with. -/
def header (count : Nat) (w : Writer) : Writer :=
  (w.comment "<auto-generated />").comment
    (toString count ++ " hub" ++ (if count = 1 then "" else "s") ++ " found")

/-- Writes the parts of hubs, each after an empty line. -/
def hubParts (settings : Settings) (hubs : List Hub) (w : Writer) : Writer :=
  hubs.foldl (fun w hub ↦ hubPart settings hub w.blankLine) w

/-- The document of a list of hubs. -/
def ofHubs (hubs : List Hub) (settings : Settings) : Document where
  hintName := settings.hintName
  text := (hubParts settings hubs (header hubs.length (Writer.ofSettings settings))).out

end Document

end HubRelay
