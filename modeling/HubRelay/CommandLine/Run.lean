import HubRelay.CommandLine.Arguments
import HubRelay.CommandLine.FileTree
import HubRelay.Generation
import HubRelay.Hub.Json
import HubRelay.Snapshot.Json

/-!
# Running a command line

The settings are found first: those on the command line, then those of the configuration file,
then the defaults. The configuration file is the one that is named, or `hubbridge.toml` if there
is such a file. Then the snapshot is read and its hubs are discovered. They are printed as JSON,
or their document is printed or written to a directory.

What is asked of the file system is a `FileSystem`, in any monad. A file tree is one, and so is
the machine's own.
-/

set_option autoImplicit false

namespace HubRelay

/-- Why a command line that was understood fails. The file or directory is given by its path. -/
inductive CommandError
  | unreadableConfig (path : String)
  | invalidConfig (path : String)
  | unreadableSnapshot (path : String)
  | invalidSnapshot (path : String)
  | extraction (reason : ExtractionError)
  | uncreatable (path : String)
  | unwritable (path : String)
deriving DecidableEq, Repr

/-- The wording of an error. -/
def CommandError.message : CommandError → String
  | unreadableConfig path => "Failed to read config " ++ path
  | invalidConfig path => "Invalid config " ++ path
  | unreadableSnapshot path => "Failed to read snapshot " ++ path
  | invalidSnapshot path => "Invalid snapshot " ++ path
  | extraction reason => reason.message
  | uncreatable path => "Failed to create " ++ path
  | unwritable path => "Failed to write " ++ path

/-- What is asked of a file system. -/
structure FileSystem (m : Type → Type) where
  /-- The content of a file, if it can be read. -/
  read : String → m (Option String)
  /-- Whether there is a file at a path. -/
  isFile : String → m Bool
  /-- Makes a directory in one that exists. Says whether it exists then. -/
  makeDirectory : String → m Bool
  /-- Writes a file. Says whether that succeeded. -/
  write : String → String → m Bool

/-- A file tree as a file system. -/
def FileTree.fileSystem : FileSystem (StateM FileTree) where
  read path := do return (← get).read path
  isFile path := do return (← get).isFile path
  makeDirectory path := do
    match (← get).makeDirectory path with
    | some t => set t; return true
    | none => return false
  write path content := do
    match (← get).write path content with
    | some t => set t; return true
    | none => return false

namespace Invocation

variable {m : Type → Type} [Monad m]

/-- The configuration file that is used when none is named. -/
def defaultConfig : String := "hubbridge.toml"

/-- Reads a configuration file. -/
def loadConfig (fs : FileSystem m) (path : String) : ExceptT CommandError m PartialSettings := do
  match ← fs.read path with
  | none => throw (.unreadableConfig path)
  | some text =>
    match PartialSettings.ofToml? text with
    | some settings => return settings
    | none => throw (.invalidConfig path)

/-- The settings of a run. -/
def settings (fs : FileSystem m) (i : Invocation) : ExceptT CommandError m Settings := do
  let file ← match i.config with
    | some path => loadConfig fs path
    | none => do
      if ← fs.isFile defaultConfig then loadConfig fs defaultConfig
      else pure {}
  return (i.overrides.orElse file).resolve

/-- The accepted snapshot in a text. -/
def modelOf? (text : String) : Option Model :=
  match Json.read (Snapshot.ofJson Json.maxLevels) text with
  | .ok snapshot => (Model.ofSnapshot snapshot).toOption
  | .error _ => none

/-- Reads the snapshot of a run. -/
def loadModel (fs : FileSystem m) (i : Invocation) : ExceptT CommandError m Model := do
  match ← fs.read i.snapshot with
  | none => throw (.unreadableSnapshot i.snapshot)
  | some text =>
    match modelOf? text with
    | some model => return model
    | none => throw (.invalidSnapshot i.snapshot)

/-- A path, and the paths of the directories around the one that it names, from the inside out. A
`.` names no directory of its own, so `d/.` has nothing around it. -/
def outward (path : String) : List String :=
  let names := (FileTree.parts path).filter fun part ↦ part != "" && part != "."
  let root := if path.startsWith "/" then "/" else ""
  path :: (List.range (names.length - 1)).reverse.map fun count ↦
    root ++ "/".intercalate (names.take (count + 1))

/-- Creates a directory and those around it, given from the inside out. They are tried in turn until
one is there or can be made, and then those inside that one are made. -/
def createAll (fs : FileSystem m) : List String → m Bool
  | [] => return true
  | path :: around => do
    if ← fs.makeDirectory path then return true
    if ← createAll fs around then fs.makeDirectory path else return false

/-- The path of a file in a directory. A path from the root of the file system stands for itself. -/
def joinPath (directory file : String) : String :=
  if file.startsWith "/" then file
  else if directory.isEmpty || directory.endsWith "/" then directory ++ file
  else directory ++ "/" ++ file

/-- What `inspect` prints for a list of hubs. -/
def inspection (hubs : List Hub) : String := (Hub.listToJson hubs).pretty 0 ++ "\n"

/-- Writes a document to a directory. -/
def writeDocument (fs : FileSystem m) (directory : String) (document : Document) :
    ExceptT CommandError m Unit := do
  unless ← (createAll fs (outward directory) : m Bool) do throw (.uncreatable directory)
  let path := joinPath directory document.hintName
  unless ← fs.write path document.text do throw (.unwritable path)

/-- Runs a command line. Gives the text to print. -/
def run (fs : FileSystem m) (i : Invocation) : ExceptT CommandError m String := do
  let settings ← i.settings fs
  let model ← i.loadModel fs
  match i.action with
  | .inspect =>
    match model.discover settings with
    | .ok discovery => return inspection discovery.hubs
    | .error reason => throw (.extraction reason)
  | .generate =>
    match model.generate settings with
    | .error reason => throw (.extraction reason)
    | .ok (_, document) =>
      match i.out with
      | none => return document.text
      | some directory =>
        writeDocument fs directory document
        return ""

end Invocation

end HubRelay
