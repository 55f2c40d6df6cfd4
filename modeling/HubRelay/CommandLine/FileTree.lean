import HubRelay.Text.Pieces

/-!
# File trees

A tree holds the things in a directory: files with their contents, and directories with the things
in them. A path is followed part by part from a directory: empty parts and `.` stay there, `..`
leaves it, and a name enters a directory or reaches a file, which ends the way.

A path that starts with a slash starts in the outermost directory. Other paths start in a directory
that stands in the outermost one. They can leave it, and make something new outside. What is outside
is kept, but is never listed.
-/

set_option autoImplicit false

namespace HubRelay

/-- The things in a directory, by their names. -/
inductive FileTree
  /-- Nothing. -/
  | nil
  /-- A file with its content, and the other things. -/
  | file (name content : String) (others : FileTree)
  /-- A directory with the things in it, and the other things. -/
  | directory (name : String) (inside others : FileTree)
deriving DecidableEq, Repr, Inhabited

namespace FileTree

/-! ### Names -/

/-- What a name stands for. -/
inductive Entry
  | file (content : String)
  | directory (inside : FileTree)
deriving DecidableEq, Repr

/-- What stands under a name in a directory. -/
def get? (name : String) : FileTree → Option Entry
  | nil => none
  | file found content others => if found = name then some (.file content) else others.get? name
  | directory found inside others =>
    if found = name then some (.directory inside) else others.get? name

/-- The things in the directory with a name. There are none if it is missing. -/
def inside (name : String) (t : FileTree) : FileTree :=
  match t.get? name with
  | some (.directory found) => found
  | _ => nil

/-- Adds an entry to other things. -/
def cons (name : String) : Entry → FileTree → FileTree
  | .file content, others => file name content others
  | .directory found, others => directory name found others

/-- Puts an entry under a name, in the place of what stands there. -/
def put (name : String) (entry : Entry) : FileTree → FileTree
  | nil => cons name entry nil
  | file found content others =>
    if found = name then cons name entry others else file found content (others.put name entry)
  | directory found inner others =>
    if found = name then cons name entry others else directory found inner (others.put name entry)

/-- Puts an entry at a place, given by the names on the way to it. The directories on the way are
made if they are missing. -/
def insert (entry : Entry) : List String → FileTree → FileTree
  | [], t => t
  | [name], t => t.put name entry
  | name :: next :: rest, t =>
    t.put name (.directory (insert entry (next :: rest) (t.inside name)))

/-! ### Paths -/

/-- What a path leads to, by the names on the way from the outermost directory. -/
inductive Place
  | directory (names : List String)
  | file (names : List String) (content : String)
deriving DecidableEq, Repr

/-- The parts of a path between its slashes. -/
def parts (path : String) : List String := (Text.pieces '/' path.toList).map String.ofList

/-- Whether a part of a path can name something new: it is not empty, `.` or `..`, and has no more
than 255 bytes, none of which is zero. -/
def isName (part : String) : Bool :=
  part != "" && part != "." && part != ".." && part.utf8ByteSize ≤ 255 &&
    !part.toList.contains '\x00'

/-- Whether a path can be followed: it has no more than 4095 bytes. -/
def isPath (path : String) : Bool := path.utf8ByteSize ≤ 4095

/-- Whether a path starts in the outermost directory. -/
def isAbsolute (path : String) : Bool := path.startsWith "/"

/-- Where the parts of a path lead from a directory. `outer` has the names by which directories have
been entered, innermost first, each with the things around that directory. From the outermost
directory `..` does not lead away. -/
def walk (t : FileTree) (outer : List (String × FileTree)) : List String → Option Place
  | [] => some (.directory (outer.map (·.1)).reverse)
  | part :: rest =>
    if part = "" ∨ part = "." then t.walk outer rest
    else if part = ".." then
      match outer with
      | [] => t.walk [] rest
      | (_, around) :: further => around.walk further rest
    else
      match t.get? part with
      | some (.directory found) => found.walk ((part, t) :: outer) rest
      | some (.file content) =>
        if rest.isEmpty then some (.file ((part :: outer.map (·.1)).reverse) content) else none
      | none => none

/-- The name of the directory that paths without a slash before them start in. It is empty, so no path
enters the directory from the outermost one. -/
def home : String := ""

/-- Where the parts of a path lead, from the outermost directory or from the one below it. -/
def follow (t : FileTree) (absolute : Bool) (all : List String) : Option Place :=
  if absolute then t.walk [] all else (t.inside home).walk [(home, t)] all

/-- Where a path leads. -/
def find (t : FileTree) (path : String) : Option Place :=
  if path.isEmpty || !isPath path then none else t.follow (isAbsolute path) (parts path)

/-! ### Files and directories -/

/-- The content of the file that a path leads to. -/
def read (t : FileTree) (path : String) : Option String :=
  match t.find path with
  | some (.file _ content) => some content
  | _ => none

/-- Whether a path leads to a file. -/
def isFile (t : FileTree) (path : String) : Bool := (t.read path).isSome

/-- The place for something new at the end of a path, in a directory that exists. -/
def site? (t : FileTree) (absolute : Bool) (all : List String) : Option (List String) :=
  match all.getLast?, t.follow absolute all.dropLast with
  | some name, some (.directory names) => if isName name then some (names ++ [name]) else none
  | _, _ => none

/-- Makes a directory in one that exists, unless it is there already. -/
def makeDirectory (t : FileTree) (path : String) : Option FileTree :=
  let all := (parts path).filter (· != "")
  if !isPath path then none
  else
    match t.follow (isAbsolute path) all with
    | some (.directory _) => some t
    | some (.file _ _) => none
    | none => (t.site? (isAbsolute path) all).map fun names ↦ t.insert (.directory nil) names

/-- Writes a file in a directory that exists. -/
def write (t : FileTree) (path content : String) : Option FileTree :=
  let all := parts path
  if !isPath path then none
  else
    match t.follow (isAbsolute path) all with
    | some (.directory _) => none
    | _ => (t.site? (isAbsolute path) all).map fun names ↦ t.insert (.file content) names

/-! ### Contents -/

/-- The tree in which paths without a slash before them start in a directory with the given files. -/
def ofFiles (files : List (String × String)) : FileTree :=
  let inner := files.foldl
    (fun t entry ↦ t.insert (.file entry.2)
      ((parts entry.1).filter fun part ↦ part != "" && part != "."))
    nil
  directory home inner nil

/-- All files, each with its path. `start` stands before every path. -/
def filesFrom (start : String) : FileTree → List (String × String)
  | nil => []
  | file name content others => (start ++ name, content) :: others.filesFrom start
  | directory name found others =>
    found.filesFrom (start ++ name ++ "/") ++ others.filesFrom start

/-- The files below the directory that paths without a slash before them start in, each with its
path. -/
def files (t : FileTree) : List (String × String) := (t.inside home).filesFrom ""

/-- The files that another tree does not have with the same content. -/
def newFiles (t before : FileTree) : List (String × String) :=
  let known := before.files
  t.files.filter fun entry ↦ known.lookup entry.1 != some entry.2

end FileTree

end HubRelay
