import HubRelay.Settings.Basic
import HubRelay.Toml.Document

/-!
# Configuration files

A configuration file is a TOML document that sets some of the settings by their names, each at
most once and to a value of its kind, and nothing else. The line ending is a name, or a table in
which that name is the only key and is set to something empty.
-/

set_option autoImplicit false

namespace HubRelay.PartialSettings

open Toml (Entry Leaf)

/-- The entries under a key, with their paths below it. -/
def under (name : String) (entries : List Entry) : List (List String × Leaf) :=
  entries.filterMap fun entry ↦
    match entry.path with
    | first :: rest => if first = name then some (rest, entry.leaf) else none
    | [] => none

/-- The text that a key is set to, or `none` inside if it is not set. -/
def text? (name : String) (entries : List Entry) : Option (Option String) :=
  match under name entries with
  | [] => some none
  | [([], .string value)] => some (some value)
  | _ => none

/-- The truth value that a key is set to, or `none` inside if it is not set. -/
def boolean? (name : String) (entries : List Entry) : Option (Option Bool) :=
  match under name entries with
  | [] => some none
  | [([], .boolean value)] => some (some value)
  | _ => none

/-- The line ending with a name. -/
def endingNamed? : String → Option LineEnding
  | "lf" => some .lf
  | "crlf" => some .crlf
  | _ => none

/-- The line ending that a key is set to, or `none` inside if it is not set. -/
def ending? (name : String) (entries : List Entry) : Option (Option LineEnding) :=
  match under name entries with
  | [] => some none
  | [([], .string ending)] | [([ending], .empty)] | [([ending], .header)]
  | [([], .header), ([ending], .empty)] | [([], .header), ([ending], .header)]
  | [([ending], .header), ([], .header)] => (endingNamed? ending).map some
  | _ => none

/-- The names of the settings. -/
def names : List String :=
  ["hub_base_name", "hub_assembly", "dispatcher_path_prefix", "hint_name", "indent", "newline",
    "keyword_types"]

/-- The settings in a configuration file, or nothing if it is not a proper one. -/
def ofToml? (text : String) : Option PartialSettings := do
  let entries ← Toml.entries? text
  guard (entries.all fun entry ↦ entry.path.head?.any names.contains)
  return {
    hubBaseName := ← text? "hub_base_name" entries
    hubAssembly := ← text? "hub_assembly" entries
    dispatcherPathPrefix := ← text? "dispatcher_path_prefix" entries
    hintName := ← text? "hint_name" entries
    indent := ← text? "indent" entries
    newline := ← ending? "newline" entries
    keywordTypes := ← boolean? "keyword_types" entries }

end HubRelay.PartialSettings
