import HubRelay.Json.Shape
import HubRelay.Settings.Basic

/-!
# Settings in JSON

Partial settings are a closed record in which every field may be left out or be `null`.
-/

set_option autoImplicit false

namespace HubRelay

/-- Reads a line ending by its name. -/
def LineEnding.ofJson (levels : Nat) : Json.Reader LineEnding :=
  Json.variant levels [("lf", .bare .lf), ("crlf", .bare .crlf)]

namespace PartialSettings

/-- A setting that may be left open. -/
def setting {α : Type} (name : String) (read : Json.Reader α) : Json.Field (Option α) :=
  ⟨name, Json.optional read, some none⟩

/-- Reads partial settings. -/
def ofJson (levels : Nat) : Json.Reader PartialSettings := do
  let (hubBaseName, hubAssembly, dispatcherPathPrefix, hintName, indent, newline, keywordTypes,
      _) ← Json.record levels "OptionsFile" true <|
    .cons (setting "hub_base_name" Json.string) <|
    .cons (setting "hub_assembly" Json.string) <|
    .cons (setting "dispatcher_path_prefix" Json.string) <|
    .cons (setting "hint_name" Json.string) <|
    .cons (setting "indent" Json.string) <|
    .cons (setting "newline" (LineEnding.ofJson (levels - 1))) <|
    .cons (setting "keyword_types" Json.boolean) .nil
  return ⟨hubBaseName, hubAssembly, dispatcherPathPrefix, hintName, indent, newline,
    keywordTypes⟩

end PartialSettings

end HubRelay
