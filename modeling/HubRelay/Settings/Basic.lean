/-!
# Settings

Settings come from up to three places: the command line, a configuration file and the defaults. A
`PartialSettings` is what one place says, with nothing for what it leaves open; `orElse` fills the
gaps of one from another, and `resolve` fills the rest from the defaults.
-/

set_option autoImplicit false

namespace HubRelay

/-- How lines end. -/
inductive LineEnding
  | lf
  | crlf
deriving DecidableEq, Repr

/-- The characters at the end of a line. -/
def LineEnding.text : LineEnding → String
  | lf => "\n"
  | crlf => "\r\n"

/-- The settings of a run. -/
structure Settings where
  /-- The identifier of the generic base class of hubs. -/
  hubBaseName : String := "Hub"
  /-- The assembly that must contain the base class. -/
  hubAssembly : String := "Microsoft.AspNetCore.SignalR.Core"
  /-- What the path of a dispatcher actor starts with; the name of the hub in small letters
  follows. -/
  dispatcherPathPrefix : String := "/user/signalr/"
  /-- The name of the generated document. -/
  hintName : String := "HubBridgeGenerator.g.cs"
  /-- One level of indentation. -/
  indent : String := "    "
  newline : LineEnding := .lf
  /-- Whether built-in types are written with their keywords. -/
  keywordTypes : Bool := false
deriving DecidableEq, Repr

/-- Settings of which some may be left open. -/
structure PartialSettings where
  hubBaseName : Option String := none
  hubAssembly : Option String := none
  dispatcherPathPrefix : Option String := none
  hintName : Option String := none
  indent : Option String := none
  newline : Option LineEnding := none
  keywordTypes : Option Bool := none
deriving DecidableEq, Repr

namespace PartialSettings

/-- The settings of `own`, with those of `fallback` where `own` says nothing. -/
def orElse (own fallback : PartialSettings) : PartialSettings where
  hubBaseName := own.hubBaseName.or fallback.hubBaseName
  hubAssembly := own.hubAssembly.or fallback.hubAssembly
  dispatcherPathPrefix := own.dispatcherPathPrefix.or fallback.dispatcherPathPrefix
  hintName := own.hintName.or fallback.hintName
  indent := own.indent.or fallback.indent
  newline := own.newline.or fallback.newline
  keywordTypes := own.keywordTypes.or fallback.keywordTypes

/-- The settings with the defaults for what is left open. -/
def resolve (own : PartialSettings) : Settings :=
  let defaults : Settings := {}
  { hubBaseName := own.hubBaseName.getD defaults.hubBaseName
    hubAssembly := own.hubAssembly.getD defaults.hubAssembly
    dispatcherPathPrefix := own.dispatcherPathPrefix.getD defaults.dispatcherPathPrefix
    hintName := own.hintName.getD defaults.hintName
    indent := own.indent.getD defaults.indent
    newline := own.newline.getD defaults.newline
    keywordTypes := own.keywordTypes.getD defaults.keywordTypes }

end PartialSettings

end HubRelay
