import HubRelay.Document.Render
import HubRelay.Proofs.Writer.LineEndings

/-!
# The document in both spellings

The parts of the document write texts of all kinds, with the line breaks that names bring along, but
the heads that they set are their own and on one line. So each part writes the same in both spellings
of line endings, from the method of a record to the whole document, and what holds of programs of
writer actions holds of documents: with the other terminator a document is the same text with a
carriage return before each line feed.
-/

set_option autoImplicit false

namespace HubRelay

open Writer

namespace Document

/-! ### Parts -/

variable (settings : Settings)

/-- Parts with empty lines between them. -/
theorem respells_separated {α : Type} {part : α → Writer → Writer} (h : ∀ x, Respells (part x))
    (xs : List α) : Respells (separated part xs) := by
  induction xs with
  | nil => exact respells_id
  | cons first rest ih =>
    cases rest with
    | nil => exact h first
    | cons next more => exact ((h first).comp respells_endLine).comp ih

theorem respells_forwardingMethod (method : Method) :
    Respells (forwardingMethod settings method) := by
  have hblock {part : Writer → Writer} (h : Respells part) (declaration posting : String) :=
    have htell := (respells_writeLine
      "_actorSystem.ActorSelection(HubDispatcherActorSelection).Tell(msg);").comp h
    have hbody := ((respells_writeBreak posting).comp htell).within (o := .block "") trivial
    (respells_writeBreak declaration).comp hbody
  unfold forwardingMethod
  cases completion? settings method.returnType with
  | none => exact hblock respells_id _ _
  | some value => exact hblock (respells_writeBreak ("return " ++ value ++ ";")) _ _

theorem respells_dispatchMethod (method : Method) (arguments : List String) (target : Target) :
    Respells (dispatchMethod settings method arguments target) := by
  have hdelivery (signature delivery : String) := (respells_writeBreak signature).comp
    ((respells_writeBreak delivery).within (o := .indent) trivial)
  exact hdelivery _ _

theorem respells_message (direction : Direction) (method : Method) :
    Respells (message settings direction method) := by
  have hline (name cref : String) := (((respells_write ("<see cref=\"" ++ name ++ "\"/>")).comp
    (respells_write " is derived from ")).comp
      (respells_write ("<see cref=\"" ++ cref ++ "\"/>"))).comp respells_endLine
  have hreference (name cref : String) :=
    ((hline name cref).within (o := .summary) trivial).within (o := .documentation) trivial
  have hdispatch := respells_separated
    (respells_dispatchMethod settings method (Field.names direction method)) Target.every
  have hrecord (first : String) := (hreference method.name method.cref).comp
    ((respells_writeBreak first).comp (hdispatch.within (o := .block "") trivial))
  exact hrecord _

theorem respells_messages (direction : Direction) (contract : Contract) :
    Respells (messages settings direction contract) :=
  (respells_separated (respells_message settings direction) contract.methods).within
    (o := .classBlock direction.className ["public", "static"]) trivial

theorem respells_constructor (name : String) : Respells (constructor name) := by
  have hbody (first line : String) := (respells_writeBreak first).comp
    ((respells_writeLine line).within (o := .block "") trivial)
  exact hbody _ _

theorem respells_hubClass (hub : Hub) : Respells (hubClass settings hub) := by
  have hforwarding := respells_foldl
    (fun method ↦ (respells_forwardingMethod settings method).comp respells_endLine)
    hub.server.methods
  have hmessages := ((respells_messages settings .toClient hub.client).comp respells_endLine).comp
    (respells_messages settings .toServer hub.server)
  have hmembers := ((respells_constructor hub.bridgeType.name).comp respells_endLine).comp
    (hforwarding.comp hmessages)
  have hclass (selection system : String) :=
    (((respells_writeBreak selection).comp respells_endLine).comp
      (((respells_writeBreak system).comp respells_endLine).comp hmembers)).within
        (o := .classBlock hub.bridgeType.name ["public", "partial"]) trivial
  exact hclass _ _

theorem respells_hubPart (hub : Hub) : Respells (hubPart settings hub) := by
  have hclass := respells_hubClass settings hub
  by_cases hempty : (hubNamespace hub).isEmpty
  · have hpart : hubPart settings hub = hubClass settings hub := funext fun _ ↦ if_pos hempty
    rwa [hpart]
  · have hpart : hubPart settings hub =
        (·.within (.namespaceBlock (hubNamespace hub)) (hubClass settings hub)) :=
      funext fun _ ↦ if_neg hempty
    rw [hpart]
    exact hclass.within trivial

theorem respells_hubParts (hubs : List Hub) : Respells (hubParts settings hubs) := by
  have hpart (hub : Hub) := respells_endLine.comp (respells_hubPart settings hub)
  exact respells_foldl hpart hubs

theorem respells_header (count : Nat) : Respells (header count) := by
  have hcomments (first second : String) := (respells_comment first).comp (respells_comment second)
  exact hcomments _ _

/-! ### Documents -/

/-- The document with line feeds has no carriage returns, and with both it is the document with line
feeds in the other spelling. -/
theorem text_ofHubs_crlf (hindent : Text.IsOneLine settings.indent) (hubs : List Hub) :
    '\r' ∉ (ofHubs hubs { settings with newline := .lf }).text.toList ∧
      (ofHubs hubs { settings with newline := .crlf }).text =
        Text.withReturns (ofHubs hubs { settings with newline := .lf }).text := by
  obtain ⟨hplain, hrespell⟩ := (respells_header hubs.length).comp (respells_hubParts settings hubs)
    (Session.isPlain_start hindent).writer
  exact ⟨hplain.return_notMem_out, congrArg Writer.out hrespell⟩

/-- Assumes: an indentation on one line. A program of writer actions whose heads are on one line writes
no carriage return when lines end in line feeds. With the other terminator it writes the same text with
a carriage return before each line feed, and the levels of indentation after its actions are the same.
So are documents, for all hubs and all settings with this indentation. -/
theorem out_crlf_eq_withReturns {indentText : String} (hindent : Text.IsOneLine indentText) :
    (∀ program : List Writer.Action, (∀ o, .enter o ∈ program → o.HeadIsOneLine) →
      let start (newline : LineEnding) : Session :=
        ⟨{ indentText := indentText, newline := newline.text }, []⟩
      '\r' ∉ ((start .lf).run program).writer.out.toList ∧
        ((start .crlf).run program).writer.out =
          Text.withReturns ((start .lf).run program).writer.out ∧
        ((start .crlf).trace program).map (·.writer.level) =
          ((start .lf).trace program).map (·.writer.level)) ∧
      ∀ (settings : Settings) (hubs : List Hub), settings.indent = indentText →
        '\r' ∉ (ofHubs hubs { settings with newline := .lf }).text.toList ∧
          (ofHubs hubs { settings with newline := .crlf }).text =
            Text.withReturns (ofHubs hubs { settings with newline := .lf }).text := by
  refine ⟨fun program hheads ↦ ?_, ?_⟩
  · have hstart := Session.isPlain_start hindent
    obtain ⟨hplain, hrun⟩ := hstart.run hheads
    have htrace := hstart.trace hheads
    refine ⟨hplain.writer.return_notMem_out, congrArg (·.writer.out) hrun, ?_⟩
    have hlevels := congrArg (List.map (·.writer.level)) htrace
    rw [List.map_map] at hlevels
    exact hlevels
  · rintro settings hubs rfl
    exact text_ofHubs_crlf settings hindent hubs

/-- A line break cut in two, a lone carriage return, and a block inside a head that ends after it. -/
theorem out_crlf_eq_withReturns_cut :
    let program : List Writer.Action := [.enter (.lineHead "// " true), .enter (.block ";"), .write "a\r",
      .write "\nb\rc", .leave 0, .comment "d\r\ne", .leave 1]
    let start (newline : LineEnding) : Session :=
      ⟨{ indentText := "\t", newline := newline.text }, []⟩
    ((start .lf).run program).writer.out = "// \x7b\n// \ta\n// \tbc// d\n// e\n\x7d;\n" ∧
      ((start .crlf).run program).writer.out =
        "// \x7b\r\n// \ta\r\n// \tbc// d\r\n// e\r\n\x7d;\r\n" ∧
      (ofHubs [] { indent := "\t", newline := .crlf }).text =
        "// <auto-generated />\r\n// 0 hubs found\r\n" := by
  intro program start
  have hheads : ∀ o, .enter o ∈ program → o.HeadIsOneLine := by
    intro o ho
    simp only [program, List.mem_cons, Writer.Action.enter.injEq, reduceCtorEq, List.not_mem_nil,
      or_false] at ho
    obtain rfl | rfl := ho
    · show Text.IsOneLine "// "
      decide
    · trivial
  have hindent : Text.IsOneLine "\t" := by decide
  obtain ⟨hprogram, hdocument⟩ := out_crlf_eq_withReturns hindent
  obtain ⟨-, hcrlf, -⟩ := hprogram program hheads
  have hlf : ((start .lf).run program).writer.out =
      "// \x7b\n// \ta\n// \tbc// d\n// e\n\x7d;\n" := by decide +kernel
  refine ⟨hlf, ?_, (hdocument { indent := "\t" } [] rfl).2.trans (by decide +kernel)⟩
  rw [hcrlf, hlf]
  decide +kernel

end Document

end HubRelay
