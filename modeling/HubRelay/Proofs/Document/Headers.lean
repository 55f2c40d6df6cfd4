import HubRelay.Proofs.Document.Paragraphs
import Mathlib.Data.List.Basic

/-!
# The headers of hubs

The part of a hub in the document begins with the namespace of its class, unless that is the global
one, and with the first line of the class (`openingLines_prefix_partLines`). Carriage returns are not
written, and a line feed in a name begins a new line. Nothing else is lost: the parts of two hubs begin
with the same lines just when their classes have the same name, and the same namespace without
`global::` before it, carriage returns aside (`header_eq_iff`).
-/

set_option autoImplicit false

namespace HubRelay

namespace Text

/-- The characters of a text that are written: all but carriage returns. -/
def written (text : String) : List Char := text.toList.filter (· ≠ '\r')

/-- Texts that start with the same text are written alike when what follows is. -/
theorem written_append_eq_iff (start : String) {first second : String} :
    written (start ++ first) = written (start ++ second) ↔ written first = written second := by
  rw [written, written, String.toList_append, String.toList_append, List.filter_append,
    List.filter_append, List.append_right_inj, written, written]

/-- The text is what stands between its separators. -/
theorem pieces_injective (separator : Char) : Function.Injective (pieces separator) :=
  Function.LeftInverse.injective (intercalate_pieces separator)

theorem length_trimEnd_le (text : String) : (trimEnd text).length ≤ text.length := by
  have hdropped := (List.dropWhile_sublist (l := text.toList.reverse) isBlank).length_le
  rw [List.length_reverse] at hdropped
  rwa [trimEnd, String.length_ofList, List.length_reverse, ← String.length_toList]

end Text

namespace Paragraph

open Writer

variable (indentText : String) (scopes : List Opening)

/-- Lines with different pieces on them are different. An empty line is the only one that is no longer
than what lines begin with. -/
theorem pieceText_injective : Function.Injective (pieceText indentText scopes) := by
  have hlonger {piece : List Char} (h : piece ≠ []) :
      (pieceText indentText scopes []).length < (pieceText indentText scopes piece).length := by
    have hpiece := List.length_pos_iff.mpr h
    have htrimmed := Text.length_trimEnd_le (fixedHead indentText scopes)
    rw [pieceText, pieceText, if_pos rfl, if_neg h, headOf_eq_fixedHead_append, String.length_append,
      String.length_append, String.length_ofList]
    omega
  intro first second h
  by_cases hfirst : first = [] <;> by_cases hsecond : second = []
  · rw [hfirst, hsecond]
  · rw [hfirst] at h
    exact absurd (congrArg String.length h) (Nat.ne_of_lt (hlonger hsecond))
  · rw [hsecond] at h
    exact absurd (congrArg String.length h) (Nat.ne_of_gt (hlonger hfirst))
  · rw [pieceText, pieceText, if_neg hfirst, if_neg hsecond] at h
    exact String.ofList_injective (String.append_right_inj _ |>.mp h)

/-- A text inside scopes can be read off its lines, carriage returns aside. -/
theorem lineTexts_eq_iff {first second : String} :
    lineTexts indentText ⟨scopes, first⟩ = lineTexts indentText ⟨scopes, second⟩ ↔
      Text.written first = Text.written second := by
  have hinjective := List.map_injective_iff.mpr (pieceText_injective indentText scopes)
  exact (hinjective.comp (Text.pieces_injective '\n')).eq_iff

end Paragraph

open Paragraph Writer

namespace Document

/-! ### The lines that a hub begins with -/

/-- A namespace without `global::` before it. -/
def localNamespace (container : String) : String :=
  String.ofList (withoutGlobal container.toList.length container.toList)

theorem hubNamespace_eq (hub : Hub) :
    hubNamespace hub = localNamespace hub.bridgeType.container := rfl

/-- What is written of a namespace, `none` for the global one. -/
def writtenNamespace (container : String) : Option (List Char) :=
  if (localNamespace container).isEmpty then none else some (Text.written (localNamespace container))

theorem isNone_writtenNamespace (container : String) :
    (writtenNamespace container).isNone = (localNamespace container).isEmpty := by
  rw [writtenNamespace]
  split
  · next hempty => exact hempty.symm
  · next hempty => exact (Bool.eq_false_iff.mpr hempty).symm

/-- The scopes that a hub's class stands in. -/
def classScopes (hub : Hub) : List Opening :=
  if (hubNamespace hub).isEmpty then [] else [.namespaceBlock (hubNamespace hub)]

/-- The first line of a hub's class. -/
def classLine (hub : Hub) : String := "public partial class " ++ hub.bridgeType.name

variable (settings : Settings)

/-- The lines that open the namespace of a hub's class. There are none for the global namespace. -/
def namespaceLines (hub : Hub) : List String :=
  if (hubNamespace hub).isEmpty then []
  else lineTexts settings.indent (line ("namespace " ++ hubNamespace hub)) ++ ["\x7b"]

/-- The lines with the first line of a hub's class. It is one line, unless the name holds more. -/
def classLines (hub : Hub) : List String :=
  lineTexts settings.indent ⟨classScopes hub, classLine hub⟩

/-- The lines of the part of a hub. -/
def partLines (hub : Hub) : List String :=
  (hubParagraphs settings hub).flatMap (lineTexts settings.indent)

/-- The part of a hub begins with its namespace and the first line of its class. -/
theorem openingLines_prefix_partLines (hub : Hub) :
    namespaceLines settings hub ++ classLines settings hub <+: partLines settings hub := by
  have hbrace : lineTexts settings.indent (line "\x7b") = ["\x7b"] := by
    rw [lineTexts_of_isOneLine (by decide), lineText_line]
  obtain ⟨rest, hclass⟩ : ∃ rest, classParagraphs settings hub = line (classLine hub) :: rest :=
    ⟨_, rfl⟩
  rw [namespaceLines, classLines, partLines, hubParagraphs, classScopes, hclass]
  split
  · exact List.prefix_append _ _
  · obtain ⟨more, hnamespace⟩ : ∃ more, Paragraph.within (.namespaceBlock (hubNamespace hub))
        (line (classLine hub) :: rest) =
          line ("namespace " ++ hubNamespace hub) :: line "\x7b" ::
            ⟨[.namespaceBlock (hubNamespace hub)], classLine hub⟩ :: more := ⟨_, rfl⟩
    rw [hnamespace, List.flatMap_cons, List.flatMap_cons, List.flatMap_cons, hbrace,
      ← List.append_assoc, ← List.append_assoc]
    exact List.prefix_append _ _

/-- After the header of the document there are the parts of its hubs, each after an empty line. -/
theorem afterLines_text_eq_partLines (hubs : List Hub) :
    Text.afterLines 2 (ofHubs hubs settings).text =
      String.join ((hubs.flatMap fun hub ↦ "" :: partLines settings hub).map
        (· ++ settings.newline.text)) := by
  have hpart (hub : Hub) : (line "" :: hubParagraphs settings hub).flatMap
      (lineTexts settings.indent) = "" :: partLines settings hub := by
    rw [List.flatMap_cons, lineTexts_of_isOneLine Text.isOneLine_empty, lineText_line,
      List.singleton_append, partLines]
  simp only [afterLines_text_ofHubs, hubsParagraphs, List.flatMap_assoc, hpart]

variable {h k : Hub}

/-- The namespace of a hub's class can be read off its lines, as far as it is written. -/
theorem namespaceLines_eq_iff : namespaceLines settings h = namespaceLines settings k ↔
    writtenNamespace h.bridgeType.container = writtenNamespace k.bridgeType.container := by
  have hnonempty (lines : List String) : lines ++ ["\x7b"] ≠ [] :=
    List.append_ne_nil_of_right_ne_nil _ (List.cons_ne_nil _ _)
  rw [namespaceLines, namespaceLines, writtenNamespace, writtenNamespace, ← hubNamespace_eq,
    ← hubNamespace_eq]
  by_cases hh : (hubNamespace h).isEmpty <;> by_cases hk : (hubNamespace k).isEmpty
  · rw [if_pos hh, if_pos hk, if_pos hh, if_pos hk]
    exact iff_of_true rfl rfl
  · rw [if_pos hh, if_neg hk, if_pos hh, if_neg hk]
    exact iff_of_false (hnonempty _).symm (by simp)
  · rw [if_neg hh, if_pos hk, if_neg hh, if_pos hk]
    exact iff_of_false (hnonempty _) (by simp)
  · rw [if_neg hh, if_neg hk, if_neg hh, if_neg hk, List.append_left_inj, Option.some_inj]
    exact (lineTexts_eq_iff _ _).trans (Text.written_append_eq_iff _)

/-- The name of a hub's class can be read off its lines, as far as it is written, if it is known whether
the class is in the global namespace. -/
theorem classLines_eq_iff (hglobal : (hubNamespace h).isEmpty = (hubNamespace k).isEmpty) :
    classLines settings h = classLines settings k ↔
      Text.written h.bridgeType.name = Text.written k.bridgeType.name := by
  -- A namespace is one level of indentation, whatever its name is.
  have hscopes : classLines settings h =
      lineTexts settings.indent ⟨classScopes k, classLine h⟩ := by
    rw [classLines, classScopes, classScopes, hglobal]
    split <;> rfl
  rw [hscopes, classLines, lineTexts_eq_iff]
  exact Text.written_append_eq_iff _

/-- The parts of two hubs begin with the same lines just when the namespaces and the names of their
classes are written alike. -/
theorem header_eq_iff :
    namespaceLines settings h = namespaceLines settings k ∧
        classLines settings h = classLines settings k ↔
      writtenNamespace h.bridgeType.container = writtenNamespace k.bridgeType.container ∧
        Text.written h.bridgeType.name = Text.written k.bridgeType.name := by
  rw [namespaceLines_eq_iff]
  refine and_congr_right fun hnamespace ↦ classLines_eq_iff settings ?_
  have hglobal := congrArg Option.isNone hnamespace
  rwa [isNone_writtenNamespace, isNone_writtenNamespace] at hglobal

end Document

end HubRelay
