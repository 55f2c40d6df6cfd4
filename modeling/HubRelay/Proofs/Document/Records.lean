import HubRelay.Proofs.Document.Brackets
import HubRelay.Proofs.Document.FieldNames
import HubRelay.Proofs.Text.Findings

/-!
# Records are found by their lines

A reader finds a record by the lines of the document alone: it begins with `public record`, and its
methods are declared between that line and the next record or the end of its class (`record?`). The lines
of a record and of a class with messages are bracketed, so a search for the end of the class passes over
the block of a record (`untilRecord_append`), and in a class with messages there is one record for each
method of the contract, with a method for each target (`finds_record?_messagesParagraphs`).
-/

set_option autoImplicit false

namespace HubRelay

open Paragraph
open Text (hasPrefix findings Finds)

namespace Document

/-! ### What begins a record and what belongs to it -/

/-- Whether a line is the first of a record. -/
def isRecordLine (line : String) : Bool := hasPrefix "public record " line

/-- A line that declares a method of a record, with the line after it. -/
def call? (line : String) (rest : List String) : Option (String × Option String) :=
  if hasPrefix "public " line ∧ " CallOn".toList <:+: line.toList then some (line, rest.head?)
  else none

/-- The lines before the next record and before the end of the block that the first line stands in. -/
def untilRecord (lines : List String) : List String :=
  ((Text.depths id 0 lines).takeWhile fun entry ↦ 0 ≤ entry.1 && !isRecordLine entry.2).map (·.2)

/-- The first line of a record, with the methods that are declared before the next record and before the
end of the class. -/
def record? (line : String) (rest : List String) :
    Option (String × List (String × Option String)) :=
  if isRecordLine line then some (line, findings call? (untilRecord rest)) else none

/-! ### Lines at which nothing is found -/

/-- None of the lines is public. -/
def IsQuiet (lines : List String) : Prop := ∀ line ∈ lines, hasPrefix "public " line = false

/-- What begins a record is public. -/
theorem isRecordLine_public (text : String) :
    isRecordLine ("public " ++ text) = hasPrefix "record " text :=
  Text.hasPrefix_append_append "public " "record " text

theorem isRecordLine_eq_false {line : String} (h : hasPrefix "public " line = false) :
    isRecordLine line = false := by
  rw [← Bool.not_eq_true] at h ⊢
  rw [isRecordLine, Text.hasPrefix_iff] at *
  exact fun hrecord ↦ h ((List.prefix_append "public ".toList "record ".toList).trans hrecord)

theorem record?_eq_none {line : String} (h : isRecordLine line = false) (rest : List String) :
    record? line rest = none := by
  rw [record?, h, if_neg Bool.false_ne_true]

theorem call?_eq_none {line : String} (h : hasPrefix "public " line = false) (rest : List String) :
    call? line rest = none := by
  rw [call?, h, if_neg fun hcall ↦ Bool.false_ne_true hcall.1]

namespace IsQuiet

theorem singleton {text : String} (h : hasPrefix "public " text = false) : IsQuiet [text] :=
  List.forall_mem_singleton.mpr h

theorem cons {text : String} {part : List String} (htext : hasPrefix "public " text = false)
    (h : IsQuiet part) : IsQuiet (text :: part) := List.forall_mem_cons.mpr ⟨htext, h⟩

theorem blank : IsQuiet [""] := singleton (by decide)

theorem closing : IsQuiet ["\x7d"] := singleton (by decide)

variable {part : List String} (h : IsQuiet part)

include h

/-- In quiet lines no record is found. -/
theorem finds_record? : Finds record? part [] :=
  .none_of_forall fun _ hline ↦ record?_eq_none (isRecordLine_eq_false (h _ hline))

/-- In quiet lines no method of a record is found. -/
theorem finds_call? : Finds call? part [] := .none_of_forall fun _ hline ↦ call?_eq_none (h _ hline)

end IsQuiet

/-- A line that begins otherwise is not public. -/
theorem hasPrefix_public_eq_false {line : String} (h : line.toList.head? ≠ some 'p') :
    hasPrefix "public " line = false :=
  Text.hasPrefix_eq_false (by decide) fun hhead ↦ h hhead.symm

/-! ### Names of types -/

/-- However the text goes on, it does not start like a record after `public`. -/
def IsNoRecord (text : String) : Prop := ∀ rest, hasPrefix "record " (text ++ rest) = false

theorem isNoRecord_of_head? {text : String} (h : text.toList.head?.any (· != 'r') = true) :
    IsNoRecord text := by
  intro rest
  refine Text.hasPrefix_eq_false (by decide) fun hhead ↦ ?_
  cases hc : text.toList.head? with
  | none =>
    rw [hc] at h
    cases h
  | some c =>
    rw [String.toList_append, List.head?_append, hc] at hhead
    rw [hc, ← Option.some.inj hhead] at h
    exact absurd h (by decide)

theorem IsNoRecord.append {text : String} (h : IsNoRecord text) (more : String) :
    IsNoRecord (text ++ more) := by
  intro rest
  rw [String.append_assoc]
  exact h (more ++ rest)

/-- No name of a type in full starts like a record. -/
theorem isNoRecord_render {style : NameStyle} (hstyle : style ≠ .short) (type : TypeRef) :
    IsNoRecord (type.render style) := by
  have htable : ∀ entry ∈ Keyword.table, entry.1.toList.head?.any (· != 'r') = true := by decide
  have hqualification (container : String) : IsNoRecord (TypeRef.qualification style container) := by
    have hglobal : IsNoRecord "global::" := isNoRecord_of_head? (by decide)
    rw [TypeRef.qualification, if_neg hstyle]
    split
    · exact hglobal
    · exact (hglobal.append _).append _
  obtain ⟨container, name, arguments⟩ := type
  cases arguments with
  | nil =>
    rw [TypeRef.render]
    split
    split
    · next keyword hkeyword =>
      obtain ⟨entry, hentry, rfl⟩ := TypeRef.exists_mem_table_of_keywordIn?_eq_some hkeyword
      exact (isNoRecord_of_head? (htable entry hentry)).append _
    · exact ((hqualification container).append _).append _
  | cons first rest =>
    rw [TypeRef.render]
    exact ((((((hqualification container).append _).append _).append _).append _).append _).append _

variable (settings : Settings)

theorem isNoRecord_typeName (type : TypeRef) : IsNoRecord (typeName settings type) := by
  rw [typeName]
  split
  · exact isNoRecord_render (by decide) type
  · exact isNoRecord_render (by decide) type

/-! ### Lines of methods -/

theorem isRecordLine_forwardingLine (method : Method) :
    isRecordLine (forwardingLine settings method) = false := by
  unfold forwardingLine
  simp only [String.append_assoc, isRecordLine_public]
  exact isNoRecord_typeName settings method.returnType _

theorem isRecordLine_signatureLine (method : Method) (target : Target) :
    isRecordLine (signatureLine settings method target) = false := by
  unfold signatureLine
  simp only [String.append_assoc, isRecordLine_public]
  exact isNoRecord_typeName settings method.returnType _

theorem isRecordLine_recordLine (direction : Direction) (method : Method) :
    isRecordLine (recordLine settings direction method) = true := by
  unfold recordLine
  simp only [String.append_assoc]
  exact Text.hasPrefix_append ..

/-- A constructor starts like a record if the name of its class does. -/
theorem isRecordLine_constructorLine (hub : Hub) :
    isRecordLine (constructorLine hub) = hasPrefix "record " hub.bridgeType.name := by
  unfold constructorLine
  simp only [String.append_assoc, isRecordLine_public]
  exact Text.hasPrefix_append_of_notMem (c := '(') (by decide) (by simp)

theorem hasPrefix_public_deliveryLine (direction : Direction) (method : Method) (target : Target) :
    hasPrefix "public " (deliveryLine direction method target) = false := by
  refine hasPrefix_public_eq_false ?_
  rw [head?_deliveryLine]
  decide

/-- A method of a record is found with the line that delivers the call. -/
theorem call?_signatureLine (method : Method) (target : Target) (rest : List String) :
    call? (signatureLine settings method target) rest =
      some (signatureLine settings method target, rest.head?) := by
  have hpublic : hasPrefix "public " (signatureLine settings method target) = true := by
    unfold signatureLine
    simp only [String.append_assoc]
    exact Text.hasPrefix_append ..
  have hname : " CallOn".toList <:+: (signatureLine settings method target).toList := by
    refine ⟨("public " ++ typeName settings method.returnType).toList,
      (target.member ++ ("(" ++ (declared ((hubClients ++ "<" ++
        typeName settings method.declaringType ++ ">", "hubClients") :: target.parameters) ++
          ")"))).toList, ?_⟩
    unfold signatureLine Target.methodName
    simp only [← String.toList_append, String.append_assoc]
    rfl
  rw [call?, if_pos ⟨hpublic, hname⟩]

/-! ### Bodies of the parts -/

/-- A scope that indents puts its lines around the bodies inside. -/
theorem map_body_within {o : Opening} (ho : o.indents = true) (ps : List Paragraph) :
    (within o ps).map body = o.firstLines ++ ps.map body ++ o.lastLines := by
  have hline : body ∘ line = id := funext body_line
  have hinside : body ∘ inside o = body := funext fun p ↦ body_inside ho
  rw [within, List.map_append, List.map_append, List.map_map, List.map_map, List.map_map, hline,
    hinside, List.map_id, List.map_id]

theorem map_body_spaced (parts : List (List Paragraph)) :
    (spaced parts).map body = [""].intercalate (parts.map (·.map body)) := by
  induction parts with
  | nil => rfl
  | cons first rest ih =>
    cases rest with
    | nil => rw [spaced, List.intercalate_singleton, List.map_singleton, List.intercalate_singleton]
    | cons next more =>
      rw [spaced] at ih ⊢
      rw [List.intercalate_cons_cons, List.map_append, List.map_append, ih, List.map_singleton,
        body_line, List.map_cons, List.map_cons, List.map_cons, List.intercalate_cons_cons]

theorem map_body_dispatchParagraphs (direction : Direction) (method : Method) (target : Target) :
    (dispatchParagraphs settings direction method target).map body =
      [signatureLine settings method target, deliveryLine direction method target] := by
  rw [dispatchParagraphs, List.map_cons, map_body_within rfl, List.map_singleton, body_line, body_line]
  rfl

theorem map_body_deliveryParagraphs (direction : Direction) (method : Method) :
    (deliveryParagraphs settings direction method).map body =
      "\x7b" :: ([""].intercalate (Target.every.map fun target ↦
        [signatureLine settings method target, deliveryLine direction method target]) ++
          ["\x7d"]) := by
  rw [deliveryParagraphs, map_body_within rfl, map_body_spaced, List.map_map]
  simp only [Function.comp_def, map_body_dispatchParagraphs]
  rfl

/-- Documentation is quiet. -/
theorem isQuiet_referenceParagraphs (method : Method) :
    IsQuiet ((referenceParagraphs method).map body) := by
  have hdocumented {p : Paragraph} (hne : p.text ≠ "")
      (hscopes : p.scopes = [.documentation] ∨ p.scopes = [.summary, .documentation]) :
      hasPrefix "public " p.body = false := by
    rw [body_documented hne hscopes]
    exact hasPrefix_public_eq_false (by simp)
  intro text htext
  obtain ⟨p, hp, rfl⟩ := List.mem_map.mp htext
  have hcases : p = inside .documentation (line "<summary>") ∨
      p = inside .documentation (inside .summary (line (referenceLine method))) ∨
        p = inside .documentation (line "</summary>") := by
    simpa [referenceParagraphs, within, Opening.firstLines, Opening.lastLines] using hp
  rcases hcases with rfl | rfl | rfl
  · exact hdocumented (by decide) (.inl rfl)
  · exact hdocumented (referenceLine_ne_empty method) (.inr rfl)
  · exact hdocumented (by decide) (.inl rfl)

/-! ### Up to the next record -/

theorem untilRecord_cons_record {text : String} (h : isRecordLine text = true)
    (rest : List String) : untilRecord (text :: rest) = [] := by
  rw [untilRecord, Text.depths, List.takeWhile_cons_of_neg, List.map_nil]
  rw [h]
  simp

theorem untilRecord_cons_closing (rest : List String) : untilRecord ("\x7d" :: rest) = [] := by
  rw [untilRecord, Text.depths, List.takeWhile_cons_of_neg, List.map_nil]
  decide

/-- Lines of bracketed paragraphs without records are passed over. -/
theorem untilRecord_append {ps : List Paragraph} (h : IsBracketed ps)
    (hrecords : ∀ text ∈ ps.map body, isRecordLine text = false) (rest : List String) :
    untilRecord (ps.map body ++ rest) = ps.map body ++ untilRecord rest := by
  have hrise : Text.rise id (ps.map body) = 0 := (Text.rise_map id body ps).trans h.rise_eq
  have hpassed : ∀ entry ∈ Text.depths id 0 (ps.map body),
      (decide (0 ≤ entry.1) && !isRecordLine entry.2) = true := by
    intro entry hentry
    rw [hrecords _ (Text.mem_of_mem_depths hentry)]
    rw [Text.depths_map] at hentry
    obtain ⟨place, hplace, rfl⟩ := List.mem_map.mp hentry
    simpa using (h.depth_eq place hplace).1
  rw [untilRecord, Text.depths_append, hrise, Int.add_zero, List.takeWhile_append_of_pos hpassed,
    List.map_append, Text.map_snd_depths, untilRecord]

/-! ### Records -/

/-- The names of a record's fields are those of the connection, and then those that its methods pass
on, one for each parameter. -/
theorem map_snd_recordFields (direction : Direction) (method : Method) :
    (recordFields settings direction method).map (·.2) =
        direction.contextFields.map (·.2) ++ Field.names direction method ∧
      (Field.names direction method).length = method.parameters.length := by
  have hlength := Field.length_names direction method
  have hzip : ((method.parameters.zip (Field.names direction method)).map fun entry ↦
      (typeName settings entry.1.type, entry.2)).map (·.2) = Field.names direction method := by
    rw [List.map_map]
    exact List.map_snd_zip (Nat.le_of_eq hlength)
  exact ⟨by rw [recordFields, List.map_append, hzip], hlength⟩

/-- What is found of a record: its first line, and for each target the method that delivers to it. -/
def recordOf (direction : Direction) (method : Method) : String × List (String × Option String) :=
  (recordLine settings direction method, Target.every.map fun target ↦
    (signatureLine settings method target, some (deliveryLine direction method target)))

/-- In the block of a record no other record begins. -/
theorem isRecordLine_of_mem_deliveryParagraphs (direction : Direction) (method : Method) :
    ∀ text ∈ (deliveryParagraphs settings direction method).map body,
      isRecordLine text = false := by
  rw [map_body_deliveryParagraphs]
  refine List.forall_mem_cons.mpr ⟨by decide, List.forall_mem_append.mpr
    ⟨Text.forall_mem_intercalate (by decide) fun part hpart ↦ ?_, by decide⟩⟩
  obtain ⟨target, -, rfl⟩ := List.mem_map.mp hpart
  exact List.forall_mem_cons.mpr ⟨isRecordLine_signatureLine settings method target,
    List.forall_mem_singleton.mpr
      (isRecordLine_eq_false (hasPrefix_public_deliveryLine direction method target))⟩

/-- In the block of a record there is a method for each target. -/
theorem finds_call?_deliveryParagraphs (direction : Direction) (method : Method) :
    Finds call? ((deliveryParagraphs settings direction method).map body)
      (recordOf settings direction method).2 := by
  have hdispatch (target : Target) : Finds call?
      [signatureLine settings method target, deliveryLine direction method target]
      [(signatureLine settings method target, some (deliveryLine direction method target))] :=
    .cons (fun rest ↦ call?_signatureLine settings method target _)
      (IsQuiet.singleton (hasPrefix_public_deliveryLine direction method target)).finds_call?
  have hblank : Finds call? [""] [] := IsQuiet.blank.finds_call?
  have hclosing : Finds call? ["\x7d"] [] := IsQuiet.closing.finds_call?
  have hevery : Finds call?
      ([""].intercalate (Target.every.map fun target ↦
        [signatureLine settings method target, deliveryLine direction method target]))
      (Target.every.flatMap fun target ↦
        [(signatureLine settings method target, some (deliveryLine direction method target))]) :=
    .intercalate hblank fun target _ ↦ hdispatch target
  have hbody := hevery.append hclosing
  rw [List.append_nil, ← List.map_eq_flatMap] at hbody
  rw [map_body_deliveryParagraphs, recordOf]
  exact hbody.skip fun _ ↦ call?_eq_none (by decide) _

section Messages

variable (direction : Direction) {method : Method} (h : method.IsOneLine) {tail : List String}

include h

/-- A record is found before lines that go on without methods. -/
theorem findings_record?_message (htail : findings call? (untilRecord tail) = []) :
    findings record? ((messageParagraphs settings direction method).map body ++ tail) =
      recordOf settings direction method :: findings record? tail := by
  have hrecords := isRecordLine_of_mem_deliveryParagraphs settings direction method
  have hblock : Finds record? ((deliveryParagraphs settings direction method).map body) [] :=
    .none_of_forall fun text htext ↦ record?_eq_none (hrecords text htext)
  have hcalls : findings call?
      (untilRecord ((deliveryParagraphs settings direction method).map body ++ tail)) =
        (recordOf settings direction method).2 := by
    rw [untilRecord_append (isBracketed_deliveryParagraphs settings h direction) hrecords,
      finds_call?_deliveryParagraphs, htail, List.append_nil]
  rw [messageParagraphs, List.map_append, List.map_cons, body_line, List.append_assoc,
    (isQuiet_referenceParagraphs method).finds_record?, List.cons_append, findings, record?,
    if_pos (isRecordLine_recordLine settings direction method), hcalls, hblock]
  rfl

/-- Before a record, in the lines after an empty one, there are no methods. -/
theorem findings_call?_message :
    findings call? (untilRecord
      ("" :: ((messageParagraphs settings direction method).map body ++ tail))) = [] := by
  have hbracketed := (isBracketed_referenceParagraphs h).afterLine (by decide : IsPlain "")
  have hquiet : IsQuiet ((line "" :: referenceParagraphs method).map body) := by
    rw [List.map_cons, body_line]
    exact .cons (by decide) (isQuiet_referenceParagraphs method)
  have hlines : "" :: ((messageParagraphs settings direction method).map body ++ tail) =
      (line "" :: referenceParagraphs method).map body ++
        (recordLine settings direction method ::
          ((deliveryParagraphs settings direction method).map body ++ tail)) := by
    rw [messageParagraphs, List.map_append, List.map_cons, List.map_cons, body_line, body_line,
      List.append_assoc]
    rfl
  rw [hlines, untilRecord_append hbracketed fun text htext ↦ isRecordLine_eq_false (hquiet text htext),
    untilRecord_cons_record (isRecordLine_recordLine settings direction method), List.append_nil]
  exact hquiet.finds_call?.findings_eq

end Messages

/-- The records in a class with messages, up to the end of the class. -/
theorem findings_record?_messages (direction : Direction) {methods : List Method}
    (h : ∀ method ∈ methods, method.IsOneLine) (rest : List String) :
    findings record?
        ((spaced (methods.map (messageParagraphs settings direction))).map body ++ "\x7d" :: rest) =
      methods.map (recordOf settings direction) ++ findings record? rest := by
  have hclosing : findings record? ("\x7d" :: rest) = findings record? rest :=
    IsQuiet.closing.finds_record? rest
  induction methods with
  | nil => exact hclosing
  | cons method more ih =>
    obtain ⟨hmethod, hmore⟩ := List.forall_mem_cons.mp h
    cases more with
    | nil =>
      rw [List.map_singleton, spaced, List.intercalate_singleton,
        findings_record?_message settings direction hmethod, hclosing, List.map_singleton]
      · rfl
      · rw [untilRecord_cons_closing]
        rfl
    | cons next others =>
      have hblank (lines : List String) : findings record? ("" :: lines) = findings record? lines :=
        IsQuiet.blank.finds_record? lines
      obtain ⟨after, hafter⟩ : ∃ after,
          (spaced ((next :: others).map (messageParagraphs settings direction))).map body =
            (messageParagraphs settings direction next).map body ++ after := by
        rw [map_body_spaced, List.map_cons, List.map_cons]
        cases others with
        | nil => exact ⟨[], by rw [List.map_nil, List.map_nil, List.intercalate_singleton,
            List.append_nil]⟩
        | cons another last =>
          rw [List.map_cons, List.map_cons, List.intercalate_cons_cons, List.append_assoc]
          exact ⟨_, rfl⟩
      rw [List.map_cons, List.map_cons, spaced, List.intercalate_cons_cons, ← spaced, ← List.map_cons,
        List.map_append, List.map_append, List.map_singleton, body_line, List.append_assoc,
        List.append_assoc, findings_record?_message settings direction hmethod]
      · rw [List.singleton_append, hblank, ih hmore]
        rfl
      · rw [List.singleton_append, hafter, List.append_assoc]
        exact findings_call?_message settings direction (hmore next List.mem_cons_self)

/-! ### Classes with messages -/

/-- The first line of a class with messages. -/
theorem messagesLine_eq (direction : Direction) :
    String.join (["public", "static"].map (· ++ " ")) ++ "class " ++ direction.className =
      "public static class " ++ direction.className := by
  cases direction <;> decide

theorem map_body_messagesParagraphs (direction : Direction) (contract : Contract) :
    (messagesParagraphs settings direction contract).map body =
      ("public static class " ++ direction.className) :: "\x7b" ::
        ((spaced (contract.methods.map (messageParagraphs settings direction))).map body ++
          ["\x7d"]) := by
  rw [messagesParagraphs, map_body_within rfl, Opening.firstLines, Opening.lastLines,
    messagesLine_eq]
  rfl

/-- The records of a class with messages. -/
theorem finds_record?_messagesParagraphs (direction : Direction) {contract : Contract}
    (h : ∀ method ∈ contract.methods, method.IsOneLine) :
    Finds record? ((messagesParagraphs settings direction contract).map body)
      (contract.methods.map (recordOf settings direction)) := by
  intro rest
  have hclass : isRecordLine ("public static class " ++ direction.className) = false := by
    cases direction <;> decide
  have hopening : isRecordLine "\x7b" = false := by decide
  rw [map_body_messagesParagraphs, List.cons_append, findings, record?_eq_none hclass,
    List.cons_append, findings, record?_eq_none hopening, List.append_assoc]
  exact findings_record?_messages settings direction h rest

end Document

end HubRelay
