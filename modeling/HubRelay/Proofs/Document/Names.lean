import HubRelay.Proofs.Document.Paragraphs
import HubRelay.Proofs.Text.Cases

/-!
# Names on one line

A reference, a method and a hub are on one line when no line ends in any name or namespace in them. What
the document makes of them is then on one line as well: the names of types in every style
(`TypeRef.IsOneLine.render`), the names of fields, and with them the lines of the document, which are
put together from names and constant texts.
-/

set_option autoImplicit false

namespace HubRelay

/-! ### References, methods and hubs -/

/-- No line ends in a name or a namespace of the reference. -/
inductive TypeRef.IsOneLine : TypeRef → Prop
  | intro {container name : String} {arguments : List TypeRef}
      (hcontainer : Text.IsOneLine container) (hname : Text.IsOneLine name)
      (harguments : ∀ argument ∈ arguments, IsOneLine argument) :
      IsOneLine ⟨container, name, arguments⟩

theorem TypeRef.IsOneLine.container {type : TypeRef} (h : type.IsOneLine) :
    Text.IsOneLine type.container := by
  cases h
  assumption

theorem TypeRef.IsOneLine.name {type : TypeRef} (h : type.IsOneLine) : Text.IsOneLine type.name := by
  cases h
  assumption

theorem TypeRef.IsOneLine.arguments {type : TypeRef} (h : type.IsOneLine) :
    ∀ argument ∈ type.arguments, argument.IsOneLine := by
  cases h
  assumption

/-- No line ends in a name or a namespace of the method. -/
structure Method.IsOneLine (method : Method) : Prop where
  name : Text.IsOneLine method.name
  returnType : method.returnType.IsOneLine
  declaringType : method.declaringType.IsOneLine
  parameterName : ∀ p ∈ method.parameters, Text.IsOneLine p.name
  parameterType : ∀ p ∈ method.parameters, p.type.IsOneLine

/-- No line ends in a name or a namespace of the hub. -/
structure Hub.IsOneLine (hub : Hub) : Prop where
  bridgeType : hub.bridgeType.IsOneLine
  clientType : hub.client.type.IsOneLine
  clientMethods : ∀ method ∈ hub.client.methods, method.IsOneLine
  serverType : hub.server.type.IsOneLine
  serverMethods : ∀ method ∈ hub.server.methods, method.IsOneLine

/-- No line ends in the indentation or in the prefix of dispatcher paths, and the indentation is white
space. -/
structure Settings.IsOneLine (settings : Settings) : Prop where
  dispatcherPathPrefix : Text.IsOneLine settings.dispatcherPathPrefix
  indent : Text.IsOneLine settings.indent
  indentIsBlank : ∀ c ∈ settings.indent.toList, Text.isBlank c = true

/-- A reference without arguments is on one line when its parts are. -/
theorem TypeRef.isOneLine_plain {container name : String} (hcontainer : Text.IsOneLine container)
    (hname : Text.IsOneLine name) : (TypeRef.plain container name).IsOneLine :=
  .intro hcontainer hname (List.forall_mem_nil _)

/-! ### Lists of texts -/

namespace Text

/-- Texts on one line with one on one line between any two. -/
theorem isOneLine_intercalate {separator : String} (hseparator : IsOneLine separator)
    {texts : List String} (h : ∀ text ∈ texts, IsOneLine text) :
    IsOneLine (separator.intercalate texts) := by
  induction texts with
  | nil => exact isOneLine_empty
  | cons first rest ih =>
    obtain ⟨hfirst, hrest⟩ := List.forall_mem_cons.mp h
    cases rest with
    | nil => rwa [String.intercalate_singleton]
    | cons next more =>
      rw [String.intercalate_cons_cons]
      exact isOneLine_append.mpr ⟨isOneLine_append.mpr ⟨hfirst, hseparator⟩, ih hrest⟩

end Text

/-! ### Names of types -/

namespace TypeRef

open Text (isOneLine_append)

/-- The parts of a name on one line are on one line. -/
theorem isOneLine_splitSuffix {name : String} (h : Text.IsOneLine name) :
    Text.IsOneLine (splitSuffix name).1 ∧ Text.IsOneLine (splitSuffix name).2 :=
  ⟨h.ofList (List.takeWhile_subset _), h.ofList (List.drop_subset _ _)⟩

/-- A style writes no keywords but those of the table. -/
theorem exists_mem_table_of_keywordIn?_eq_some {style : NameStyle}
    {container name stem keyword : String}
    (h : keywordIn? style container name stem = some keyword) :
    ∃ entry ∈ Keyword.table, entry.1 = keyword := by
  rw [keywordIn?] at h
  split at h
  · obtain rfl := Option.some.inj h
    exact ⟨("void", "Void"), by decide, rfl⟩
  · split at h
    · rw [Keyword.ofType?] at h
      split at h
      · obtain ⟨entry, hentry, rfl⟩ := Option.map_eq_some_iff.mp h
        exact ⟨entry, List.mem_of_find?_eq_some hentry, rfl⟩
      · cases h
    · cases h

theorem isOneLine_qualification (style : NameStyle) {container : String}
    (h : Text.IsOneLine container) : Text.IsOneLine (qualification style container) := by
  have hglobal : Text.IsOneLine "global::" := by decide
  have hdot : Text.IsOneLine "." := by decide
  rw [qualification]
  split
  · exact Text.isOneLine_empty
  · split
    · exact hglobal
    · exact isOneLine_append.mpr ⟨isOneLine_append.mpr ⟨hglobal, h⟩, hdot⟩

theorem isOneLine_brackets (style : NameStyle) :
    Text.IsOneLine style.brackets.1 ∧ Text.IsOneLine style.brackets.2.1 ∧
      Text.IsOneLine style.brackets.2.2 := by
  cases style <;> decide

/-- Further arguments on one line are written on it. -/
theorem isOneLine_renderMore (style : NameStyle) {arguments : List TypeRef}
    (h : ∀ argument ∈ arguments, Text.IsOneLine (argument.render style)) :
    Text.IsOneLine (renderMore style arguments) := by
  obtain ⟨-, hseparator, -⟩ := isOneLine_brackets style
  induction arguments with
  | nil =>
    rw [renderMore]
    exact Text.isOneLine_empty
  | cons next rest ih =>
    obtain ⟨hnext, hrest⟩ := List.forall_mem_cons.mp h
    rw [renderMore]
    exact isOneLine_append.mpr ⟨isOneLine_append.mpr ⟨hseparator, hnext⟩, ih hrest⟩

/-- A reference on one line is named on one line. -/
theorem IsOneLine.render {type : TypeRef} (h : type.IsOneLine) (style : NameStyle) :
    Text.IsOneLine (type.render style) := by
  induction h with
  | @intro container name arguments hcontainer hname _ ih =>
    have htable : ∀ entry ∈ Keyword.table, Text.IsOneLine entry.1 := by decide
    obtain ⟨hstem, hsuffix⟩ := isOneLine_splitSuffix hname
    have hqualification := isOneLine_qualification style hcontainer
    cases arguments with
    | nil =>
      rw [TypeRef.render]
      split
      next stem suffix hsplit =>
        rw [hsplit] at hstem hsuffix
        split
        · next keyword hkeyword =>
          obtain ⟨entry, hentry, rfl⟩ := exists_mem_table_of_keywordIn?_eq_some hkeyword
          exact isOneLine_append.mpr ⟨htable entry hentry, hsuffix⟩
        · exact isOneLine_append.mpr ⟨isOneLine_append.mpr ⟨hqualification, hstem⟩, hsuffix⟩
    | cons first rest =>
      obtain ⟨hfirst, hrest⟩ := List.forall_mem_cons.mp ih
      obtain ⟨hopening, -, hclosing⟩ := isOneLine_brackets style
      have hmore := isOneLine_renderMore style hrest
      rw [TypeRef.render]
      simp only [isOneLine_append]
      exact ⟨⟨⟨⟨⟨⟨hqualification, hstem⟩, hopening⟩, hfirst⟩, hmore⟩, hclosing⟩, hsuffix⟩

end TypeRef

namespace Document

open Text (isOneLine_append isOneLine_intercalate)

theorem isOneLine_typeName (settings : Settings) {type : TypeRef} (h : type.IsOneLine) :
    Text.IsOneLine (typeName settings type) := by
  rw [typeName]
  split
  · exact h.render .keyword
  · exact h.render .global

end Document

/-- A method on one line is referred to on one line. -/
theorem Method.IsOneLine.cref {method : Method} (h : method.IsOneLine) :
    Text.IsOneLine method.cref := by
  have htypes : ∀ text ∈ method.parameters.map fun p ↦ p.type.crefName, Text.IsOneLine text := by
    intro text htext
    obtain ⟨p, hp, rfl⟩ := List.mem_map.mp htext
    exact (h.parameterType p hp).render .cref
  have hcomma : Text.IsOneLine "," := by decide
  have hdeclaring : Text.IsOneLine method.declaringType.crefName := h.declaringType.render .cref
  simp +decide only [Method.cref, Text.isOneLine_append, hdeclaring, h.name,
    Text.isOneLine_intercalate hcomma htypes, and_self]

/-! ### Names of fields -/

namespace Field

open Text (isOneLine_append)

theorem isOneLine_suggestion {parameter : String} (h : Text.IsOneLine parameter) :
    Text.IsOneLine (suggestion parameter) :=
  Text.isOneLine_capitalize (h.ofList (List.dropWhile_subset _))

theorem isOneLine_numbered (taken : Std.HashSet String) {base : String} (h : Text.IsOneLine base)
    (number bound : Nat) : Text.IsOneLine (numbered taken base number bound) := by
  have hnumber (number : Nat) : Text.IsOneLine (base ++ toString number) :=
    isOneLine_append.mpr ⟨h, Document.isOneLine_toString number⟩
  induction bound generalizing number with
  | zero => exact hnumber number
  | succ bound ih =>
    rw [numbered]
    split
    · exact ih (number + 1)
    · exact hnumber number

theorem isOneLine_fresh (taken : Std.HashSet String) {base : String} (h : Text.IsOneLine base) :
    Text.IsOneLine (fresh taken base) := by
  rw [fresh]
  split
  · exact isOneLine_numbered taken h 2 taken.size
  · exact h

/-- Names for suggestions on one line are on one line. -/
theorem isOneLine_of_mem_assign {suggestions : List String}
    (h : ∀ base ∈ suggestions, Text.IsOneLine base) (taken : Std.HashSet String) :
    ∀ name ∈ assign taken suggestions, Text.IsOneLine name := by
  induction suggestions generalizing taken with
  | nil => exact List.forall_mem_nil _
  | cons base rest ih =>
    obtain ⟨hbase, hrest⟩ := List.forall_mem_cons.mp h
    exact List.forall_mem_cons.mpr ⟨isOneLine_fresh taken hbase, ih hrest _⟩

theorem isOneLine_of_mem_names (direction : Direction) {method : Method} (h : method.IsOneLine) :
    ∀ name ∈ names direction method, Text.IsOneLine name := by
  refine isOneLine_of_mem_assign (fun base hbase ↦ ?_) _
  obtain ⟨p, hp, rfl⟩ := List.mem_map.mp hbase
  exact isOneLine_suggestion (h.parameterName p hp)

end Field

/-! ### Lines of the document -/

namespace Document

open Text (isOneLine_append isOneLine_intercalate)

variable (settings : Settings)

/-- Types and names on one line are declared on one line. -/
theorem isOneLine_declared {entries : List (String × String)}
    (h : ∀ entry ∈ entries, Text.IsOneLine entry.1 ∧ Text.IsOneLine entry.2) :
    Text.IsOneLine (declared entries) := by
  refine isOneLine_intercalate (by decide) fun text htext ↦ ?_
  obtain ⟨entry, hentry, rfl⟩ := List.mem_map.mp htext
  obtain ⟨htype, hname⟩ := h entry hentry
  exact isOneLine_append.mpr ⟨isOneLine_append.mpr ⟨htype, by decide⟩, hname⟩

section Methods

variable {method : Method} (h : method.IsOneLine)

include h

theorem isOneLine_forwardingLine : Text.IsOneLine (forwardingLine settings method) := by
  have hparameters : Text.IsOneLine
      (declared (method.parameters.map fun p ↦ (typeName settings p.type, p.name))) := by
    refine isOneLine_declared fun entry hentry ↦ ?_
    obtain ⟨p, hp, rfl⟩ := List.mem_map.mp hentry
    exact ⟨isOneLine_typeName settings (h.parameterType p hp), h.parameterName p hp⟩
  have hreturn := isOneLine_typeName settings h.returnType
  unfold forwardingLine
  simp only [isOneLine_append, hreturn, h.name, hparameters, and_true]
  exact ⟨⟨⟨.literal rfl (by decide), .literal rfl (by decide)⟩, .literal rfl (by decide)⟩,
    .literal rfl (by decide)⟩

theorem isOneLine_postingLine : Text.IsOneLine (postingLine method) := by
  have hcontext : ∀ text ∈ contextArguments, Text.IsOneLine text := by decide
  have harguments : Text.IsOneLine
      (", ".intercalate (contextArguments ++ method.parameters.map (·.name))) := by
    refine isOneLine_intercalate (by decide) (List.forall_mem_append.mpr ⟨hcontext, ?_⟩)
    intro text htext
    obtain ⟨p, hp, rfl⟩ := List.mem_map.mp htext
    exact h.parameterName p hp
  unfold postingLine
  simp only [isOneLine_append, h.name, harguments, and_true]
  exact ⟨⟨⟨⟨.literal rfl (by decide), .literal rfl (by decide)⟩, .literal rfl (by decide)⟩,
    .literal rfl (by decide)⟩, .literal rfl (by decide)⟩

theorem isOneLine_of_completion?_eq_some {value : String}
    (hvalue : completion? settings method.returnType = some value) : Text.IsOneLine value := by
  have hresults := h.returnType.arguments
  unfold completion? at hvalue
  split at hvalue
  · cases hvalue
  · rw [← Option.some.inj hvalue]
    split
    · split
      · have hglobal : Text.IsOneLine ("global::" ++ tasks) :=
          isOneLine_append.mpr ⟨.literal rfl (by decide), .literal rfl (by decide)⟩
        exact isOneLine_append.mpr ⟨hglobal, .literal rfl (by decide)⟩
      · next result hresult =>
        rw [hresult] at hresults
        have hname := isOneLine_typeName settings (hresults result List.mem_cons_self)
        simp only [isOneLine_append, hname, and_true]
        exact ⟨⟨⟨.literal rfl (by decide), .literal rfl (by decide)⟩, .literal rfl (by decide)⟩,
          .literal rfl (by decide)⟩
      · exact .literal rfl (by decide)
    · split
      · split <;> exact .literal rfl (by decide)
      · exact .literal rfl (by decide)

theorem isOneLine_recordLine (direction : Direction) :
    Text.IsOneLine (recordLine settings direction method) := by
  have hcontext : ∀ entry ∈ direction.contextFields,
      Text.IsOneLine entry.1 ∧ Text.IsOneLine entry.2 := by
    cases direction <;> decide
  have hfields : Text.IsOneLine (declared (recordFields settings direction method)) := by
    refine isOneLine_declared (List.forall_mem_append.mpr ⟨hcontext, fun entry hentry ↦ ?_⟩)
    obtain ⟨⟨p, name⟩, hmem, rfl⟩ := List.mem_map.mp hentry
    obtain ⟨hp, hname⟩ := List.of_mem_zip hmem
    exact ⟨isOneLine_typeName settings (h.parameterType p hp),
      Field.isOneLine_of_mem_names direction h name hname⟩
  unfold recordLine
  simp only [isOneLine_append, h.name, hfields, and_true]
  exact ⟨⟨.literal rfl (by decide), .literal rfl (by decide)⟩, .literal rfl (by decide)⟩

theorem isOneLine_signatureLine (target : Target) :
    Text.IsOneLine (signatureLine settings method target) := by
  have hdeclaring := isOneLine_typeName settings h.declaringType
  have hclients :
      Text.IsOneLine (hubClients ++ "<" ++ typeName settings method.declaringType ++ ">") := by
    simp only [isOneLine_append, hdeclaring, and_true]
    exact ⟨⟨.literal rfl (by decide), .literal rfl (by decide)⟩, .literal rfl (by decide)⟩
  have hnames : Text.IsOneLine Target.nameList := .literal rfl (by decide)
  have htarget : ∀ entry ∈ target.parameters, Text.IsOneLine entry.1 ∧ Text.IsOneLine entry.2 := by
    cases target <;> simp only [Target.parameters, List.forall_mem_cons, hnames, true_and] <;> decide
  have hparameters : Text.IsOneLine (declared
      ((hubClients ++ "<" ++ typeName settings method.declaringType ++ ">", "hubClients") ::
        target.parameters)) := by
    refine isOneLine_declared (List.forall_mem_cons.mpr ⟨⟨hclients, ?_⟩, htarget⟩)
    exact .literal rfl (by decide)
  have hname : Text.IsOneLine target.methodName := by
    cases target <;> exact isOneLine_append.mpr ⟨.literal rfl (by decide), .literal rfl (by decide)⟩
  have hreturn := isOneLine_typeName settings h.returnType
  unfold signatureLine
  simp only [isOneLine_append, hreturn, hname, hparameters, and_true]
  exact ⟨⟨⟨.literal rfl (by decide), .literal rfl (by decide)⟩, .literal rfl (by decide)⟩,
    .literal rfl (by decide)⟩

theorem isOneLine_deliveryLine (direction : Direction) (target : Target) :
    Text.IsOneLine (deliveryLine direction method target) := by
  have haddress : Text.IsOneLine target.address := by cases target <;> decide
  have hfields := isOneLine_intercalate (by decide : Text.IsOneLine ", ")
    (Field.isOneLine_of_mem_names direction h)
  unfold deliveryLine
  simp only [isOneLine_append, haddress, h.name, hfields, and_true]
  exact ⟨⟨⟨.literal rfl (by decide), .literal rfl (by decide)⟩, .literal rfl (by decide)⟩,
    .literal rfl (by decide)⟩

theorem isOneLine_referenceLine : Text.IsOneLine (referenceLine method) := by
  unfold referenceLine
  simp only [isOneLine_append, h.name, h.cref, and_true]
  exact ⟨⟨⟨.literal rfl (by decide), .literal rfl (by decide)⟩, .literal rfl (by decide)⟩,
    .literal rfl (by decide), .literal rfl (by decide)⟩

end Methods

section Hubs

variable {hub : Hub} (h : hub.IsOneLine)

include h

/-- The namespace and the name of a hub's class are on one line. -/
theorem isOneLine_bridgeType :
    Text.IsOneLine hub.bridgeType.container ∧ Text.IsOneLine hub.bridgeType.name := by
  exact ⟨h.bridgeType.container, h.bridgeType.name⟩

theorem isOneLine_constantLine (hsettings : settings.IsOneLine) :
    Text.IsOneLine (constantLine settings hub) := by
  have hname := Text.isOneLine_toLower (isOneLine_bridgeType h).2
  unfold constantLine
  simp only [isOneLine_append, hsettings.dispatcherPathPrefix, hname, and_true]
  exact ⟨.literal rfl (by decide), .literal rfl (by decide)⟩

theorem isOneLine_constructorLine : Text.IsOneLine (constructorLine hub) := by
  unfold constructorLine
  simp only [isOneLine_append, (isOneLine_bridgeType h).2, and_true]
  exact ⟨⟨⟨.literal rfl (by decide), .literal rfl (by decide)⟩, .literal rfl (by decide)⟩,
    .literal rfl (by decide)⟩

theorem isOneLine_hubNamespace : Text.IsOneLine (hubNamespace hub) := by
  have hsubset (bound : Nat) (cs : List Char) : withoutGlobal bound cs ⊆ cs := by
    induction bound generalizing cs with
    | zero => exact List.Subset.refl cs
    | succ bound ih =>
      rw [withoutGlobal]
      split
      · exact List.Subset.trans (ih _) (List.drop_subset _ _)
      · exact List.Subset.refl cs
  exact (isOneLine_bridgeType h).1.ofList (hsubset _ _)

end Hubs

end Document

end HubRelay
