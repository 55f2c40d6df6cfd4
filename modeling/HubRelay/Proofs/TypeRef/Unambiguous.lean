import HubRelay.Proofs.Text.Starts
import HubRelay.Proofs.TypeExpr.Spelling
import HubRelay.Proofs.TypeRef.ArrayNames
import Mathlib.Data.Bool.AllAny

/-!
# Full names are unambiguous

A reference is legal when its parts can be written: its namespace is dotted identifiers, its name an
identifier with array suffixes, and its type arguments are legal (`TypeRef.IsLegal`). Two legal references
with the same full name are the same, in each style that writes namespaces.

A full name is its head, the type arguments in brackets, and the array suffixes, which stand at the end
though they are kept in the name (`toList_render`). Commas separate type arguments, the types of
parameters, and the dimensions of an array. So what is shown is that a full name is read back from the
start of a longer text, as long as it is followed by nothing or by a comma or closing bracket
(`IsReadBack`): the head ends where the first character stands that no identifier, dot or colon is; it is a
keyword, or begins with `global::` and has its name behind the last dot; and type arguments are read back
one by one.
-/

set_option autoImplicit false

namespace HubRelay

namespace TypeRef

open TypeExpr (isIdentifier startsIdentifier continuesIdentifier rankSuffix rankSuffixes
  toList_rankSuffix)

/-! ### Legal references -/

/-- A reference whose namespace is empty or dotted identifiers, whose name is an identifier with array
suffixes, and whose type arguments are such references. Unlike one that is `IsWellNamed`, it may be named
with a leading `@`. -/
inductive IsLegal : TypeRef → Prop
  | intro {container stem : String} {ranks : List Nat} {arguments : List TypeRef}
      (hcontainer : IsDotted container) (hstem : isIdentifier stem = true)
      (harguments : ∀ argument ∈ arguments, IsLegal argument) :
      IsLegal ⟨container, stem ++ rankSuffixes ranks, arguments⟩

/-- A reference without array suffixes is legal when its parts are. -/
theorem IsLegal.of_parts {container name : String} {arguments : List TypeRef}
    (hcontainer : IsDotted container) (hname : isIdentifier name = true)
    (harguments : ∀ argument ∈ arguments, IsLegal argument) : IsLegal ⟨container, name, arguments⟩ := by
  have h : IsLegal ⟨container, name ++ rankSuffixes [], arguments⟩ := .intro hcontainer hname harguments
  rwa [rankSuffixes, String.append_empty] at h

/-- The name of a legal reference without its array suffixes is an identifier. -/
theorem IsLegal.isIdentifier_stem {r : TypeRef} (h : r.IsLegal) :
    isIdentifier (splitSuffix r.name).1 = true := by
  cases h with
  | intro _ hstem _ =>
    rw [splitSuffix_append_rankSuffixes hstem]
    exact hstem

/-! ### Characters -/

/-- Whether a character can stand in a namespace, an identifier or an alias. -/
def isPathChar (c : Char) : Bool :=
  startsIdentifier c || continuesIdentifier c || c == '.' || c == ':'

/-- The characters that part a full name or a reference to a method, and others that would have to be
escaped in an attribute. -/
def marks : List Char := ['[', ']', '<', '>', '\x7b', '\x7d', '(', ')', ',', ' ', '&', '"']

/-- No mark is the character of a path. -/
theorem isPathChar_eq_false : ∀ c ∈ marks, isPathChar c = false := by
  have hmarks : ∀ c ∈ marks, c.toNat < 0x80 ∧ c ≠ '@' ∧ c ≠ '_' ∧
      Text.inRanges [(0x30, 0x39), (0x41, 0x5A), (0x61, 0x7A)] c.toNat = false ∧ c ≠ '.' ∧ c ≠ ':' :=
    List.all_iff_forall_prop.mp (by decide)
  intro c hc
  obtain ⟨hlt, hat, hlow, hranges, hdot, hcolon⟩ := hmarks c hc
  obtain ⟨hstarts, hcontinues⟩ := TypeExpr.not_word_of_lt hlt hat hlow hranges
  simp [isPathChar, hstarts, hcontinues, hdot, hcolon]

/-- The characters of an identifier are those of a path, but neither dots nor colons. -/
theorem isPathChar_of_mem_identifier {text : String} (h : isIdentifier text = true) {c : Char}
    (hc : c ∈ text.toList) : isPathChar c = true ∧ c ≠ '.' ∧ c ≠ ':' := by
  obtain ⟨first, rest, htext, hfirst, hrest⟩ := TypeExpr.isIdentifier_iff.mp h
  have hone : startsIdentifier c = true ∨ continuesIdentifier c = true := by
    rw [htext] at hc
    rcases List.mem_cons.mp hc with rfl | hmem
    · exact .inl hfirst
    · exact .inr (hrest c hmem)
  have hnone : c ∉ TypeExpr.punctuation := by
    intro hmem
    obtain ⟨-, hstarts, hcontinues⟩ := TypeExpr.not_word_of_mem_punctuation c hmem
    rw [hstarts, hcontinues] at hone
    exact hone.elim Bool.noConfusion Bool.noConfusion
  refine ⟨?_, ?_, ?_⟩
  · rw [isPathChar]
    rcases hone with h | h <;> simp [h]
  · rintro rfl
    exact hnone (by decide)
  · rintro rfl
    exact hnone (by decide)

/-- So are the characters of dotted identifiers. -/
theorem isPathChar_of_mem_dotted {container : String} (h : IsDotted container) {c : Char}
    (hc : c ∈ container.toList) : isPathChar c = true := by
  obtain ⟨qualifiers, hqualifiers, rfl⟩ := h
  induction qualifiers with
  | nil => exact absurd hc List.not_mem_nil
  | cons first rest ih =>
    have hfirst := hqualifiers first List.mem_cons_self
    have hrest := ih fun qualifier hqualifier ↦
      hqualifiers qualifier (List.mem_cons_of_mem _ hqualifier)
    cases rest with
    | nil =>
      rw [String.intercalate_singleton] at hc
      exact (isPathChar_of_mem_identifier hfirst hc).1
    | cons next more =>
      rw [String.intercalate_cons_of_ne_nil (List.cons_ne_nil _ _), String.toList_append,
        String.toList_append, List.append_assoc] at hc
      rcases List.mem_append.mp hc with hmem | hmem
      · exact (isPathChar_of_mem_identifier hfirst hmem).1
      · rcases List.mem_append.mp hmem with hdot | hmem
        · rw [List.mem_singleton.mp hdot]
          decide +kernel
        · exact hrest hmem

/-! ### The parts of a full name -/

/-- The keyword that a reference is written with. Only one without type arguments has a keyword. -/
def keyword? (style : NameStyle) (r : TypeRef) : Option String :=
  if r.arguments = [] then keywordIn? style r.container r.name (splitSuffix r.name).1 else none

/-- What a full name begins with: the keyword, or the namespace and the name without array suffixes. -/
def head (style : NameStyle) (r : TypeRef) : String :=
  (keyword? style r).getD (qualification style r.container ++ (splitSuffix r.name).1)

/-- Type arguments in brackets, if there are any. -/
def bracketed (style : NameStyle) : List TypeRef → String
  | [] => ""
  | first :: rest =>
    style.brackets.1 ++ first.render style ++ renderMore style rest ++ style.brackets.2.2

variable {style : NameStyle}

/-- A full name is the head, the type arguments and the array suffixes. -/
theorem toList_render (r : TypeRef) :
    (r.render style).toList = (head style r).toList ++
      ((bracketed style r.arguments).toList ++ (splitSuffix r.name).2.toList) := by
  obtain ⟨container, name, arguments⟩ := r
  cases arguments with
  | nil =>
    rw [render_nil, head, keyword?, if_pos rfl, bracketed]
    simp
  | cons first rest =>
    rw [render, head, keyword?, if_neg (List.cons_ne_nil _ _), bracketed]
    simp

/-- The keyword of a reference is that of a type of `System`, which is the type without its array
suffixes. -/
theorem typeName?_of_keyword? {r : TypeRef} {keyword : String} (h : keyword? style r = some keyword) :
    r.container = Keyword.systemNamespace ∧
      Keyword.typeName? keyword = some (splitSuffix r.name).1 := by
  unfold keyword? at h
  split at h
  · exact typeName?_of_keywordIn?_eq_some rfl h
  · cases h

/-- A keyword has the form of an identifier. -/
theorem isIdentifier_of_typeName? {keyword stem : String} (h : Keyword.typeName? keyword = some stem) :
    isIdentifier keyword = true := by
  refine TypeExpr.isIdentifier_of_isKeyword ?_
  rw [Keyword.isKeyword, h]
  rfl

section Heads

variable {r r' : TypeRef}

/-- The head of a legal reference has only characters of paths in it, and is not empty. -/
theorem IsLegal.head_isPath (hr : r.IsLegal) :
    (∀ c ∈ (head style r).toList, isPathChar c = true) ∧ head style r ≠ "" := by
  have hnonempty {text : String} (h : isIdentifier text = true) : text ≠ "" := by
    rintro rfl
    cases h
  have hstem := hr.isIdentifier_stem
  rw [head]
  cases hkeyword : keyword? style r with
  | some keyword =>
    have hidentifier := isIdentifier_of_typeName? (typeName?_of_keyword? hkeyword).2
    exact ⟨fun c hc ↦ (isPathChar_of_mem_identifier hidentifier hc).1, hnonempty hidentifier⟩
  | none =>
    have hglobal : ∀ c ∈ "global::".toList, isPathChar c = true := List.all_eq_true.mp (by decide +kernel)
    have hdot : ∀ c ∈ ".".toList, isPathChar c = true := List.all_eq_true.mp (by decide +kernel)
    have hcontainer : ∀ c ∈ r.container.toList, isPathChar c = true := by
      cases hr with
      | intro hcontainer _ _ => exact fun c hc ↦ isPathChar_of_mem_dotted hcontainer hc
    have hqualification : ∀ c ∈ (qualification style r.container).toList, isPathChar c = true := by
      unfold qualification
      split
      · exact List.forall_mem_nil _
      · split
        · exact hglobal
        · simp only [String.toList_append, List.forall_mem_append]
          exact ⟨⟨hglobal, hcontainer⟩, hdot⟩
    constructor
    · rw [Option.getD_none, String.toList_append, List.forall_mem_append]
      exact ⟨hqualification, fun c hc ↦ (isPathChar_of_mem_identifier hstem hc).1⟩
    · intro hempty
      exact hnonempty hstem (String.append_eq_empty_iff.mp hempty).2

/-- Assumes: a style that writes namespaces. A head that is no keyword begins with `global::`. -/
theorem qualification_eq (hstyle : style ≠ .short) (container : String) :
    qualification style container =
      "global::" ++ if container.isEmpty then "" else container ++ "." := by
  rw [qualification, if_neg hstyle]
  split
  · rw [String.append_empty]
  · rw [String.append_assoc]

/-- No identifier is a head that begins with `global::`. -/
theorem identifier_ne_global {text : String} (h : isIdentifier text = true) (rest : String) :
    text ≠ "global::" ++ rest := by
  rintro rfl
  have hcolon : ':' ∈ ("global::" ++ rest).toList := by
    rw [String.toList_append]
    exact List.mem_append_left _ (by decide)
  exact (isPathChar_of_mem_identifier h hcolon).2.2 rfl

/-- The name behind the last dot and the namespace before it are told apart. -/
theorem qualified_inj {container container' stem stem' : String} (hstem : isIdentifier stem = true)
    (hstem' : isIdentifier stem' = true)
    (h : (if container.isEmpty then "" else container ++ ".") ++ stem =
      (if container'.isEmpty then "" else container' ++ ".") ++ stem') :
    container = container' ∧ stem = stem' := by
  have hnodot {text : String} (h : isIdentifier text = true) : '.' ∉ text.toList :=
    fun hmem ↦ (isPathChar_of_mem_identifier h hmem).2.1 rfl
  have hdotted (container stem : String) : '.' ∈ (container ++ "." ++ stem).toList := by
    simp
  by_cases hempty : container.isEmpty = true <;> by_cases hempty' : container'.isEmpty = true
  · rw [if_pos hempty, if_pos hempty', String.empty_append, String.empty_append] at h
    rw [String.isEmpty_iff] at hempty hempty'
    exact ⟨hempty.trans hempty'.symm, h⟩
  · rw [if_pos hempty, if_neg hempty', String.empty_append] at h
    exact absurd (h ▸ hdotted container' stem') (hnodot hstem)
  · rw [if_neg hempty, if_pos hempty', String.empty_append] at h
    exact absurd (h.symm ▸ hdotted container stem) (hnodot hstem')
  · rw [if_neg hempty, if_neg hempty'] at h
    have hlist := congrArg String.toList h
    simp only [String.toList_append, List.append_assoc] at hlist
    obtain ⟨hcontainer, hname⟩ :=
      Text.eq_of_append_cons_eq_append_cons (hnodot hstem) (hnodot hstem') hlist
    exact ⟨String.toList_injective hcontainer, String.toList_injective hname⟩

/-- Assumes: legal references and a style that writes namespaces. The head determines the namespace and the
name without its array suffixes. -/
theorem IsLegal.eq_of_head_eq (hstyle : style ≠ .short) (hr : r.IsLegal) (hr' : r'.IsLegal)
    (h : head style r = head style r') :
    r.container = r'.container ∧ (splitSuffix r.name).1 = (splitSuffix r'.name).1 := by
  have hglobal (container stem : String) : qualification style container ++ stem =
      "global::" ++ ((if container.isEmpty then "" else container ++ ".") ++ stem) := by
    rw [qualification_eq hstyle, String.append_assoc]
  unfold head at h
  cases hkeyword : keyword? style r with
  | some keyword =>
    obtain ⟨hcontainer, hname⟩ := typeName?_of_keyword? hkeyword
    cases hkeyword' : keyword? style r' with
    | some keyword' =>
      obtain ⟨hcontainer', hname'⟩ := typeName?_of_keyword? hkeyword'
      rw [hkeyword, hkeyword', Option.getD_some, Option.getD_some] at h
      rw [← h, hname] at hname'
      exact ⟨hcontainer.trans hcontainer'.symm, Option.some.inj hname'⟩
    | none =>
      rw [hkeyword, hkeyword', Option.getD_some, Option.getD_none, hglobal] at h
      exact absurd h (identifier_ne_global (isIdentifier_of_typeName? hname) _)
  | none =>
    cases hkeyword' : keyword? style r' with
    | some keyword' =>
      obtain ⟨-, hname'⟩ := typeName?_of_keyword? hkeyword'
      rw [hkeyword, hkeyword', Option.getD_some, Option.getD_none, hglobal] at h
      exact absurd h.symm (identifier_ne_global (isIdentifier_of_typeName? hname') _)
    | none =>
      rw [hkeyword, hkeyword', Option.getD_none, Option.getD_none, hglobal, hglobal] at h
      have hrest := (String.append_right_inj _).mp h
      exact qualified_inj hr.isIdentifier_stem hr'.isIdentifier_stem hrest

end Heads

/-! ### Reading back -/

/-- Whether nothing follows a full name, or a comma or closing bracket. -/
def Stops (text : List Char) : Prop := ∀ c ∈ text.head?, c ∈ [',', '>', '\x7d', ')']

/-- The full name of the reference, at the start of a text where it stops, determines the reference and the
rest of the text among the full names of legal references. -/
def IsReadBack (style : NameStyle) (r : TypeRef) : Prop :=
  ∀ {r' : TypeRef}, r'.IsLegal → ∀ {rest rest' : List Char}, Stops rest → Stops rest' →
    (r.render style).toList ++ rest = (r'.render style).toList ++ rest' → r = r' ∧ rest = rest'

/-- The brackets of a style, and the comma that the text between two type arguments begins with. -/
theorem exists_toList_brackets (style : NameStyle) :
    ∃ opening closing gap, style.brackets.1.toList = [opening] ∧
      style.brackets.2.1.toList = ',' :: gap ∧ style.brackets.2.2.toList = [closing] ∧
      opening ∈ ['<', '\x7b'] ∧ closing ∈ ['>', '\x7d', ')'] := by
  cases style <;> exact ⟨_, _, _, rfl, rfl, rfl, by decide, by decide⟩

/-- Further type arguments stop what is before them: they begin with a comma, or the closing bracket
follows. -/
theorem stops_renderMore {closing : Char} (hclosing : closing ∈ ['>', '\x7d', ')'])
    (arguments : List TypeRef) (rest : List Char) :
    Stops ((renderMore style arguments).toList ++ closing :: rest) := by
  intro c hc
  cases arguments with
  | nil =>
    rw [renderMore] at hc
    rw [← Option.some.inj hc]
    exact List.mem_cons_of_mem _ hclosing
  | cons next more =>
    obtain ⟨-, -, gap, -, hgap, -⟩ := exists_toList_brackets style
    rw [renderMore, String.toList_append, String.toList_append, hgap] at hc
    rw [← Option.some.inj hc]
    exact List.mem_cons_self

/-- Assumes: type arguments that are read back. So are all of them, up to the closing bracket. -/
theorem eq_of_renderMore_eq {closing : Char} (hclosing : closing ∈ ['>', '\x7d', ')'])
    {arguments arguments' : List TypeRef} (hread : ∀ argument ∈ arguments, IsReadBack style argument)
    (hlegal : ∀ argument ∈ arguments', argument.IsLegal) {rest rest' : List Char}
    (h : (renderMore style arguments).toList ++ closing :: rest =
      (renderMore style arguments').toList ++ closing :: rest') :
    arguments = arguments' ∧ rest = rest' := by
  obtain ⟨-, -, gap, -, hgap, -⟩ := exists_toList_brackets style
  have hcomma : ',' ≠ closing := by
    rintro rfl
    exact absurd hclosing (by decide)
  induction arguments generalizing arguments' with
  | nil =>
    cases arguments' with
    | nil =>
      rw [renderMore] at h
      exact ⟨rfl, (List.cons.inj h).2⟩
    | cons next' more' =>
      rw [renderMore, renderMore, String.toList_append, String.toList_append, hgap] at h
      exact absurd (List.cons.inj h).1.symm hcomma
  | cons next more ih =>
    cases arguments' with
    | nil =>
      rw [renderMore, renderMore, String.toList_append, String.toList_append, hgap] at h
      exact absurd (List.cons.inj h).1 hcomma
    | cons next' more' =>
      simp only [renderMore, String.toList_append, List.append_assoc] at h
      have hnext := hread next List.mem_cons_self (hlegal next' List.mem_cons_self)
        (stops_renderMore hclosing more rest) (stops_renderMore hclosing more' rest')
        (List.append_cancel_left h)
      obtain ⟨rfl, hmore⟩ := hnext
      obtain ⟨rfl, hrest⟩ := ih (fun argument hargument ↦ hread argument (List.mem_cons_of_mem _ hargument))
        (fun argument hargument ↦ hlegal argument (List.mem_cons_of_mem _ hargument)) hmore
      exact ⟨rfl, hrest⟩

/-- Assumes: type arguments that are read back. So are they in brackets, in front of a text that begins with
no opening bracket, whether there are any or not. -/
theorem eq_of_bracketed_eq {arguments arguments' : List TypeRef}
    (hread : ∀ argument ∈ arguments, IsReadBack style argument)
    (hlegal : ∀ argument ∈ arguments', argument.IsLegal) {rest rest' : List Char}
    (hrest : ∀ c ∈ rest.head?, c ∉ ['<', '\x7b']) (hrest' : ∀ c ∈ rest'.head?, c ∉ ['<', '\x7b'])
    (h : (bracketed style arguments).toList ++ rest = (bracketed style arguments').toList ++ rest') :
    arguments = arguments' ∧ rest = rest' := by
  obtain ⟨opening, closing, -, hopening, -, hclosing, hopens, hcloses⟩ := exists_toList_brackets style
  cases arguments with
  | nil =>
    cases arguments' with
    | nil => exact ⟨rfl, h⟩
    | cons first' more' =>
      simp only [bracketed, String.toList_append, hopening, List.append_assoc] at h
      rw [show rest = _ from h] at hrest
      exact absurd hopens (hrest opening rfl)
  | cons first more =>
    cases arguments' with
    | nil =>
      simp only [bracketed, String.toList_append, hopening, List.append_assoc] at h
      rw [show rest' = _ from h.symm] at hrest'
      exact absurd hopens (hrest' opening rfl)
    | cons first' more' =>
      simp only [bracketed, String.toList_append, hclosing, List.append_assoc] at h
      have hfirst := hread first List.mem_cons_self (hlegal first' List.mem_cons_self)
        (stops_renderMore hcloses more rest) (stops_renderMore hcloses more' rest')
        (List.append_cancel_left h)
      obtain ⟨rfl, hmore⟩ := hfirst
      obtain ⟨rfl, hback⟩ := eq_of_renderMore_eq hcloses
        (fun argument hargument ↦ hread argument (List.mem_cons_of_mem _ hargument))
        (fun argument hargument ↦ hlegal argument (List.mem_cons_of_mem _ hargument)) hmore
      exact ⟨rfl, hback⟩

/-- Array suffixes are read back in front of a text that begins with no bracket. -/
theorem eq_of_rankSuffixes_eq {ranks ranks' : List Nat} {rest other : List Char}
    (hrest : ∀ c ∈ rest.head?, c ≠ '[') (hother : ∀ c ∈ other.head?, c ≠ '[')
    (h : (rankSuffixes ranks).toList ++ rest = (rankSuffixes ranks').toList ++ other) :
    rankSuffixes ranks = rankSuffixes ranks' ∧ rest = other := by
  have hcons (rank : Nat) (more : List Nat) (rest : List Char) :
      (rankSuffixes (rank :: more)).toList ++ rest = '[' :: (List.replicate (rank - 1) ',' ++
        ']' :: ((rankSuffixes more).toList ++ rest)) := by
    rw [rankSuffixes, String.toList_append, toList_rankSuffix]
    simp
  induction ranks generalizing ranks' with
  | nil =>
    cases ranks' with
    | nil => exact ⟨rfl, h⟩
    | cons rank' more' =>
      rw [hcons] at h
      rw [show rest = _ from h] at hrest
      exact absurd rfl (hrest '[' rfl)
  | cons rank more ih =>
    cases ranks' with
    | nil =>
      rw [hcons] at h
      rw [show other = _ from h.symm] at hother
      exact absurd rfl (hother '[' rfl)
    | cons rank' more' =>
      rw [hcons, hcons] at h
      have hcommas (n : Nat) : ∀ c ∈ List.replicate n ',', (c == ',') = true := by
        intro c hc
        rw [List.eq_of_mem_replicate hc]
        rfl
      have hend (text : List Char) : ∀ c ∈ (']' :: text).head?, (c == ',') = false := by
        intro c hc
        rw [← Option.some.inj hc]
        rfl
      obtain ⟨hdimensions, hback⟩ := Text.eq_of_append_eq_append (hcommas _) (hcommas _) (hend _)
        (hend _) (List.cons.inj h).2
      obtain ⟨hsuffixes, hsame⟩ := ih (List.cons.inj hback).2
      have hsuffix : rankSuffix rank = rankSuffix rank' := by
        apply String.toList_injective
        rw [toList_rankSuffix, toList_rankSuffix, hdimensions]
      rw [rankSuffixes, rankSuffixes, hsuffix, hsuffixes]
      exact ⟨rfl, hsame⟩

/-- Array suffixes and what stops a full name begin with a bracket or comma, but with no bracket that opens
type arguments. -/
theorem mem_of_head?_rankSuffixes (ranks : List Nat) {rest : List Char} (hrest : Stops rest) :
    ∀ c ∈ ((rankSuffixes ranks).toList ++ rest).head?, c ∈ ['[', ',', '>', '\x7d', ')'] := by
  intro c hc
  cases ranks with
  | nil => exact List.mem_cons_of_mem _ (hrest c hc)
  | cons rank more =>
    rw [rankSuffixes, String.toList_append, toList_rankSuffix] at hc
    rw [← Option.some.inj hc]
    exact List.mem_cons_self

/-- What follows the head of a full name begins with no character of a path. -/
theorem isPathChar_of_head?_bracketed (arguments : List TypeRef) (ranks : List Nat) {rest : List Char}
    (hrest : Stops rest) :
    ∀ c ∈ ((bracketed style arguments).toList ++ ((rankSuffixes ranks).toList ++ rest)).head?,
      isPathChar c = false := by
  have hmarks : ['[', ',', '>', '\x7d', ')', '<', '\x7b'] ⊆ marks := by decide
  intro c hc
  refine isPathChar_eq_false c (hmarks ?_)
  cases arguments with
  | nil => exact List.mem_append_left ['<', '\x7b'] (mem_of_head?_rankSuffixes ranks hrest c hc)
  | cons first more =>
    obtain ⟨opening, -, -, hopening, -, -, hopens, -⟩ := exists_toList_brackets style
    simp only [bracketed, String.toList_append, hopening, List.append_assoc] at hc
    rw [← Option.some.inj hc]
    exact List.mem_append_right ['[', ',', '>', '\x7d', ')'] hopens

/-- Assumes: a style that writes namespaces. Every legal reference is read back, by induction on its type
arguments: first the head, then these, and then the array suffixes. -/
theorem IsLegal.isReadBack (hstyle : style ≠ .short) {r : TypeRef} (hr : r.IsLegal) :
    IsReadBack style r := by
  induction hr with
  | @intro container stem ranks arguments hcontainer hstem harguments ih =>
    intro r' hr' rest rest' hrest hrest' h
    cases hr' with
    | @intro container' stem' ranks' arguments' hcontainer' hstem' harguments' =>
      have hr : IsLegal ⟨container, stem ++ rankSuffixes ranks, arguments⟩ :=
        .intro hcontainer hstem harguments
      have hr' : IsLegal ⟨container', stem' ++ rankSuffixes ranks', arguments'⟩ :=
        .intro hcontainer' hstem' harguments'
      have hsplit := splitSuffix_append_rankSuffixes hstem ranks
      have hsplit' := splitSuffix_append_rankSuffixes hstem' ranks'
      simp only [toList_render, hsplit, hsplit', List.append_assoc] at h
      obtain ⟨hhead, hback⟩ := Text.eq_of_append_eq_append hr.head_isPath.1 hr'.head_isPath.1
        (isPathChar_of_head?_bracketed arguments ranks hrest)
        (isPathChar_of_head?_bracketed arguments' ranks' hrest') h
      have hparts := hr.eq_of_head_eq hstyle hr' (String.toList_injective hhead)
      rw [hsplit, hsplit'] at hparts
      obtain ⟨rfl, rfl⟩ := hparts
      have hall : ∀ c ∈ ['[', ',', '>', '\x7d', ')'], c ∉ ['<', '\x7b'] :=
        List.all_iff_forall_prop.mp (by decide)
      obtain ⟨rfl, hsuffix⟩ := eq_of_bracketed_eq ih harguments'
        (fun c hc ↦ hall c (mem_of_head?_rankSuffixes ranks hrest c hc))
        (fun c hc ↦ hall c (mem_of_head?_rankSuffixes ranks' hrest' c hc)) hback
      have hstop : ∀ c ∈ [',', '>', '\x7d', ')'], c ≠ '[' := List.all_iff_forall_prop.mp (by decide)
      obtain ⟨hsame, hend⟩ := eq_of_rankSuffixes_eq (fun c hc ↦ hstop c (hrest c hc))
        (fun c hc ↦ hstop c (hrest' c hc)) hsuffix
      rw [hsame]
      exact ⟨rfl, hend⟩

/-- Assumes: a style that writes namespaces. Legal references with the same full name are the same. -/
theorem IsLegal.render_inj (hstyle : style ≠ .short) {r r' : TypeRef} (hr : r.IsLegal)
    (hr' : r'.IsLegal) : r.render style = r'.render style ↔ r = r' := by
  refine ⟨fun h ↦ ?_, fun h ↦ by rw [h]⟩
  have hstops : Stops [] := by
    intro c hc
    cases hc
  have hlist : (r.render style).toList ++ [] = (r'.render style).toList ++ [] := by rw [h]
  exact (hr.isReadBack hstyle hr' hstops hstops hlist).1

/-- A full name of a legal reference begins with a character of a path. -/
theorem IsLegal.exists_toList_render {r : TypeRef} (hr : r.IsLegal) (style : NameStyle) :
    ∃ c rest, (r.render style).toList = c :: rest ∧ isPathChar c = true := by
  obtain ⟨hpath, hne⟩ := @IsLegal.head_isPath style r hr
  rw [toList_render]
  cases hlist : (head style r).toList with
  | nil => exact absurd (String.toList_eq_nil_iff.mp hlist) hne
  | cons c more => exact ⟨c, _, rfl, hpath c (hlist ▸ List.mem_cons_self)⟩

/-! ### The characters of a full name -/

/-- Whether a character can stand in the full name of a type. -/
def isNameChar (style : NameStyle) (c : Char) : Bool :=
  isPathChar c ||
    (style.brackets.1 ++ style.brackets.2.1 ++ style.brackets.2.2 ++ "[],").toList.contains c

/-- The brackets of a style, what stands between two type arguments, and the signs of arrays. -/
theorem isNameChar_of_mem_brackets (style : NameStyle) :
    (∀ c ∈ style.brackets.1.toList, isNameChar style c = true) ∧
      (∀ c ∈ style.brackets.2.1.toList, isNameChar style c = true) ∧
        (∀ c ∈ style.brackets.2.2.toList, isNameChar style c = true) ∧
          ∀ c ∈ "[],".toList, isNameChar style c = true := by
  have hname {c : Char} (h : c ∈ style.brackets.1.toList ++ style.brackets.2.1.toList ++
      style.brackets.2.2.toList ++ "[],".toList) : isNameChar style c = true := by
    simp only [← String.toList_append] at h
    rw [isNameChar, List.contains_iff_mem.mpr h, Bool.or_true]
  simp only [List.mem_append] at hname
  exact ⟨fun c hc ↦ hname (.inl (.inl (.inl hc))), fun c hc ↦ hname (.inl (.inl (.inr hc))),
    fun c hc ↦ hname (.inl (.inr hc)), fun c hc ↦ hname (.inr hc)⟩

/-- A mark that is none of these does not stand in a full name. -/
theorem isNameChar_eq_false {c : Char} (hmark : c ∈ marks)
    (h : (style.brackets.1 ++ style.brackets.2.1 ++ style.brackets.2.2 ++ "[],").toList.contains c =
      false) : isNameChar style c = false := by
  rw [isNameChar, isPathChar_eq_false c hmark, h, Bool.or_false]

/-- Array suffixes have only brackets and commas in them. -/
theorem isNameChar_of_mem_rankSuffixes (style : NameStyle) (ranks : List Nat) :
    ∀ c ∈ (rankSuffixes ranks).toList, isNameChar style c = true := by
  obtain ⟨-, -, -, hsigns⟩ := isNameChar_of_mem_brackets style
  induction ranks with
  | nil => exact List.forall_mem_nil _
  | cons rank more ih =>
    rw [rankSuffixes, String.toList_append, toList_rankSuffix, List.forall_mem_append]
    refine ⟨fun c hc ↦ hsigns c ?_, ih⟩
    simp only [List.mem_cons, List.mem_append, List.mem_replicate, List.not_mem_nil, or_false] at hc
    rcases hc with rfl | ⟨-, rfl⟩ | rfl <;> decide

/-- Further type arguments have only characters in them that the type arguments have, and those between
two of them. -/
theorem isNameChar_of_mem_renderMore {arguments : List TypeRef}
    (h : ∀ argument ∈ arguments, ∀ c ∈ (argument.render style).toList, isNameChar style c = true) :
    ∀ c ∈ (renderMore style arguments).toList, isNameChar style c = true := by
  obtain ⟨-, hgap, -, -⟩ := isNameChar_of_mem_brackets style
  induction arguments with
  | nil => exact List.forall_mem_nil _
  | cons next more ih =>
    simp only [renderMore, String.toList_append, List.forall_mem_append]
    exact ⟨⟨hgap, h next List.mem_cons_self⟩,
      ih fun argument hargument ↦ h argument (List.mem_cons_of_mem _ hargument)⟩

/-- The full name of a legal reference has characters of paths in it, brackets and what stands between type
arguments. -/
theorem IsLegal.isNameChar_of_mem {r : TypeRef} (hr : r.IsLegal) (style : NameStyle) :
    ∀ c ∈ (r.render style).toList, isNameChar style c = true := by
  obtain ⟨hopening, -, hclosing, -⟩ := isNameChar_of_mem_brackets style
  induction hr with
  | @intro container stem ranks arguments hcontainer hstem harguments ih =>
    have hr : IsLegal ⟨container, stem ++ rankSuffixes ranks, arguments⟩ :=
      .intro hcontainer hstem harguments
    have hbracketed : ∀ c ∈ (bracketed style arguments).toList, isNameChar style c = true := by
      cases arguments with
      | nil => exact List.forall_mem_nil _
      | cons first more =>
        obtain ⟨hfirst, hmore⟩ := List.forall_mem_cons.mp ih
        simp only [bracketed, String.toList_append, List.forall_mem_append]
        exact ⟨⟨⟨hopening, hfirst⟩, isNameChar_of_mem_renderMore hmore⟩, hclosing⟩
    rw [toList_render, splitSuffix_append_rankSuffixes hstem, List.forall_mem_append,
      List.forall_mem_append]
    refine ⟨fun c hc ↦ ?_, hbracketed, isNameChar_of_mem_rankSuffixes style ranks⟩
    rw [isNameChar, hr.head_isPath.1 c hc, Bool.true_or]

end TypeRef

end HubRelay
