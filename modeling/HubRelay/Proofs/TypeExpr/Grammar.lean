import HubRelay.Proofs.Text.Classes
import HubRelay.TypeExpr.Basic
import HubRelay.TypeExpr.Keyword
import HubRelay.TypeExpr.Token

/-!
# The grammar of type expressions

`TypeExpr` admits trees that no text is read as. The ones that are written form three classes,
defined together: a segment is an identifier, with type arguments or without (`IsSegment`); a name
is segments joined by dots, the first of which may stand behind an alias (`IsName`); a type is a
built-in keyword, a name, or a type with an array or nullable suffix (`IsType`). A keyword stands
for itself at the left end of a name, so there it is no identifier; after a dot or an alias it is
one.

`TypeExpr.tokens` lists the tokens of a tree from left to right. The words among the tokens of a
type are identifiers, and no other token is a stray character (`isLegal_of_mem_tokens`).
-/

set_option autoImplicit false

namespace HubRelay.TypeExpr

/-! ### Identifiers -/

/-- Whether a text is an identifier: `@`, `_` or a letter, and after it letters, numbers and
`_`. -/
def isIdentifier (text : String) : Bool :=
  match text.toList with
  | [] => false
  | c :: rest => startsIdentifier c && rest.all continuesIdentifier

/-- An identifier by its characters. -/
theorem isIdentifier_iff {text : String} :
    isIdentifier text = true ↔ ∃ c rest, text.toList = c :: rest ∧ startsIdentifier c = true ∧
      ∀ d ∈ rest, continuesIdentifier d = true := by
  unfold isIdentifier
  cases text.toList with
  | nil => simp
  | cons c rest =>
    simp only [Bool.and_eq_true, List.all_eq_true]
    constructor
    · rintro ⟨hc, hrest⟩
      exact ⟨c, rest, rfl, hc, hrest⟩
    · rintro ⟨d, more, hsplit, hd, hmore⟩
      obtain ⟨rfl, rfl⟩ := List.cons.inj hsplit
      exact ⟨hd, hmore⟩

/-- No character that begins an identifier is white space. -/
theorem isBlank_eq_false_of_startsIdentifier {c : Char} (h : startsIdentifier c = true) :
    Text.isBlank c = false := by
  simp only [startsIdentifier, Bool.or_eq_true, beq_iff_eq] at h
  rcases h with (rfl | rfl) | halpha
  · decide
  · decide
  · exact Text.isBlank_eq_false_of_isAlphabetic halpha

/-- A character of ASCII belongs to no identifier unless it is a letter, a digit, `@` or `_`. -/
theorem not_word_of_lt {c : Char} (h : c.toNat < 0x80) (hat : c ≠ '@') (hlow : c ≠ '_')
    (hranges : Text.inRanges [(0x30, 0x39), (0x41, 0x5A), (0x61, 0x7A)] c.toNat = false) :
    startsIdentifier c = false ∧ continuesIdentifier c = false := by
  have hparts : Text.inRanges ([(0x30, 0x39)] ++ [(0x41, 0x5A), (0x61, 0x7A)]) c.toNat = false := hranges
  rw [Text.inRanges, List.any_append, Bool.or_eq_false_iff, ← Text.inRanges, ← Text.inRanges,
    ← Text.isNumeric_eq_of_lt h, ← Text.isAlphabetic_eq_of_lt h] at hparts
  simp [startsIdentifier, continuesIdentifier, hat, hlow, hparts]

/-- A character that can neither begin an identifier nor go on with one is in none. -/
theorem notMem_of_isIdentifier {text : String} (h : isIdentifier text = true) {c : Char}
    (hstarts : startsIdentifier c = false) (hcontinues : continuesIdentifier c = false) :
    c ∉ text.toList := by
  obtain ⟨first, rest, htext, hfirst, hrest⟩ := isIdentifier_iff.mp h
  rw [htext]
  rintro (_ | ⟨_, hmem⟩)
  · exact Bool.false_ne_true (hstarts.symm.trans hfirst)
  · exact Bool.false_ne_true (hcontinues.symm.trans (hrest c hmem))

/-- No character of an identifier is white space. -/
theorem isBlank_eq_false_of_continuesIdentifier {c : Char} (h : continuesIdentifier c = true) :
    Text.isBlank c = false := by
  simp only [continuesIdentifier, Bool.or_eq_true, beq_iff_eq] at h
  rcases h with (rfl | halpha) | hnumeric
  · decide
  · exact Text.isBlank_eq_false_of_isAlphabetic halpha
  · exact Text.isBlank_eq_false_of_isNumeric hnumeric

/-- An identifier has no white space in it. -/
theorem isBlank_eq_false_of_mem_identifier {text : String} (h : isIdentifier text = true) {c : Char}
    (hc : c ∈ text.toList) : Text.isBlank c = false := by
  obtain ⟨first, rest, htext, hfirst, hrest⟩ := isIdentifier_iff.mp h
  rw [htext] at hc
  rcases List.mem_cons.mp hc with rfl | hmem
  · exact isBlank_eq_false_of_startsIdentifier hfirst
  · exact isBlank_eq_false_of_continuesIdentifier (hrest c hmem)

/-- A keyword stands in the table with the name it stands for. -/
theorem mem_table_of_typeName? {word name : String} (h : Keyword.typeName? word = some name) :
    (word, name) ∈ Keyword.table := by
  obtain ⟨before, after, hsplit, -⟩ := List.lookup_eq_some_iff.mp h
  rw [hsplit]
  exact List.mem_append_right _ List.mem_cons_self

/-- Every keyword has the form of an identifier. -/
theorem isIdentifier_of_isKeyword {word : String} (h : Keyword.isKeyword word = true) :
    isIdentifier word = true := by
  have htable : ∀ entry ∈ Keyword.table, isIdentifier entry.1 = true := by decide
  obtain ⟨name, hname⟩ := Option.isSome_iff_exists.mp h
  exact htable (word, name) (mem_table_of_typeName? hname)

/-! ### Types, names and segments -/

mutual

/-- The trees of types. -/
inductive IsType : TypeExpr → Prop
  | keyword {word : String} (hword : Keyword.isKeyword word = true) : IsType (.keyword word)
  | name {t : TypeExpr} (ht : IsName t) : IsType t
  | array {element : TypeExpr} {rank : Nat} (helement : IsType element) (hrank : 1 ≤ rank) :
      IsType (.array element rank)
  | nullable {inner : TypeExpr} (hinner : IsType inner) : IsType (.nullable inner)

/-- The trees of names. -/
inductive IsName : TypeExpr → Prop
  | first {identifier : String} {t : TypeExpr} (hkeyword : Keyword.isKeyword identifier = false)
      (ht : IsSegment identifier t) : IsName t
  | aliased {label identifier : String} {name : TypeExpr} (hlabel : isIdentifier label = true)
      (hkeyword : Keyword.isKeyword label = false) (hname : IsSegment identifier name) :
      IsName (.aliased label name)
  | qualified {identifier : String} {left right : TypeExpr} (hleft : IsName left)
      (hright : IsSegment identifier right) : IsName (.qualified left right)

/-- The trees of simple and generic names with the given identifier. -/
inductive IsSegment : String → TypeExpr → Prop
  | simple {identifier : String} (hidentifier : isIdentifier identifier = true) :
      IsSegment identifier (.simple identifier)
  | generic {identifier : String} {arguments : List TypeExpr}
      (hidentifier : isIdentifier identifier = true) (hne : arguments ≠ [])
      (harguments : ∀ argument ∈ arguments, IsType argument) :
      IsSegment identifier (.generic identifier arguments)

end

/-- The greatest height in two lists that follow each other. -/
theorem heightOfAll_append (before after : List TypeExpr) :
    heightOfAll (before ++ after) = max (heightOfAll before) (heightOfAll after) := by
  induction before with
  | nil => simp [heightOfAll]
  | cons first rest ih => rw [List.cons_append, heightOfAll, heightOfAll, ih, Nat.max_assoc]

/-! ### Tokens -/

mutual

/-- The tokens of a type expression, from left to right. -/
def tokens : TypeExpr → List Token
  | keyword word => [.word word]
  | simple identifier => [.word identifier]
  | generic identifier arguments =>
    .word identifier :: .less :: (tokensOfAll arguments ++ [.greater])
  | qualified left right => tokens left ++ .dot :: tokens right
  | aliased label name => .word label :: .doubleColon :: tokens name
  | array element rank =>
    tokens element ++ .leftBracket :: (List.replicate (rank - 1) .comma ++ [.rightBracket])
  | nullable inner => tokens inner ++ [.question]

/-- The tokens of type arguments with a comma between any two of them. -/
def tokensOfAll : List TypeExpr → List Token
  | [] => []
  | [last] => tokens last
  | first :: rest => tokens first ++ .comma :: tokensOfAll rest

end

theorem tokensOfAll_cons_cons (first next : TypeExpr) (rest : List TypeExpr) :
    tokensOfAll (first :: next :: rest) = tokens first ++ .comma :: tokensOfAll (next :: rest) := by
  rw [tokensOfAll]
  simp

/-- The tokens of an argument are tokens of the arguments. -/
theorem tokens_subset_tokensOfAll {arguments : List TypeExpr} {argument : TypeExpr}
    (h : argument ∈ arguments) : argument.tokens ⊆ tokensOfAll arguments := by
  induction arguments with
  | nil => exact absurd h List.not_mem_nil
  | cons first rest ih =>
    cases rest with
    | nil =>
      rw [List.mem_singleton.mp h, tokensOfAll]
      exact List.Subset.refl _
    | cons next more =>
      rw [tokensOfAll_cons_cons]
      intro token htoken
      rcases List.mem_cons.mp h with rfl | hrest
      · exact List.mem_append_left _ htoken
      · exact List.mem_append_right _ (List.mem_cons_of_mem _ (ih hrest htoken))

/-- What a token of a type can be: a word that is an identifier, or any token but a stray
character. -/
def Token.IsLegal : Token → Prop
  | word text => isIdentifier text = true
  | stray _ => False
  | _ => True

/-- The tokens of arguments are legal when those of each argument are. -/
theorem isLegal_of_mem_tokensOfAll {arguments : List TypeExpr}
    (h : ∀ argument ∈ arguments, ∀ token ∈ argument.tokens, token.IsLegal) :
    ∀ token ∈ tokensOfAll arguments, token.IsLegal := by
  induction arguments with
  | nil => simp [tokensOfAll]
  | cons first rest ih =>
    have hfirst := h first List.mem_cons_self
    have hrest := ih fun argument hmem ↦ h argument (List.mem_cons_of_mem _ hmem)
    cases rest with
    | nil => exact hfirst
    | cons next more =>
      rw [tokensOfAll_cons_cons]
      intro token htoken
      rcases List.mem_append.mp htoken with hmem | hmem
      · exact hfirst token hmem
      · rcases List.mem_cons.mp hmem with rfl | hmem
        · trivial
        · exact hrest token hmem

mutual

/-- The tokens of a type are legal. -/
theorem isLegal_of_mem_tokens {t : TypeExpr} : IsType t → ∀ token ∈ t.tokens, token.IsLegal
  | .keyword hword => by
    simpa [tokens, Token.IsLegal] using isIdentifier_of_isKeyword hword
  | .name ht => isLegal_of_mem_tokens_name ht
  | .array helement hrank => by
    have ih := isLegal_of_mem_tokens helement
    intro token htoken
    simp only [tokens, List.mem_append, List.mem_cons, List.mem_replicate, List.not_mem_nil,
      or_false] at htoken
    rcases htoken with hmem | rfl | ⟨-, rfl⟩ | rfl
    · exact ih token hmem
    all_goals trivial
  | .nullable hinner => by
    have ih := isLegal_of_mem_tokens hinner
    intro token htoken
    rcases List.mem_append.mp htoken with hmem | hmem
    · exact ih token hmem
    · rw [List.mem_singleton.mp hmem]
      trivial

/-- The tokens of a name are legal. -/
theorem isLegal_of_mem_tokens_name {t : TypeExpr} : IsName t → ∀ token ∈ t.tokens, token.IsLegal
  | .first hkeyword ht => isLegal_of_mem_tokens_segment ht
  | .aliased hlabel hkeyword hname => by
    have ih := isLegal_of_mem_tokens_segment hname
    intro token htoken
    simp only [tokens, List.mem_cons] at htoken
    rcases htoken with rfl | rfl | hmem
    · exact hlabel
    · trivial
    · exact ih token hmem
  | .qualified hleft hright => by
    have ihLeft := isLegal_of_mem_tokens_name hleft
    have ihRight := isLegal_of_mem_tokens_segment hright
    intro token htoken
    simp only [tokens, List.mem_append, List.mem_cons] at htoken
    rcases htoken with hmem | rfl | hmem
    · exact ihLeft token hmem
    · trivial
    · exact ihRight token hmem

/-- The tokens of a segment are legal. -/
theorem isLegal_of_mem_tokens_segment {identifier : String} {t : TypeExpr} :
    IsSegment identifier t → ∀ token ∈ t.tokens, token.IsLegal
  | .simple hidentifier => by
    simpa [tokens, Token.IsLegal] using hidentifier
  | .generic hidentifier hne harguments => by
    have ih := isLegal_of_mem_tokensOfAll fun argument hmem ↦
      isLegal_of_mem_tokens (harguments argument hmem)
    intro token htoken
    simp only [tokens, List.mem_cons, List.mem_append, List.not_mem_nil, or_false] at htoken
    rcases htoken with rfl | rfl | hmem | rfl
    · exact hidentifier
    · trivial
    · exact ih token hmem
    · trivial

end

end HubRelay.TypeExpr
