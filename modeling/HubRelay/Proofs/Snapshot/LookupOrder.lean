import HubRelay.Proofs.Discovery.Resolved
import HubRelay.Proofs.Snapshot.Namespaces

/-!
# The order in which names are looked up

`Model.Denotes` says what a name that is written in a declaration stands for, by the namespaces
around the declaration and those it imports, and by what the snapshot declares. It does not speak of
a search: of the namespaces around a declaration the longest counts that declares the name. A model
resolves each name to what it stands for, and to nothing else (`Model.resolve_eq_iff_denotes`).

The proof compares the two ways to say where a name is found. The first entry of a list in which
each text is longer than those after it is the longest one (`isFirst_iff_isLongest`), and the
namespaces around a declaration are listed in that way.
-/

set_option autoImplicit false

namespace HubRelay

/-- The name that is looked up: the last identifier, without leading `@`. -/
def TypeExpr.Path.name (path : TypeExpr.Path) : String := Model.withoutAt path.identifier

namespace Model

/-! ### What is declared -/

/-- The snapshot declares, in an assembly, a type with the given namespace, name and number of type
parameters. -/
def Declares (m : Model) (container name : String) (arity : Nat) (assembly : String)
    (d : TypeDecl) : Prop :=
  (assembly, d) ∈ m.snapshot.declarations ∧ d.key = (container, name, arity)

/-- The snapshot declares a type with the given namespace, name and number of type parameters. -/
def IsDeclared (m : Model) (container name : String) (arity : Nat) : Prop :=
  ∃ assembly d, m.Declares container name arity assembly d

variable {m : Model}

/-- Something is found by a key just when the snapshot declares a type with it. -/
theorem isSome_lookup_iff {container name : String} {arity : Nat} :
    (m.lookup container name arity).isSome = true ↔ m.IsDeclared container name arity := by
  rw [Option.isSome_iff_exists, Prod.exists]
  simp only [lookup_eq_some_iff]
  rfl

/-! ### Where a name is found -/

/-- A longest text with a property. -/
def IsLongest (p : String → Prop) (text : String) : Prop :=
  p text ∧ ∀ other, p other → other.length ≤ text.length

/-- The first entry of a list with a property. -/
def IsFirst (p : String → Prop) (texts : List String) (text : String) : Prop :=
  ∃ before after, texts = before ++ text :: after ∧ p text ∧ ∀ other ∈ before, ¬ p other

/-- The namespace that a name written in `scope` is found in. Behind an alias it is found as it is
written. An unqualified name is found in the longest namespace around the scope that declares it,
the global one included, and otherwise in the first imported one. A qualified name is found below
the longest namespace around the scope that it is declared below, and otherwise as it is written. -/
def FoundIn (m : Model) (scope : TypeDecl) (path : TypeExpr.Path) (container : String) : Prop :=
  let declared (container : String) : Prop := m.IsDeclared container path.name path.arguments.length
  let around (outer : String) : Prop := outer = "" ∨ Encloses outer scope.container
  let outside (outer : String) : Prop := outer ≠ "" ∧ Encloses outer scope.container
  let below (outer : String) : String := outer ++ "." ++ path.qualifier
  match path.label, path.qualifiers with
  | some _, _ => container = path.qualifier ∧ declared container
  | none, [] =>
    IsLongest (fun outer ↦ around outer ∧ declared outer) container ∨
      (∀ outer, around outer → ¬ declared outer) ∧ IsFirst declared scope.usings container
  | none, _ :: _ =>
    (∃ outer, IsLongest (fun outer ↦ outside outer ∧ declared (below outer)) outer ∧
      below outer = container) ∨
      (∀ outer, outside outer → ¬ declared (below outer)) ∧
        container = path.qualifier ∧ declared container

/-! ### The first and the longest -/

/-- What is found in a list is the first with the property. -/
theorem find?_eq_some_iff_isFirst {p : String → Bool} {texts : List String} {text : String} :
    texts.find? p = some text ↔ IsFirst (p · = true) texts text := by
  rw [List.find?_eq_some_iff_append]
  simp only [IsFirst, Bool.not_eq_true', Bool.not_eq_true]
  constructor
  · rintro ⟨htext, before, after, hsplit, hbefore⟩
    exact ⟨before, after, hsplit, htext, hbefore⟩
  · rintro ⟨before, after, hsplit, htext, hbefore⟩
    exact ⟨htext, before, after, hsplit, hbefore⟩

theorem isFirst_singleton {p : String → Prop} {only text : String} :
    IsFirst p [only] text ↔ text = only ∧ p text := by
  constructor
  · rintro ⟨before, after, hsplit, htext, -⟩
    obtain ⟨-, honly⟩ | ⟨-, hnil⟩ := List.append_eq_singleton_iff.mp hsplit.symm
    · exact ⟨(List.cons.inj honly).1, htext⟩
    · cases hnil
  · rintro ⟨rfl, htext⟩
    exact ⟨[], [], rfl, htext, List.forall_mem_nil _⟩

/-- Assumes: a list in which each text is longer than those after it. The first with a property is
the longest. -/
theorem isFirst_iff_isLongest {p : String → Prop} {texts : List String} {text : String}
    (h : texts.Pairwise fun first next ↦ next.length < first.length) :
    IsFirst p texts text ↔ IsLongest (fun other ↦ other ∈ texts ∧ p other) text := by
  constructor
  · rintro ⟨before, after, rfl, htext, hbefore⟩
    refine ⟨⟨List.mem_append_right _ List.mem_cons_self, htext⟩, ?_⟩
    rintro other ⟨hmem, hother⟩
    rcases List.mem_append.mp hmem with hmem | hmem
    · exact absurd hother (hbefore other hmem)
    · rcases List.mem_cons.mp hmem with rfl | hafter
      · exact le_rfl
      · have hrest := (List.pairwise_append.mp h).2.1
        exact (List.rel_of_pairwise_cons hrest hafter).le
  · rintro ⟨⟨hmem, htext⟩, hlongest⟩
    obtain ⟨before, after, rfl⟩ := List.append_of_mem hmem
    refine ⟨before, after, rfl, htext, fun other hother hp ↦ ?_⟩
    have hlonger := (List.pairwise_append.mp h).2.2 other hother text List.mem_cons_self
    have hshorter := hlongest other ⟨List.mem_append_left _ hother, hp⟩
    omega

variable {scope : TypeDecl}

/-! ### The search -/

/-- Assumes: a declaration of the snapshot. A name written in it is found in the first of the
searched namespaces in which it is declared. -/
theorem foundIn_iff (hscope : scope ∈ m.candidates) (path : TypeExpr.Path) {container : String} :
    m.FoundIn scope path container ↔
      (searched scope path).find? (fun outer ↦
        (m.lookup outer path.name path.arguments.length).isSome) = some container := by
  unfold FoundIn searched TypeExpr.Path.isQualified
  dsimp only
  split
  · next label hlabel =>
    rw [hlabel, Option.isSome_some, if_pos rfl, find?_eq_some_iff_isFirst]
    simp only [isSome_lookup_iff, isFirst_singleton]
  · next hlabel hqualifiers =>
    have haround (outer : String) : outer ∈ enclosing scope.container ++ [""] ↔
        outer = "" ∨ Encloses outer scope.container := by
      rw [List.mem_append, List.mem_singleton, mem_enclosing_iff_of_mem hscope]
      tauto
    simp only [hlabel, hqualifiers, Option.isSome_none, List.isEmpty_nil, Bool.not_true,
      Bool.or_false, Bool.false_eq_true, if_false]
    -- The global namespace belongs to those around the scope, and not to the imported ones.
    rw [List.append_cons, List.find?_append, Option.or_eq_some_iff, find?_eq_some_iff_isFirst,
      find?_eq_some_iff_isFirst, List.find?_eq_none,
      isFirst_iff_isLongest (pairwise_length_enclosing_append hscope)]
    simp only [isSome_lookup_iff, haround]
  · next first more hlabel hqualifiers =>
    simp only [hlabel, hqualifiers, Option.isSome_none, List.isEmpty_cons, Bool.not_false,
      Bool.or_true, Bool.false_eq_true, if_false, if_true]
    rw [List.find?_append, Option.or_eq_some_iff, List.find?_map, Option.map_eq_some_iff,
      Option.map_eq_none_iff, List.find?_eq_none]
    simp only [find?_eq_some_iff_isFirst, isFirst_singleton, Function.comp_apply,
      isSome_lookup_iff, isFirst_iff_isLongest (pairwise_length_enclosing scope.container),
      mem_enclosing_iff_of_mem hscope]

/-! ### What a name stands for -/

/-- A name is a type parameter of `scope`: neither qualified nor generic, and among its type
parameters. -/
def IsTypeParameter (scope : TypeDecl) (path : TypeExpr.Path) : Prop :=
  path.label = none ∧ path.qualifiers = [] ∧ path.arguments = [] ∧ path.name ∈ scope.typeParameters

/-- What a name written in `scope` stands for: a type parameter of the scope; or else the type that
is declared where the name is found; or, when it is found nowhere, an external type by its
qualifier. The type arguments are what those of the name stand for, in order. -/
inductive Denotes (m : Model) (scope : TypeDecl) (path : TypeExpr.Path) : Symbol → Prop
  | typeParameter (hparameter : IsTypeParameter scope path) :
      Denotes m scope path (.typeParameter path.name)
  | declared {container assembly : String} {d : TypeDecl} (hother : ¬ IsTypeParameter scope path)
      (hfound : m.FoundIn scope path container)
      (hdeclared : m.Declares container path.name path.arguments.length assembly d) :
      Denotes m scope path (.declared assembly d (path.arguments.map (m.resolve scope)))
  | external (hother : ¬ IsTypeParameter scope path)
      (hnowhere : ∀ container, ¬ m.FoundIn scope path container) :
      Denotes m scope path
        (.external path.qualifier path.name (path.arguments.map (m.resolve scope)))

/-! ### Resolution -/

/-- The first answer is that of the first entry that has one. -/
theorem findSome?_eq_bind {α β : Type} (f : α → Option β) (xs : List α) :
    xs.findSome? f = (xs.find? fun x ↦ (f x).isSome).bind f := by
  induction xs with
  | nil => rfl
  | cons x rest ih =>
    rw [List.findSome?_cons, List.find?_cons]
    cases hx : f x with
    | none => exact ih
    | some found => exact hx.symm

variable {path : TypeExpr.Path} {symbol : Symbol}

/-- Assumes: as many resolved type arguments as the name has. It is taken for a type parameter when
it is one. -/
theorem isTypeParameter_iff {arguments : List Symbol}
    (hlength : arguments.length = path.arguments.length) :
    (arguments.isEmpty && !path.isQualified &&
        scope.typeParameters.contains (withoutAt path.identifier)) = true ↔
      IsTypeParameter scope path := by
  have hempty : arguments = [] ↔ path.arguments = [] := by
    rw [← List.length_eq_zero_iff, hlength, List.length_eq_zero_iff]
  have hplain : path.isQualified = false ↔ path.label = none ∧ path.qualifiers = [] := by
    rw [TypeExpr.Path.isQualified, Bool.or_eq_false_iff, Option.isSome_eq_false_iff,
      Option.isNone_iff_eq_none, Bool.not_eq_false', List.isEmpty_iff]
  simp only [Bool.and_eq_true, Bool.not_eq_true', List.isEmpty_iff, List.contains_iff_mem, hempty,
    hplain, IsTypeParameter, TypeExpr.Path.name]
  tauto

/-- Assumes: a declaration of the snapshot. A path is resolved in it to what it stands for. -/
theorem resolvePath_eq_of_denotes (hscope : scope ∈ m.candidates)
    (h : m.Denotes scope path symbol) :
    m.resolvePath scope path (path.arguments.map (m.resolve scope)) = symbol := by
  have hlength : (path.arguments.map (m.resolve scope)).length = path.arguments.length :=
    List.length_map _
  have hparameter := @isTypeParameter_iff scope path _ hlength
  unfold resolvePath
  dsimp only
  rw [findSome?_eq_bind, hlength]
  cases h with
  | typeParameter h =>
    rw [if_pos (hparameter.mpr h)]
    rfl
  | declared hother hfound hdeclared =>
    have hfind := (foundIn_iff hscope path).mp hfound
    have hlookup := lookup_eq_some_iff.mpr hdeclared
    rw [TypeExpr.Path.name] at hfind hlookup
    rw [if_neg (mt hparameter.mp hother), hfind, Option.bind_some, hlookup]
  | external hother hnowhere =>
    have hfind : (searched scope path).find? (fun outer ↦
        (m.lookup outer (withoutAt path.identifier) path.arguments.length).isSome) = none := by
      rw [Option.eq_none_iff_forall_ne_some]
      exact fun container hfind ↦ hnowhere container ((foundIn_iff hscope path).mpr hfind)
    rw [if_neg (mt hparameter.mp hother), hfind]
    rfl

/-- Every name stands for something. -/
theorem exists_denotes (hscope : scope ∈ m.candidates) (path : TypeExpr.Path) :
    ∃ symbol, m.Denotes scope path symbol := by
  by_cases hparameter : IsTypeParameter scope path
  · exact ⟨_, .typeParameter hparameter⟩
  by_cases hfound : ∃ container, m.FoundIn scope path container
  · obtain ⟨container, hfound⟩ := hfound
    have hsome := List.find?_some ((foundIn_iff hscope path).mp hfound)
    obtain ⟨assembly, d, hdeclared⟩ := isSome_lookup_iff.mp hsome
    exact ⟨_, .declared hparameter hfound hdeclared⟩
  · exact ⟨_, .external hparameter (not_exists.mp hfound)⟩

/-- A name is resolved as its path, with the symbols of its type arguments. -/
theorem resolve_of_hasPath {t : TypeExpr} (h : t.HasPath path) :
    m.resolve scope t = m.resolvePath scope path (path.arguments.map (m.resolve scope)) := by
  have hname : t.rightmost.segments?.isSome = true := by
    rw [h.rightmost_eq, TypeExpr.segments?_segmentOf]
    rfl
  rw [resolve_eq_resolveName scope hname, resolveName, h.path?_eq, h.rightmost_eq,
    resolveArguments_segmentOf]

/-- Assumes: a declaration of the snapshot, and a name of the grammar, written in it. The name has
parts, and is resolved to what a name with these parts stands for, and to nothing else. -/
theorem resolve_eq_iff_denotes (hscope : scope ∈ m.candidates) {t : TypeExpr}
    (ht : TypeExpr.IsName t) :
    ∃ path, t.HasPath path ∧
      ∀ symbol, m.resolve scope t = symbol ↔ m.Denotes scope path symbol := by
  obtain ⟨path, hpath⟩ := TypeExpr.exists_hasPath ht
  refine ⟨path, hpath, fun symbol ↦ ?_⟩
  rw [resolve_of_hasPath hpath]
  constructor
  · rintro rfl
    obtain ⟨symbol, hsymbol⟩ := m.exists_denotes hscope path
    rwa [resolvePath_eq_of_denotes hscope hsymbol]
  · exact resolvePath_eq_of_denotes hscope

/-- Boxes in the global namespace, in two around the declaration, and in an imported one, and a name
that is written with `@` and a type argument. -/
theorem resolve_eq_iff_denotes_box :
    let box (container : String) : TypeDecl := ⟨.classType, container, "Box", ["T"], [], [], []⟩
    let scope : TypeDecl := ⟨.classType, "A.B.C", "Crate", [], ["D"], [], []⟩
    let s : Snapshot := ⟨[⟨"Core", [box "", box "A", box "A.B", box "D", scope]⟩]⟩
    let t : TypeExpr := .generic "@Box" [.keyword "int"]
    ∃ m, ofSnapshot s = .ok m ∧ scope ∈ m.candidates ∧ TypeExpr.parse "@Box<int>" = .ok t ∧
      TypeExpr.IsName t ∧ ∃ path, t.HasPath path ∧
        ∀ symbol, m.resolve scope t = symbol ↔ m.Denotes scope path symbol := by
  intro box scope s t
  obtain ⟨m, hm, hsnapshot⟩ := exists_ofSnapshot_eq_ok (s := s) (by decide +kernel)
  have hscope : scope ∈ m.candidates := by
    rw [candidates, hsnapshot]
    decide +kernel
  have hparse : TypeExpr.parse "@Box<int>" = .ok t := by decide +kernel
  have hread : TypeExpr.IsType (.generic "@Box" [.keyword "int"]) :=
    (TypeExpr.parse_sound hparse).1.1
  have ht : TypeExpr.IsName t := by
    cases hread with
    | name ht => exact ht
  exact ⟨m, hm, hscope, hparse, ht, resolve_eq_iff_denotes hscope ht⟩

end Model

end HubRelay
