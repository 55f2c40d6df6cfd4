import HubRelay.Snapshot.Symbol
import Mathlib.Data.List.Nodup

/-!
# Looking declarations up

A model answers for each key with the one declaration that has it. The declaration found has the key
that was asked for (`key_of_lookup`), and every declaration of the snapshot is found by its own key
(`exists_lookup_eq`), because no two have the same. So the symbol of a declaration is that
declaration (`exists_declaredSymbol_eq`), and a resolved symbol that is declared was found by its
name and the number of its type arguments (`Model.isFound_resolve`).
-/

set_option autoImplicit false

namespace HubRelay

/-- The declared types are the declarations without their assemblies. -/
theorem Snapshot.map_snd_declarations (s : Snapshot) : s.declarations.map Prod.snd = s.types := by
  rw [Snapshot.declarations, Snapshot.types, List.map_flatMap]
  refine congrArg (List.flatMap · s.assemblies) (funext fun assembly ↦ ?_)
  rw [List.map_map]
  exact List.map_id _

namespace Model

variable {m : Model}

/-- A snapshot is accepted as the model that has it, and there is at most one. -/
theorem ofSnapshot_eq_ok_iff {s : Snapshot} : ofSnapshot s = .ok m ↔ m.snapshot = s := by
  constructor
  · intro h
    unfold ofSnapshot at h
    split at h
    · rw [← Except.ok.inj h]
    · cases h
  · rintro rfl
    unfold ofSnapshot
    split
    · obtain ⟨snapshot, accepted, index, rfl⟩ := m
      rfl
    · next reason h =>
      have hchecked : checkAll [] m.snapshot.types = .ok () := checkAll_eq_ok_iff.mpr
        ⟨m.accepted.namespaces, m.accepted.keys, fun _ _ ↦ List.not_mem_nil⟩
      rw [hchecked] at h
      cases h

/-- A snapshot that passes the examination is accepted. -/
theorem exists_ofSnapshot_eq_ok {s : Snapshot} (h : checkAll [] s.types = .ok ()) :
    ∃ m, ofSnapshot s = .ok m ∧ m.snapshot = s := by
  obtain ⟨hnamespaces, hkeys, -⟩ := checkAll_eq_ok_iff.mp h
  exact ⟨⟨s, ⟨hnamespaces, hkeys⟩, _, rfl⟩, ofSnapshot_eq_ok_iff.mpr rfl, rfl⟩

/-- A model of a snapshot finds the first declaration of that snapshot with the key. -/
theorem lookup_eq_of_snapshot_eq {s : Snapshot} (h : m.snapshot = s) :
    m.lookup = fun container name arity ↦
      s.declarations.find? fun entry ↦ entry.2.key == (container, name, arity) := by
  funext container name arity
  rw [lookup_eq_find?, h]

/-! ### Keys -/

/-- The declaration that is found has the key that was asked for. -/
theorem key_of_lookup {container name assembly : String} {arity : Nat} {d : TypeDecl}
    (h : m.lookup container name arity = some (assembly, d)) :
    d.container = container ∧ d.name = name ∧ d.arity = arity := by
  rw [lookup_eq_find?] at h
  have hbeq := List.find?_some h
  have hkey : d.key = (container, name, arity) := eq_of_beq hbeq
  simpa [TypeDecl.key] using hkey

/-- The declaration that is found is one of the snapshot. -/
theorem mem_candidates_of_lookup {container name assembly : String} {arity : Nat} {d : TypeDecl}
    (h : m.lookup container name arity = some (assembly, d)) : d ∈ m.candidates := by
  rw [lookup_eq_find?] at h
  rw [candidates, ← Snapshot.map_snd_declarations]
  exact List.mem_map_of_mem (List.mem_of_find?_eq_some h)

/-- Two declarations of a snapshot with the same key are the same. -/
theorem eq_of_key_eq {d e : TypeDecl} (hd : d ∈ m.candidates) (he : e ∈ m.candidates)
    (h : d.key = e.key) : d = e :=
  List.inj_on_of_nodup_map m.accepted.keys hd he h

/-- A declaration is found with an assembly just when the snapshot has it there and it has the key
that was asked for. -/
theorem lookup_eq_some_iff {container name assembly : String} {arity : Nat} {d : TypeDecl} :
    m.lookup container name arity = some (assembly, d) ↔
      (assembly, d) ∈ m.snapshot.declarations ∧ d.key = (container, name, arity) := by
  rw [lookup_eq_find?]
  constructor
  · intro h
    have hbeq := List.find?_some h
    exact ⟨List.mem_of_find?_eq_some h, eq_of_beq hbeq⟩
  · rintro ⟨hentry, hkey⟩
    have hnodup : (m.snapshot.declarations.map fun entry ↦ entry.2.key).Nodup := by
      have hkeys := m.accepted.keys
      rwa [← Snapshot.map_snd_declarations, List.map_map] at hkeys
    have hfound : (m.snapshot.declarations.find?
        fun entry ↦ entry.2.key == (container, name, arity)).isSome := by
      rw [List.find?_isSome]
      exact ⟨(assembly, d), hentry, beq_iff_eq.mpr hkey⟩
    obtain ⟨other, hother⟩ := Option.isSome_iff_exists.mp hfound
    have hbeq := List.find?_some hother
    have hsame : other.2.key = d.key := (eq_of_beq hbeq).trans hkey.symm
    rw [hother, List.inj_on_of_nodup_map hnodup (List.mem_of_find?_eq_some hother) hentry hsame]

/-- Assumes: a declaration of the snapshot. It is found by its own key. -/
theorem exists_lookup_eq {d : TypeDecl} (hd : d ∈ m.candidates) :
    ∃ assembly, m.lookup d.container d.name d.arity = some (assembly, d) := by
  rw [candidates, ← Snapshot.map_snd_declarations, List.mem_map] at hd
  obtain ⟨⟨assembly, e⟩, hentry, rfl⟩ := hd
  exact ⟨assembly, lookup_eq_some_iff.mpr ⟨hentry, rfl⟩⟩

/-- Assumes: a declaration of the snapshot. Its symbol is that declaration, without type
arguments. -/
theorem exists_declaredSymbol_eq {d : TypeDecl} (hd : d ∈ m.candidates) :
    ∃ assembly, m.declaredSymbol d = some (.declared assembly d []) := by
  obtain ⟨assembly, hlookup⟩ := exists_lookup_eq hd
  exact ⟨assembly, by rw [declaredSymbol, hlookup]; rfl⟩

/-! ### Resolved symbols -/

/-- A symbol that is declared is found by its name and the number of its type arguments. -/
def IsFound (m : Model) : Symbol → Prop
  | .declared assembly d arguments =>
    m.lookup d.container d.name arguments.length = some (assembly, d)
  | .external _ _ _ | .typeParameter _ | .array _ _ => True

/-- What is looked up is found. -/
theorem isFound_of_lookup {container name assembly : String} {arguments : List Symbol}
    {d : TypeDecl} (h : m.lookup container name arguments.length = some (assembly, d)) :
    m.IsFound (.declared assembly d arguments) := by
  obtain ⟨hcontainer, hname, -⟩ := key_of_lookup h
  rw [IsFound, hcontainer, hname]
  exact h

/-- The named type with a full name, declared or not. -/
theorem isFound_named (container name : String) (arguments : List Symbol) :
    m.IsFound (m.named container name arguments) := by
  unfold named
  split
  · next h => exact isFound_of_lookup h
  · trivial

/-- The qualifier of a name is among the namespaces that the name is searched in. It is empty for a name
that is not qualified, which is searched in the global namespace too. -/
theorem qualifier_mem_searched (scope : TypeDecl) (path : TypeExpr.Path) :
    path.qualifier ∈ searched scope path := by
  unfold searched
  split
  · exact List.mem_singleton_self _
  · split
    · exact List.mem_append_right _ (List.mem_singleton_self _)
    · next hlabel hqualified =>
      have hqualifiers : path.qualifiers = [] := by
        simpa [TypeExpr.Path.isQualified, hlabel] using hqualified
      have hglobal : path.qualifier = "" := by
        rw [TypeExpr.Path.qualifier, hqualifiers, String.intercalate_nil]
      rw [hglobal]
      exact List.mem_append_right _ List.mem_cons_self

/-- The symbol of a name is a type parameter of the scope, if it is neither qualified nor generic;
or a declaration in one of the searched namespaces; or an external type with the name as written. -/
theorem resolvePath_cases (scope : TypeDecl) (path : TypeExpr.Path) (arguments : List Symbol) :
    (m.resolvePath scope path arguments = .typeParameter (withoutAt path.identifier) ∧
      arguments = [] ∧ path.isQualified = false) ∨
    (∃ container assembly d, container ∈ searched scope path ∧
      m.lookup container (withoutAt path.identifier) arguments.length = some (assembly, d) ∧
      m.resolvePath scope path arguments = .declared assembly d arguments) ∨
    m.resolvePath scope path arguments =
      .external path.qualifier (withoutAt path.identifier) arguments := by
  unfold resolvePath
  dsimp only
  split
  · next hparameter =>
    simp only [Bool.and_eq_true, Bool.not_eq_true', List.isEmpty_iff] at hparameter
    exact .inl ⟨rfl, hparameter.1.1, hparameter.1.2⟩
  · split
    · next assembly d hfound =>
      obtain ⟨container, hcontainer, hlookup⟩ := List.exists_of_findSome?_eq_some hfound
      exact .inr (.inl ⟨container, assembly, d, hcontainer, hlookup, rfl⟩)
    · exact .inr (.inr rfl)

/-- A name behind an alias is the type with the full name as written, wherever it stands. -/
theorem resolvePath_of_label (scope : TypeDecl) {path : TypeExpr.Path} {label : String}
    (hlabel : path.label = some label) (arguments : List Symbol) :
    m.resolvePath scope path arguments =
      m.named path.qualifier (withoutAt path.identifier) arguments := by
  have hqualified : path.isQualified = true := by
    rw [TypeExpr.Path.isQualified, hlabel]
    rfl
  have hsearched : searched scope path = [path.qualifier] := by
    rw [searched, hlabel]
    rfl
  unfold resolvePath named
  simp only [hqualified, hsearched, Bool.not_true, Bool.and_false, Bool.false_and,
    Bool.false_eq_true, if_false, List.findSome?_cons, List.findSome?_nil]
  cases m.lookup path.qualifier (withoutAt path.identifier) arguments.length <;> rfl

/-- The type arguments of a resolved name are those it is given. -/
theorem typeArguments_resolvePath (scope : TypeDecl) (path : TypeExpr.Path)
    (arguments : List Symbol) :
    (m.resolvePath scope path arguments).typeArguments = arguments := by
  obtain ⟨h, rfl, -⟩ | ⟨container, assembly, d, -, -, h⟩ | h :=
    m.resolvePath_cases scope path arguments
  all_goals rw [h]; rfl

/-- Assumes: an expression with a simple or generic name at its right end. It is resolved as a name,
with the type arguments of that right-most one. -/
theorem resolve_eq_resolveName (scope : TypeDecl) {t : TypeExpr}
    (h : t.rightmost.segments?.isSome = true) :
    m.resolve scope t = m.resolveName scope t (m.resolveArguments scope t.rightmost) := by
  cases t with
  | simple identifier | generic identifier arguments | qualified left right | aliased label name =>
    rw [resolve]
    rfl
  | keyword word | array element rank | nullable inner => cases h

/-- The symbol of a name is found, if it is declared. -/
theorem isFound_resolveName (scope : TypeDecl) (t : TypeExpr) (arguments : List Symbol) :
    m.IsFound (m.resolveName scope t arguments) := by
  unfold resolveName
  split
  · next path hpath =>
    obtain ⟨h, -⟩ | ⟨container, assembly, d, -, hlookup, h⟩ | h :=
      m.resolvePath_cases scope path arguments
    · rw [h]
      trivial
    · rw [h]
      exact isFound_of_lookup hlookup
    · rw [h]
      trivial
  · exact isFound_named _ _ _

/-- A resolved symbol is found, if it is declared. -/
theorem isFound_resolve (scope : TypeDecl) : ∀ t : TypeExpr, m.IsFound (m.resolve scope t)
  | .keyword word => by
    rw [resolve]
    exact isFound_named _ _ _
  | .array element rank => by
    rw [resolve]
    trivial
  | .nullable inner => by
    rw [resolve]
    split
    · exact isFound_named _ _ _
    · exact isFound_resolve scope inner
  | .simple identifier => by
    rw [resolve]
    exact isFound_resolveName _ _ _
  | .generic identifier arguments => by
    rw [resolve]
    exact isFound_resolveName _ _ _
  | .qualified left right => by
    rw [resolve]
    exact isFound_resolveName _ _ _
  | .aliased label name => by
    rw [resolve]
    exact isFound_resolveName _ _ _

/-! ### Bases -/

/-- A base type is one of the bases. -/
theorem mem_bases_of_baseType {s base : Symbol} (h : m.baseType s = some base) :
    base ∈ m.bases s := by
  unfold baseType at h
  split at h
  · split at h
    · cases h
    · exact List.mem_of_mem_head? (Option.filter_eq_some_iff.mp h).1
  · cases h

/-- The interfaces are among the bases. -/
theorem mem_bases_of_mem_interfaces {s server : Symbol} (h : server ∈ m.interfaces s) :
    server ∈ m.bases s :=
  List.mem_of_mem_drop (List.mem_of_mem_filter h)

end Model

end HubRelay
