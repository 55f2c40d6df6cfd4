import HubRelay.Proofs.Snapshot.Lookup

/-!
# What is accepted, and what is found in it

Declarations are examined in order, and the examination ends at the first that is at fault. So the
error of a snapshot that is not accepted is the fault of one declaration, with none at fault before
it (`Model.checkAll_eq_error_iff`). A declaration is at fault when one of its namespaces cannot be
read, and otherwise when an earlier declaration has its key (`TypeDecl.Fault`).

In an accepted snapshot no two declarations have the same key, and so the index answers each key
with the declaration that has it, in its assembly, and with nothing if there is none. The last
theorem (`Model.ofSnapshot_and_lookup_iff`) says all of this of an arbitrary snapshot.
-/

set_option autoImplicit false

namespace HubRelay

/-! ### The first of a list -/

/-- A place in a list with something at its front is the front, or a place behind it. -/
theorem exists_cons_eq_append_cons_iff {α : Type} {first : α} {rest : List α}
    {p : List α → α → Prop} :
    (∃ before x after, first :: rest = before ++ x :: after ∧ p before x) ↔
      p [] first ∨ ∃ before x after, rest = before ++ x :: after ∧ p (first :: before) x := by
  constructor
  · rintro ⟨before, x, after, hsplit, hp⟩
    cases before with
    | nil =>
      obtain ⟨rfl, -⟩ := List.cons.inj hsplit
      exact .inl hp
    | cons found before =>
      obtain ⟨rfl, hrest⟩ := List.cons.inj hsplit
      exact .inr ⟨before, x, after, hrest, hp⟩
  · rintro (hp | ⟨before, x, after, hrest, hp⟩)
    · exact ⟨[], first, rest, rfl, hp⟩
    · exact ⟨first :: before, x, after, by rw [hrest, List.cons_append], hp⟩

/-! ### Faults -/

/-- What is wrong with a declaration that follows others. -/
inductive TypeDecl.Fault (before : List TypeDecl) (d : TypeDecl) : SnapshotError → Prop
  /-- One of its namespaces, the first that cannot be read. -/
  | namespaces {earlier later : List String} {container : String} {reason : TypeExpr.SyntaxError}
      (hsplit : d.namespaces = earlier ++ container :: later)
      (hearlier : ∀ other ∈ earlier, IsNamespace other) (hne : container ≠ "")
      (hparse : TypeExpr.parse container = .error reason) :
      Fault before d (.invalidNamespace container reason)
  /-- Its namespaces can be read, but an earlier declaration has its key. -/
  | key (hnamespaces : ∀ container ∈ d.namespaces, IsNamespace container)
      (hkey : ∃ e ∈ before, e.key = d.key) : Fault before d (.duplicateType d.fullName)

namespace Model

variable {m : Model} {s : Snapshot} {reason : SnapshotError}

/-! ### The examination -/

/-- A namespace fails when it is not empty and cannot be read. -/
theorem checkNamespace_eq_error_iff {container : String} :
    checkNamespace container = .error reason ↔
      container ≠ "" ∧ ∃ e, TypeExpr.parse container = .error e ∧
        .invalidNamespace container e = reason := by
  unfold checkNamespace
  by_cases hempty : container = ""
  · simp [hempty]
  · cases hparse : TypeExpr.parse container <;> simp [hempty]

/-- Namespaces fail by the first of them that fails. -/
theorem checkNamespaces_eq_error_iff {containers : List String} :
    checkNamespaces containers = .error reason ↔
      ∃ earlier container later, containers = earlier ++ container :: later ∧
        (∀ other ∈ earlier, IsNamespace other) ∧ checkNamespace container = .error reason := by
  induction containers with
  | nil => simp [checkNamespaces]
  | cons first rest ih =>
    rw [exists_cons_eq_append_cons_iff, checkNamespaces]
    simp only [List.forall_mem_cons, ← checkNamespace_eq_ok_iff] at ih ⊢
    cases hfirst : checkNamespace first with
    | ok passed => simp [bind, Except.bind, ih]
    | error found => simp [bind, Except.bind]

/-- A declaration is at fault when its namespaces fail, or pass and its key has been seen. -/
theorem fault_iff {before : List TypeDecl} {d : TypeDecl} :
    d.Fault before reason ↔ checkNamespaces d.namespaces = .error reason ∨
      checkNamespaces d.namespaces = .ok () ∧ (∃ e ∈ before, e.key = d.key) ∧
        .duplicateType d.fullName = reason := by
  constructor
  · rintro (⟨hsplit, hearlier, hne, hparse⟩ | ⟨hnamespaces, hkey⟩)
    · refine .inl (checkNamespaces_eq_error_iff.mpr ⟨_, _, _, hsplit, hearlier, ?_⟩)
      exact checkNamespace_eq_error_iff.mpr ⟨hne, _, hparse, rfl⟩
    · exact .inr ⟨checkNamespaces_eq_ok_iff.mpr hnamespaces, hkey, rfl⟩
  · rintro (hnamespaces | ⟨hnamespaces, hkey, rfl⟩)
    · obtain ⟨earlier, container, later, hsplit, hearlier, hcontainer⟩ :=
        checkNamespaces_eq_error_iff.mp hnamespaces
      obtain ⟨hne, e, hparse, rfl⟩ := checkNamespace_eq_error_iff.mp hcontainer
      exact .namespaces hsplit hearlier hne hparse
    · exact .key (checkNamespaces_eq_ok_iff.mp hnamespaces) hkey

/-- It does not matter in which order the others stand. -/
theorem fault_reverse {before : List TypeDecl} {d : TypeDecl} :
    d.Fault before.reverse reason ↔ d.Fault before reason := by
  rw [fault_iff, fault_iff]
  simp only [List.mem_reverse]

/-- Declarations fail by the first of them that is at fault, after those seen before. -/
theorem checkAll_eq_error_iff {seen declarations : List TypeDecl} :
    checkAll (seen.map TypeDecl.key) declarations = .error reason ↔
      ∃ before d after, declarations = before ++ d :: after ∧
        checkAll (seen.map TypeDecl.key) before = .ok () ∧
        d.Fault (before.reverse ++ seen) reason := by
  induction declarations generalizing seen with
  | nil => simp [checkAll]
  | cons first rest ih =>
    -- Keys are seen in reverse, the latest first.
    have hmore (before : List TypeDecl) :
        (first :: before).reverse ++ seen = before.reverse ++ first :: seen := by
      rw [List.reverse_cons, List.append_assoc, List.singleton_append]
    have hseen : first.key ∈ seen.map TypeDecl.key ↔ ∃ e ∈ seen, e.key = first.key := List.mem_map
    rw [exists_cons_eq_append_cons_iff, fault_iff]
    simp only [hmore, checkAll, List.reverse_nil, List.nil_append, true_and, hseen]
    cases hfirst : checkNamespaces first.namespaces with
    | error found => simp [bind, Except.bind]
    | ok passed =>
      by_cases hkey : ∃ e ∈ seen, e.key = first.key
      · simp [bind, Except.bind, hkey]
      · have hrest := @ih (first :: seen)
        rw [List.map_cons] at hrest
        simp only [bind, Except.bind, hkey, if_false, hrest, false_and, and_false, or_false,
          reduceCtorEq, false_or]

/-- A snapshot is accepted when its namespaces can be read and no two declarations have the same
key. -/
theorem exists_ofSnapshot_iff :
    (∃ m, ofSnapshot s = .ok m) ↔
      (∀ d ∈ s.types, ∀ container ∈ d.namespaces, IsNamespace container) ∧
        (s.types.map TypeDecl.key).Nodup := by
  constructor
  · rintro ⟨m, hm⟩
    obtain rfl := ofSnapshot_eq_ok_iff.mp hm
    exact ⟨m.accepted.namespaces, m.accepted.keys⟩
  · rintro ⟨hnamespaces, hkeys⟩
    have hchecked := checkAll_eq_ok_iff.mpr ⟨hnamespaces, hkeys, fun _ _ ↦ List.not_mem_nil⟩
    obtain ⟨m, hm, -⟩ := exists_ofSnapshot_eq_ok hchecked
    exact ⟨m, hm⟩

/-- A snapshot is refused for the fault of its first declaration at fault. -/
theorem ofSnapshot_eq_error_iff :
    ofSnapshot s = .error reason ↔
      ∃ before d after, s.types = before ++ d :: after ∧
        (∀ e ∈ before, ∀ container ∈ e.namespaces, IsNamespace container) ∧
        (before.map TypeDecl.key).Nodup ∧ d.Fault before reason := by
  have hfirst := @checkAll_eq_error_iff reason [] s.types
  simp only [checkAll_eq_ok_iff, List.append_nil, fault_reverse, List.map_nil, List.not_mem_nil,
    not_false_eq_true, implies_true, and_true, and_assoc] at hfirst
  rw [← hfirst]
  unfold ofSnapshot
  split
  · next h => simp [h]
  · next found h => simp [h]

/-! ### The index -/

/-- The declarations are the types of the assemblies, each in its own. -/
theorem mem_declarations_iff {assembly : String} {d : TypeDecl} :
    (assembly, d) ∈ s.declarations ↔ ∃ a ∈ s.assemblies, a.name = assembly ∧ d ∈ a.types := by
  simp only [Snapshot.declarations, List.mem_flatMap, List.mem_map, Prod.mk.injEq,
    exists_eq_right_right]
  exact exists_congr fun a ↦ and_congr_right fun _ ↦ and_comm

/-- Nothing is found by a key that no declaration has. -/
theorem lookup_eq_none_iff {container name : String} {arity : Nat} :
    m.lookup container name arity = none ↔
      ∀ d ∈ m.candidates, d.key ≠ (container, name, arity) := by
  rw [lookup_eq_find?, List.find?_eq_none, candidates, ← Snapshot.map_snd_declarations,
    List.forall_mem_map]
  simp only [beq_iff_eq]

/-- The symbol of a declaration in an assembly is that declaration in that assembly. -/
theorem declaredSymbol_eq {a : AssemblyDecl} (ha : a ∈ m.snapshot.assemblies) {d : TypeDecl}
    (hd : d ∈ a.types) : m.declaredSymbol d = some (.declared a.name d []) := by
  have hlookup : m.lookup d.container d.name d.arity = some (a.name, d) :=
    lookup_eq_some_iff.mpr ⟨mem_declarations_iff.mpr ⟨a, ha, rfl, hd⟩, rfl⟩
  rw [declaredSymbol, hlookup, Option.map_some]

/-- A snapshot is accepted just when the namespaces of its declarations can be read and no two of
them have the same key. Then the model finds each declaration by its key, with its assembly, and
nothing else, and the symbol of a declaration is that declaration. A snapshot is refused for the
fault of one declaration, the first that has one. -/
theorem ofSnapshot_and_lookup_iff (s : Snapshot) :
    ((∃ m, ofSnapshot s = .ok m) ↔
      (∀ d ∈ s.types, ∀ container ∈ d.namespaces, IsNamespace container) ∧
        (s.types.map TypeDecl.key).Nodup) ∧
    (∀ m, ofSnapshot s = .ok m →
      (∀ container name arity assembly d,
        m.lookup container name arity = some (assembly, d) ↔
          (∃ a ∈ s.assemblies, a.name = assembly ∧ d ∈ a.types) ∧
            d.key = (container, name, arity)) ∧
      (∀ container name arity, m.lookup container name arity = none ↔
        ∀ d ∈ s.types, d.key ≠ (container, name, arity)) ∧
      ∀ a ∈ s.assemblies, ∀ d ∈ a.types, m.declaredSymbol d = some (.declared a.name d [])) ∧
    ∀ reason, ofSnapshot s = .error reason ↔
      ∃ before d after, s.types = before ++ d :: after ∧
        (∀ e ∈ before, ∀ container ∈ e.namespaces, IsNamespace container) ∧
        (before.map TypeDecl.key).Nodup ∧ d.Fault before reason := by
  refine ⟨exists_ofSnapshot_iff, fun m hm ↦ ?_, fun reason ↦ ofSnapshot_eq_error_iff⟩
  obtain rfl := ofSnapshot_eq_ok_iff.mp hm
  refine ⟨fun _ _ _ _ _ ↦ ?_, fun _ _ _ ↦ lookup_eq_none_iff, fun a ha d hd ↦ ?_⟩
  · rw [lookup_eq_some_iff, mem_declarations_iff]
  · exact declaredSymbol_eq ha hd

/-- A box with one type parameter is found by its key, and no other arity is. A second box is
refused when it has as many type parameters, and named with its own. -/
theorem ofSnapshot_and_lookup_box :
    let box (kind : DeclarationKind) (parameter : String) : TypeDecl :=
      ⟨kind, "N", "Box", [parameter], ["System"], [], []⟩
    let single : Snapshot := ⟨[⟨"A", [box .classType "T"]⟩]⟩
    let double : Snapshot := ⟨[⟨"A", [box .classType "T"]⟩, ⟨"B", [box .interfaceType "U"]⟩]⟩
    (∃ m, ofSnapshot single = .ok m ∧
      m.lookup "N" "Box" 1 = some ("A", box .classType "T") ∧ m.lookup "N" "Box" 0 = none) ∧
    ofSnapshot double = .error (.duplicateType "N.Box<U>") := by
  intro box single double
  obtain ⟨haccepted, hfound, -⟩ := ofSnapshot_and_lookup_iff single
  obtain ⟨-, -, hrefused⟩ := ofSnapshot_and_lookup_iff double
  have hnamespaces (kind : DeclarationKind) (parameter : String) :
      ∀ container ∈ (box kind parameter).namespaces, IsNamespace container := by
    refine checkNamespaces_eq_ok_iff.mp ?_
    show checkNamespaces ["N", "System"] = .ok ()
    decide +kernel
  constructor
  · obtain ⟨m, hm⟩ := haccepted.mpr ⟨List.forall_mem_singleton.mpr (hnamespaces _ _), by decide⟩
    obtain ⟨hsome, hnone, -⟩ := hfound m hm
    refine ⟨m, hm, (hsome _ _ _ _ _).mpr ⟨⟨_, List.mem_singleton_self _, rfl, ?_⟩, rfl⟩, ?_⟩
    · exact List.mem_singleton_self _
    · exact (hnone _ _ _).mpr (List.forall_mem_singleton.mpr (by decide))
  · refine (hrefused _).mpr ⟨[box .classType "T"], box .interfaceType "U", [], rfl, ?_, ?_, ?_⟩
    · exact List.forall_mem_singleton.mpr (hnamespaces _ _)
    · decide
    · exact .key (hnamespaces _ _) ⟨_, List.mem_singleton_self _, rfl⟩

end Model

end HubRelay
