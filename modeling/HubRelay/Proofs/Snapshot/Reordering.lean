import HubRelay.Proofs.Discovery.Candidates
import HubRelay.Proofs.Snapshot.Lookup

/-!
# The order of declarations

Which declaration a model finds by a key does not depend on the order in which the snapshot lists its
assemblies, and the types in each of them: no two declarations have the same key
(`Model.lookup_eq_of_perm`). All that a model answers to a discovery is made from what it finds
(`Model.host_eq_of_lookup_eq`). So a snapshot in another order is the same host, and its hubs are the
same hubs, in the order of their declarations (`Model.extract_eq_of_isReordered`).
-/

set_option autoImplicit false

namespace HubRelay

/-! ### Snapshots in another order -/

/-- The second assembly has the types of the first in some order. -/
structure AssemblyDecl.IsReordered (first second : AssemblyDecl) : Prop where
  name : first.name = second.name
  types : first.types.Perm second.types

/-- The second snapshot has the assemblies of the first in some order, and in each of them its types
in some order. -/
def Snapshot.IsReordered (first second : Snapshot) : Prop :=
  ∃ assemblies, first.assemblies.Perm assemblies ∧
    List.Forall₂ AssemblyDecl.IsReordered assemblies second.assemblies

namespace Snapshot

/-- A snapshot in another order has the same declarations in the same assemblies. -/
theorem IsReordered.perm_declarations {first second : Snapshot} (h : first.IsReordered second) :
    first.declarations.Perm second.declarations := by
  obtain ⟨assemblies, hperm, hall⟩ := h
  obtain ⟨others⟩ := second
  refine (hperm.flatMap_right _).trans ?_
  show (List.flatMap _ assemblies).Perm (List.flatMap _ others)
  change List.Forall₂ _ assemblies others at hall
  clear hperm
  induction hall with
  | nil => exact .refl []
  | @cons a b rest more hab _ ih =>
    rw [List.flatMap_cons, List.flatMap_cons, hab.name]
    exact (hab.types.map _).append ih

theorem IsReordered.perm_types {first second : Snapshot} (h : first.IsReordered second) :
    first.types.Perm second.types := by
  rw [← map_snd_declarations, ← map_snd_declarations]
  exact h.perm_declarations.map _

/-- What is accepted is accepted in another order. -/
theorem Accepted.of_isReordered {first second : Snapshot} (haccepted : first.Accepted)
    (h : first.IsReordered second) : second.Accepted where
  namespaces d hd := haccepted.namespaces d (h.perm_types.mem_iff.mpr hd)
  keys := (h.perm_types.map _).nodup_iff.mp haccepted.keys

end Snapshot

namespace Model

variable {m m' : Model}

/-- Models of the same declarations find the same. -/
theorem lookup_eq_of_perm (h : m.snapshot.declarations.Perm m'.snapshot.declarations) :
    m.lookup = m'.lookup := by
  funext container name arity
  refine Option.ext fun ⟨assembly, d⟩ ↦ ?_
  rw [lookup_eq_some_iff, lookup_eq_some_iff, h.mem_iff]

/-! ### What is made from look-ups -/

theorem named_eq_of_lookup_eq (h : m.lookup = m'.lookup) (container name : String)
    (arguments : List Symbol) :
    m.named container name arguments = m'.named container name arguments := by
  unfold named
  rw [h]

theorem resolveName_eq_of_lookup_eq (h : m.lookup = m'.lookup) (scope : TypeDecl) (t : TypeExpr)
    (arguments : List Symbol) :
    m.resolveName scope t arguments = m'.resolveName scope t arguments := by
  unfold resolveName resolvePath
  rw [h]
  split
  · rfl
  · exact named_eq_of_lookup_eq h _ _ _

mutual

/-- Models that find the same resolve each type to the same symbol. -/
theorem resolve_eq_of_lookup_eq (h : m.lookup = m'.lookup) (scope : TypeDecl) :
    ∀ t : TypeExpr, m.resolve scope t = m'.resolve scope t
  | .keyword word => by
    rw [resolve, resolve, named_eq_of_lookup_eq h]
  | .array element rank => by
    rw [resolve, resolve, resolve_eq_of_lookup_eq h scope element]
  | .nullable inner => by
    rw [resolve, resolve, resolve_eq_of_lookup_eq h scope inner, named_eq_of_lookup_eq h]
  | .simple identifier => by
    rw [resolve, resolve, resolveName_eq_of_lookup_eq h]
  | .generic identifier arguments => by
    rw [resolve, resolve, resolveAll_eq_of_lookup_eq h scope arguments,
      resolveName_eq_of_lookup_eq h]
  | .qualified left right => by
    rw [resolve, resolve, resolveArguments_eq_of_lookup_eq h scope right,
      resolveName_eq_of_lookup_eq h]
  | .aliased label name => by
    rw [resolve, resolve, resolveArguments_eq_of_lookup_eq h scope name,
      resolveName_eq_of_lookup_eq h]

theorem resolveArguments_eq_of_lookup_eq (h : m.lookup = m'.lookup) (scope : TypeDecl) :
    ∀ t : TypeExpr, m.resolveArguments scope t = m'.resolveArguments scope t
  | .generic _ arguments => by
    rw [resolveArguments, resolveArguments, resolveAll_eq_of_lookup_eq h scope arguments]
  | .keyword _ | .array _ _ | .nullable _ | .simple _ | .qualified _ _ | .aliased _ _ => by
    simp only [resolveArguments]

theorem resolveAll_eq_of_lookup_eq (h : m.lookup = m'.lookup) (scope : TypeDecl) :
    ∀ ts : List TypeExpr, m.resolveAll scope ts = m'.resolveAll scope ts
  | [] => by rw [resolveAll, resolveAll]
  | first :: rest => by
    rw [resolveAll, resolveAll, resolve_eq_of_lookup_eq h scope first,
      resolveAll_eq_of_lookup_eq h scope rest]

end

/-- Models that find the same are the same host. -/
theorem host_eq_of_lookup_eq (h : m.lookup = m'.lookup) : m.host = m'.host := by
  have hresolve : m.resolve = m'.resolve :=
    funext fun scope ↦ funext fun t ↦ resolve_eq_of_lookup_eq h scope t
  have hsymbol : m.declaredSymbol = m'.declaredSymbol := by
    funext d
    rw [declaredSymbol, declaredSymbol, h]
  have hbases : m.bases = m'.bases := by
    funext s
    rw [bases, bases, hresolve]
  have hbaseType : m.baseType = m'.baseType := by
    funext s
    rw [baseType, baseType, hbases]
  have hinterfaces : m.interfaces = m'.interfaces := by
    funext s
    rw [interfaces, interfaces, hbases, hbaseType]
  have hmembers : m.members = m'.members := by
    have hmember : m.memberSymbol = m'.memberSymbol := by
      funext scope member
      cases member <;> simp only [memberSymbol, hresolve]
    funext s
    rw [members, members, hmember]
  rw [host, host, hsymbol, hbaseType, hinterfaces, hmembers]

/-! ### Discovery -/

/-- Assumes: an accepted snapshot, and one with the same assemblies and types in another order. It is
accepted as well. From each declaration the same is extracted, a hub or nothing or an error, so the
hubs are the same as well, each where its declaration now stands. -/
theorem extract_eq_of_isReordered {first second : Snapshot} (hm : ofSnapshot first = .ok m)
    (h : first.IsReordered second) :
    ∃ m', ofSnapshot second = .ok m' ∧ m.candidates.Perm m'.candidates ∧ ∀ settings,
      (∀ d, m'.host.extract settings d = m.host.extract settings d) ∧
      m'.discover settings =
        .ok ⟨m.host.hubs settings m'.candidates, m.host.failuresFrom settings 0 m'.candidates⟩ ∧
      (m.host.hubs settings m.candidates).Perm (m.host.hubs settings m'.candidates) := by
  obtain rfl := ofSnapshot_eq_ok_iff.mp hm
  have hreordered := m.accepted.of_isReordered h
  obtain ⟨m', hm', hsnapshot⟩ := exists_ofSnapshot_eq_ok (s := second)
    (checkAll_eq_ok_iff.mpr
      ⟨hreordered.namespaces, hreordered.keys, fun _ _ ↦ List.not_mem_nil⟩)
  subst hsnapshot
  have hhost : m.host = m'.host := host_eq_of_lookup_eq (lookup_eq_of_perm h.perm_declarations)
  refine ⟨m', hm', h.perm_types, fun settings ↦ ⟨fun d ↦ by rw [hhost], ?_, ?_⟩⟩
  · rw [hhost, discover_eq]
  · exact h.perm_types.filterMap _

/-- Two assemblies that change places, one of them with two hub classes that change places. -/
theorem extract_eq_of_isReordered_swapped :
    let base : TypeDecl := ⟨.classType, "SignalR", "Hub", ["T"], [], [], []⟩
    let hub (name : String) : TypeDecl := ⟨.classType, "Chat", name, [], ["SignalR"],
      [.generic "Hub" [.simple "IClient"], .simple "IServer"], []⟩
    let first : Snapshot := ⟨[⟨"Core", [base]⟩, ⟨"Chat", [hub "ChatHub", hub "MailHub"]⟩]⟩
    let second : Snapshot := ⟨[⟨"Chat", [hub "MailHub", hub "ChatHub"]⟩, ⟨"Core", [base]⟩]⟩
    ∃ m, ofSnapshot first = .ok m ∧ first.IsReordered second ∧
      ∃ m', ofSnapshot second = .ok m' ∧ m.candidates.Perm m'.candidates ∧ ∀ settings,
        (∀ d, m'.host.extract settings d = m.host.extract settings d) ∧
        m'.discover settings =
          .ok ⟨m.host.hubs settings m'.candidates, m.host.failuresFrom settings 0 m'.candidates⟩ ∧
        (m.host.hubs settings m.candidates).Perm (m.host.hubs settings m'.candidates) := by
  intro base hub first second
  obtain ⟨m, hm, -⟩ := exists_ofSnapshot_eq_ok (s := first) (by decide +kernel)
  have h : first.IsReordered second :=
    ⟨[⟨"Chat", [hub "ChatHub", hub "MailHub"]⟩, ⟨"Core", [base]⟩], .swap _ _ _,
      .cons ⟨rfl, .swap _ _ _⟩ (.cons ⟨rfl, .refl _⟩ .nil)⟩
  exact ⟨m, hm, h, extract_eq_of_isReordered hm h⟩

end Model

end HubRelay
