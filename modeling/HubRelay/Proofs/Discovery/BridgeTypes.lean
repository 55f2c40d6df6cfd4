import HubRelay.Generation
import HubRelay.Proofs.Discovery.Contracts
import HubRelay.Proofs.Document.Headers

/-!
# Bridge types of different declarations

A snapshot tells declarations apart by namespace, name and number of type parameters, so no two of them
declare the same type (`TypeDecl.ownType`). The part of a hub in the document is to be the other half of
the class that its declaration declares, and the bridge type of the hub says which class that is. It
leaves out the type parameters (`Model.bridgeType_of_hub?`). So it is the declared type only where there
are none, and the part of `Chat.ChatHub<T>` comes out as one more half of `Chat.ChatHub`.

The main statement says when this happens (`Model.bridgeType_and_header_eq_iff`): the bridge types of
two declarations are the same just when the declarations share namespace and name, and their parts of
the document begin with the same lines just when namespaces and names are written alike. A namespace is
written without `global::` before it, and carriage returns are not written.
-/

set_option autoImplicit false

namespace HubRelay

open Document (namespaceLines classLines partLines writtenNamespace)

/-- The type that a declaration declares. Its type parameters are the arguments. -/
def TypeDecl.ownType (d : TypeDecl) : TypeRef :=
  ⟨d.container, d.name, d.typeParameters.map (TypeRef.plain "")⟩

namespace Model

/-- Two declarations of a snapshot that discovery turns into hubs. -/
structure AddTwoHubs (m : Model) (settings : Settings) (d e : TypeDecl) (h k : Hub) : Prop where
  first_mem : d ∈ m.candidates
  second_mem : e ∈ m.candidates
  ne : d ≠ e
  first : m.host.hub? settings d = some h
  second : m.host.hub? settings e = some k

variable {m : Model} {settings : Settings} {d e : TypeDecl} {h k : Hub}

/-- The bridge type of a hub is the full name of the declaration that adds it, without its type
parameters. -/
theorem bridgeType_of_hub? (hd : d ∈ m.candidates) (hhub : m.host.hub? settings d = some h) :
    h.bridgeType = .plain d.container d.name := by
  obtain ⟨assembly, hsymbol⟩ := exists_declaredSymbol_eq hd
  obtain ⟨-, hextract⟩ := Host.hub?_eq_some_iff.mp hhub
  obtain ⟨s, client, server, hs, -, hparts⟩ := Host.extract_eq_ok_some_iff.mp hextract
  obtain rfl := Option.some.inj (hsymbol.symm.trans hs)
  obtain ⟨hbridge, -⟩ := Host.extractHub_eq_ok_iff.mp hparts
  exact (typeRef_host_eq_ok_iff.mp hbridge).1.symm.trans (Symbol.reference_declared assembly d [])

/-- The bridge type of a hub is the declared type just when that has no type parameters. -/
theorem bridgeType_eq_ownType_iff (hd : d ∈ m.candidates) (hhub : m.host.hub? settings d = some h) :
    h.bridgeType = d.ownType ↔ d.typeParameters = [] := by
  rw [bridgeType_of_hub? hd hhub, TypeDecl.ownType, TypeRef.plain, TypeRef.mk.injEq]
  constructor
  · rintro ⟨-, -, hnone⟩
    exact List.map_eq_nil_iff.mp hnone.symm
  · intro hnone
    rw [hnone]
    exact ⟨rfl, rfl, rfl⟩

/-- Different declarations declare different types. -/
theorem ownType_injOn {d e : TypeDecl} (hd : d ∈ m.candidates) (he : e ∈ m.candidates)
    (h : d.ownType = e.ownType) : d = e := by
  obtain ⟨hcontainer, hname, harguments⟩ := TypeRef.mk.inj h
  have harity := congrArg List.length harguments
  rw [List.length_map, List.length_map] at harity
  refine eq_of_key_eq hd he ?_
  rw [TypeDecl.key, TypeDecl.key, hcontainer, hname, TypeDecl.arity, TypeDecl.arity, harity]

namespace AddTwoHubs

variable (hubs : m.AddTwoHubs settings d e h k)
include hubs

theorem bridgeType_eq_iff :
    h.bridgeType = k.bridgeType ↔ d.container = e.container ∧ d.name = e.name := by
  rw [bridgeType_of_hub? hubs.first_mem hubs.first, bridgeType_of_hub? hubs.second_mem hubs.second]
  simp [TypeRef.plain]

/-- Declarations with the same bridge type have different numbers of type parameters. -/
theorem arity_ne (hbridge : h.bridgeType = k.bridgeType) : d.arity ≠ e.arity := by
  obtain ⟨hcontainer, hname⟩ := hubs.bridgeType_eq_iff.mp hbridge
  intro harity
  refine hubs.ne (eq_of_key_eq hubs.first_mem hubs.second_mem ?_)
  rw [TypeDecl.key, TypeDecl.key, hcontainer, hname, harity]

/-- The parts of two hubs begin with the same lines just when the namespaces and the names of their
declarations are written alike. -/
theorem header_eq_iff :
    namespaceLines settings h = namespaceLines settings k ∧
        classLines settings h = classLines settings k ↔
      writtenNamespace d.container = writtenNamespace e.container ∧
        Text.written d.name = Text.written e.name := by
  rw [Document.header_eq_iff, bridgeType_of_hub? hubs.first_mem hubs.first,
    bridgeType_of_hub? hubs.second_mem hubs.second]
  rfl

end AddTwoHubs

/-- A snapshot is generated into the document of the hubs that its declarations add, in which the part
of each hub begins with its namespace and the first line of its class.

The bridge type of a hub is the type that its declaration declares just when that has no type
parameters. Different declarations declare different types. Their hubs have the same bridge type just
when they share namespace and name, and then they differ in the number of their type parameters. The
parts of their hubs begin with the same lines just when namespaces and names are written alike. -/
theorem bridgeType_and_header_eq_iff (m : Model) (settings : Settings) :
    ∃ discovery, m.generate settings =
        .ok (discovery, Document.ofHubs discovery.hubs settings) ∧
      discovery.hubs = m.candidates.filterMap (m.host.hub? settings) ∧
      Text.afterLines 2 (Document.ofHubs discovery.hubs settings).text =
        String.join ((discovery.hubs.flatMap fun hub ↦ "" :: partLines settings hub).map
          (· ++ settings.newline.text)) ∧
      (∀ hub ∈ discovery.hubs,
        namespaceLines settings hub ++ classLines settings hub <+: partLines settings hub) ∧
      (∀ d ∈ m.candidates, ∀ h, m.host.hub? settings d = some h →
        (h.bridgeType = d.ownType ↔ d.typeParameters = [])) ∧
      ∀ d e h k, m.AddTwoHubs settings d e h k → d.ownType ≠ e.ownType ∧
        (h.bridgeType = k.bridgeType ↔ d.container = e.container ∧ d.name = e.name) ∧
        (h.bridgeType = k.bridgeType → d.arity ≠ e.arity) ∧
        (namespaceLines settings h = namespaceLines settings k ∧
            classLines settings h = classLines settings k ↔
          writtenNamespace d.container = writtenNamespace e.container ∧
            Text.written d.name = Text.written e.name) := by
  refine ⟨_, by rw [generate, m.discover_eq settings]; rfl, rfl,
    Document.afterLines_text_eq_partLines settings _,
    fun hub _ ↦ Document.openingLines_prefix_partLines settings hub,
    fun d hd h hhub ↦ bridgeType_eq_ownType_iff hd hhub, ?_⟩
  intro d e h k hubs
  have hne : d.ownType ≠ e.ownType := fun hsame ↦
    hubs.ne (ownType_injOn hubs.first_mem hubs.second_mem hsame)
  exact ⟨hne, hubs.bridgeType_eq_iff, hubs.arity_ne, hubs.header_eq_iff⟩

end Model

/-! ### Hubs that are not told apart -/

namespace LikeNamedHubs

open Model

/-- The hub base `Hub<T>`. -/
def base : TypeDecl := ⟨.classType, "", "Hub", ["T"], [], [], []⟩

/-- A class that extends `Hub<IClient>` and implements `IServer`. -/
def hub (container name : String) (typeParameters : List String) : TypeDecl :=
  ⟨.classType, container, name, typeParameters, [],
    [.generic "Hub" [.simple "IClient"], .simple "IServer"], []⟩

/-- The class `Chat.ChatHub`, one with a type parameter, one with `global::` before its namespace, and
one with a carriage return in its name. -/
def hubs : List TypeDecl :=
  [hub "Chat" "ChatHub" [], hub "Chat" "ChatHub" ["T"], hub "global::Chat" "ChatHub" [],
    hub "Chat" "ChatHub\r" []]

def snapshot : Snapshot := ⟨[⟨"Core", [base]⟩, ⟨"App", hubs⟩]⟩

def settings : Settings := { hubAssembly := "Core" }

/-- The hub that a class adds. -/
def found (d : TypeDecl) : Hub :=
  ⟨.plain d.container d.name, ⟨.plain "" "IClient", []⟩, ⟨.plain "" "IServer", []⟩⟩

/-- Each of the classes adds its hub. -/
theorem exists_hub?_eq : ∃ m, ofSnapshot snapshot = .ok m ∧
    ∀ d ∈ hubs, d ∈ m.candidates ∧ m.host.hub? settings d = some (found d) := by
  obtain ⟨m, hm, hsnapshot⟩ := exists_ofSnapshot_eq_ok (s := snapshot) (by decide +kernel)
  have hlookup := lookup_eq_of_snapshot_eq hsnapshot
  -- Of the names in a base list the snapshot declares the base alone, and no class hides it.
  have hclient : ∀ d ∈ hubs, m.resolve d (.simple "IClient") = .external "" "IClient" [] := by
    unfold resolve resolveName resolvePath
    rw [hlookup]
    simp only [hubs, List.forall_mem_cons]
    exact ⟨rfl, rfl, rfl, rfl, nofun⟩
  have hserver : ∀ d ∈ hubs, m.resolve d (.simple "IServer") = .external "" "IServer" [] := by
    unfold resolve resolveName resolvePath
    rw [hlookup]
    simp only [hubs, List.forall_mem_cons]
    exact ⟨rfl, rfl, rfl, rfl, nofun⟩
  have hname : ∀ d ∈ hubs, m.resolveName d (.generic "Hub" [.simple "IClient"])
      [.external "" "IClient" []] = .declared "Core" base [.external "" "IClient" []] := by
    unfold resolveName resolvePath
    rw [hlookup]
    simp only [hubs, List.forall_mem_cons]
    exact ⟨rfl, rfl, rfl, rfl, nofun⟩
  have hbases : ∀ d ∈ hubs, d.kind = .classType ∧
      d.baseList = [.generic "Hub" [.simple "IClient"], .simple "IServer"] := by decide
  refine ⟨m, hm, fun d hd ↦ ?_⟩
  have hmem : d ∈ m.candidates := by
    rw [candidates, hsnapshot]
    exact List.mem_cons_of_mem _ hd
  have hbase : m.resolve d (.generic "Hub" [.simple "IClient"]) =
      .declared "Core" base [.external "" "IClient" []] := by
    rw [resolve, resolveAll, resolveAll, hclient d hd, hname d hd]
  have hhub : IsHub m settings d (.generic "Hub" [.simple "IClient"]) (.simple "IServer")
      (.simple "IClient") :=
    ⟨(hbases d hd).1, (hbases d hd).2, rfl, ⟨base, _, hbase, rfl, by decide⟩,
      by rw [hclient d hd]; rfl, by rw [hserver d hd]; decide⟩
  exact ⟨hmem, (hub?_eq_some_iff_of_isHub hmem hhub).mpr
    ⟨rfl, by rw [hclient d hd]; rfl, by rw [hserver d hd]; rfl⟩⟩

/-- Any two of the classes are turned into hubs. -/
theorem exists_addTwoHubs : ∃ m, ofSnapshot snapshot = .ok m ∧ ∀ d ∈ hubs, ∀ e ∈ hubs, d ≠ e →
    m.AddTwoHubs settings d e (found d) (found e) := by
  obtain ⟨m, hm, hfound⟩ := exists_hub?_eq
  refine ⟨m, hm, fun d hd e he hne ↦ ?_⟩
  exact ⟨(hfound d hd).1, (hfound e he).1, hne, (hfound d hd).2, (hfound e he).2⟩

end LikeNamedHubs

namespace Model

open LikeNamedHubs in
/-- `Chat.ChatHub<T>` is turned into a hub whose bridge type is not that class but `Chat.ChatHub`, which
is turned into a hub too. The parts of both hubs begin with the same lines. -/
theorem bridgeType_and_header_eq_iff_chatHub : ∃ m discovery,
    ofSnapshot LikeNamedHubs.snapshot = .ok m ∧
    m.generate settings = .ok (discovery, Document.ofHubs discovery.hubs settings) ∧
    (∀ d ∈ hubs, found d ∈ discovery.hubs) ∧
    (found (hub "Chat" "ChatHub" ["T"])).bridgeType ≠ (hub "Chat" "ChatHub" ["T"]).ownType ∧
    (hub "Chat" "ChatHub" []).ownType ≠ (hub "Chat" "ChatHub" ["T"]).ownType ∧
    (found (hub "Chat" "ChatHub" [])).bridgeType = (found (hub "Chat" "ChatHub" ["T"])).bridgeType ∧
    (hub "Chat" "ChatHub" []).arity ≠ (hub "Chat" "ChatHub" ["T"]).arity ∧
    namespaceLines settings (found (hub "Chat" "ChatHub" [])) =
      namespaceLines settings (found (hub "Chat" "ChatHub" ["T"])) ∧
    classLines settings (found (hub "Chat" "ChatHub" [])) =
      classLines settings (found (hub "Chat" "ChatHub" ["T"])) := by
  obtain ⟨m, hm, hfound⟩ := exists_hub?_eq
  obtain ⟨discovery, hgenerate, hhubs, -, -, hown, htwo⟩ := bridgeType_and_header_eq_iff m settings
  have hplain : hub "Chat" "ChatHub" [] ∈ hubs := by decide
  have hgeneric : hub "Chat" "ChatHub" ["T"] ∈ hubs := by decide
  obtain ⟨hmemPlain, haddsPlain⟩ := hfound _ hplain
  obtain ⟨hmemGeneric, haddsGeneric⟩ := hfound _ hgeneric
  obtain ⟨hne, hbridge, harity, hheader⟩ :=
    htwo _ _ _ _ ⟨hmemPlain, hmemGeneric, by decide, haddsPlain, haddsGeneric⟩
  have hsame := hbridge.mpr ⟨rfl, rfl⟩
  obtain ⟨hnamespace, hclass⟩ := hheader.mpr ⟨rfl, rfl⟩
  refine ⟨m, discovery, hm, hgenerate, fun d hd ↦ ?_, ?_, hne, hsame, harity hsame, hnamespace, hclass⟩
  · rw [hhubs]
    exact List.mem_filterMap.mpr ⟨d, (hfound d hd).1, (hfound d hd).2⟩
  · rw [ne_eq, hown _ hmemGeneric _ haddsGeneric]
    exact List.cons_ne_nil _ _

open LikeNamedHubs in
/-- Hubs of different declarations can have the same bridge type: those of `Chat.ChatHub` and
`Chat.ChatHub<T>`. Hubs with different bridge types can begin with the same lines: those of
`Chat.ChatHub` and `global::Chat.ChatHub`, and those of two classes in the same namespace that differ in
a carriage return. -/
theorem not_forall_bridgeType_and_header_ne :
    (¬ ∀ (m : Model) (settings : Settings) d e h k, m.AddTwoHubs settings d e h k →
      h.bridgeType ≠ k.bridgeType) ∧
    (¬ ∀ (m : Model) (settings : Settings) d e h k, m.AddTwoHubs settings d e h k →
      h.bridgeType ≠ k.bridgeType → (namespaceLines settings h, classLines settings h) ≠
        (namespaceLines settings k, classLines settings k)) ∧
    ¬ ∀ (m : Model) (settings : Settings) d e h k, m.AddTwoHubs settings d e h k →
      h.bridgeType ≠ k.bridgeType → h.bridgeType.container = k.bridgeType.container →
        (namespaceLines settings h, classLines settings h) ≠
          (namespaceLines settings k, classLines settings k) := by
  obtain ⟨m, -, hfound⟩ := exists_addTwoHubs
  have hchat : hub "Chat" "ChatHub" [] ∈ hubs := List.mem_cons_self
  refine ⟨fun h ↦ ?_, fun h ↦ ?_, fun h ↦ ?_⟩
  · have htwo := hfound _ hchat (hub "Chat" "ChatHub" ["T"]) (by decide) (by decide)
    exact h m settings _ _ _ _ htwo rfl
  · have htwo := hfound _ hchat (hub "global::Chat" "ChatHub" []) (by decide) (by decide)
    obtain ⟨hnamespace, hclass⟩ := htwo.header_eq_iff.mpr ⟨by decide, rfl⟩
    exact h m settings _ _ _ _ htwo (by decide) (Prod.ext hnamespace hclass)
  · have htwo := hfound _ hchat (hub "Chat" "ChatHub\r" []) (by decide) (by decide)
    obtain ⟨hnamespace, hclass⟩ := htwo.header_eq_iff.mpr ⟨rfl, by decide⟩
    exact h m settings _ _ _ _ htwo (by decide) rfl (Prod.ext hnamespace hclass)

end Model

end HubRelay
