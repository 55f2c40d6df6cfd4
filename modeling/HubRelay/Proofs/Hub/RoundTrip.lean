import HubRelay.Hub.Json
import HubRelay.Proofs.Discovery.Candidates
import HubRelay.Proofs.Discovery.Extraction
import HubRelay.Proofs.TypeRef.RoundTrip

/-!
# Hubs read back

The records in a list of hubs take levels of nesting before the references in them begin: one for a
record, and one more for a list that it holds. A record `Fits` into a number of levels when each
reference in it finds the levels that it takes. That is what reading back depends on, and nothing else:
a record that fits is read back from what it is written as (`Hub.decodes`).

Records get to fit in two ways. What has been read fits, since the reader has entered these levels
(`Hub.fits_of_produces`). And what is discovered fits, since the references of discovered hubs nest
ten deep at most and the reader may enter many more levels (`Host.fits_of_result_discover`).
-/

set_option autoImplicit false

namespace HubRelay

/-! ### Records that fit -/

/-- The type of the parameter fits into the levels inside its record. -/
def Parameter.Fits (levels : Nat) (p : Parameter) : Prop := 2 * p.type.depth < levels - 1

/-- The types of the method and its parameters fit into the levels inside its record. -/
structure Method.Fits (levels : Nat) (m : Method) : Prop where
  returnType : 2 * m.returnType.depth < levels - 1
  declaringType : 2 * m.declaringType.depth < levels - 1
  parameters : ∀ p ∈ m.parameters, p.Fits (levels - 2)

/-- The type of the contract and its methods fit into the levels inside its record. -/
structure Contract.Fits (levels : Nat) (c : Contract) : Prop where
  type : 2 * c.type.depth < levels - 1
  methods : ∀ m ∈ c.methods, m.Fits (levels - 2)

/-- The type of the hub and its contracts fit into the levels inside its record. -/
structure Hub.Fits (levels : Nat) (h : Hub) : Prop where
  bridgeType : 2 * h.bridgeType.depth < levels - 1
  client : h.client.Fits (levels - 1)
  server : h.server.Fits (levels - 1)

/-! ### What is read fits -/

/-- The value of a field without a default is produced by its reader. -/
theorem produces_of_field {α : Type} {name : String} {read : Json.Reader α} {value : α}
    (h : (⟨name, read, none⟩ : Json.Field α).Produces value) : Json.Produces read value :=
  h.resolve_right fun hdefault ↦ nomatch hdefault

theorem Parameter.fits_of_produces {levels : Nat} {p : Parameter}
    (h : Json.Produces (ofJson levels) p) : p.Fits levels := by
  obtain ⟨⟨name, type, ⟨⟩⟩, hvalues, h⟩ := h.of_bind
  obtain ⟨-, htype, -⟩ := hvalues.of_record
  rw [h.eq_of_pure]
  exact TypeRef.depth_lt_of_produces (produces_of_field htype)

theorem Method.fits_of_produces {levels : Nat} {m : Method}
    (h : Json.Produces (ofJson levels) m) : m.Fits levels := by
  obtain ⟨⟨name, returnType, declaringType, parameters, ⟨⟩⟩, hvalues, h⟩ := h.of_bind
  obtain ⟨-, hreturns, hdeclaring, hparameters, -⟩ := hvalues.of_record
  rw [h.eq_of_pure]
  refine ⟨TypeRef.depth_lt_of_produces (produces_of_field hreturns),
    TypeRef.depth_lt_of_produces (produces_of_field hdeclaring), fun p hp ↦ ?_⟩
  exact Parameter.fits_of_produces ((produces_of_field hparameters).of_list p hp)

theorem Contract.fits_of_produces {levels : Nat} {c : Contract}
    (h : Json.Produces (ofJson levels) c) : c.Fits levels := by
  obtain ⟨⟨type, methods, ⟨⟩⟩, hvalues, h⟩ := h.of_bind
  obtain ⟨htype, hmethods, -⟩ := hvalues.of_record
  rw [h.eq_of_pure]
  refine ⟨TypeRef.depth_lt_of_produces (produces_of_field htype), fun m hm ↦ ?_⟩
  exact Method.fits_of_produces ((produces_of_field hmethods).of_list m hm)

/-- A hub that is read fits into the levels of its reader. -/
theorem Hub.fits_of_produces {levels : Nat} {hub : Hub} (h : Json.Produces (ofJson levels) hub) :
    hub.Fits levels := by
  obtain ⟨⟨bridgeType, client, server, ⟨⟩⟩, hvalues, h⟩ := h.of_bind
  obtain ⟨hbridge, hclient, hserver, -⟩ := hvalues.of_record
  rw [h.eq_of_pure]
  exact ⟨TypeRef.depth_lt_of_produces (produces_of_field hbridge),
    Contract.fits_of_produces (produces_of_field hclient),
    Contract.fits_of_produces (produces_of_field hserver)⟩

/-! ### What fits is read back -/

theorem Parameter.decodes {levels : Nat} {p : Parameter} (h : p.Fits levels) :
    Json.Decodes (ofJson levels) p.toJson p := by
  have hnames : ["name", "type"].Nodup := by decide
  unfold Fits at h
  refine .bind (p.name, p.type, ()) (Json.decodes_record ?_ ?_ ?_) rfl
  · exact hnames
  · omega
  · exact ⟨_, _, rfl, Json.decodes_string p.name, _, _, rfl, TypeRef.decodes h, rfl⟩

theorem Method.decodes {levels : Nat} {m : Method} (h : m.Fits levels) :
    Json.Decodes (ofJson levels) m.toJson m := by
  have hnames : ["name", "return_type", "declaring_type", "parameters"].Nodup := by decide
  have hreturns := h.returnType
  have hparameters := Json.forall₂_map_decodes fun p hp ↦ Parameter.decodes (h.parameters p hp)
  refine .bind (m.name, m.returnType, m.declaringType, m.parameters, ())
    (Json.decodes_record ?_ ?_ ?_) rfl
  · exact hnames
  · omega
  · refine ⟨_, _, rfl, Json.decodes_string m.name, _, _, rfl, TypeRef.decodes hreturns, ?_⟩
    refine ⟨_, _, rfl, TypeRef.decodes h.declaringType, ?_⟩
    exact ⟨_, _, rfl, Json.decodes_list (by omega) hparameters, rfl⟩

theorem Contract.decodes {levels : Nat} {c : Contract} (h : c.Fits levels) :
    Json.Decodes (ofJson levels) c.toJson c := by
  have hnames : ["type", "methods"].Nodup := by decide
  have htype := h.type
  have hmethods := Json.forall₂_map_decodes fun m hm ↦ Method.decodes (h.methods m hm)
  refine .bind (c.type, c.methods, ()) (Json.decodes_record ?_ ?_ ?_) rfl
  · exact hnames
  · omega
  · refine ⟨_, _, rfl, TypeRef.decodes htype, ?_⟩
    exact ⟨_, _, rfl, Json.decodes_list (by omega) hmethods, rfl⟩

/-- A hub that fits is read back from what it is written as. -/
theorem Hub.decodes {levels : Nat} {hub : Hub} (h : hub.Fits levels) :
    Json.Decodes (ofJson levels) hub.toJson hub := by
  have hnames : ["bridge_type", "client", "server"].Nodup := by decide
  have hbridge := h.bridgeType
  refine .bind (hub.bridgeType, hub.client, hub.server, ()) (Json.decodes_record ?_ ?_ ?_) rfl
  · exact hnames
  · omega
  · refine ⟨_, _, rfl, TypeRef.decodes hbridge, ?_⟩
    refine ⟨_, _, rfl, Contract.decodes h.client, ?_⟩
    exact ⟨_, _, rfl, Contract.decodes h.server, rfl⟩

/-- A list of hubs that fit is read back from what it is written as. -/
theorem Hub.decodes_list {levels : Nat} (hlevels : 0 < levels) {hubs : List Hub}
    (h : ∀ hub ∈ hubs, hub.Fits (levels - 1)) :
    Json.Decodes (listOfJson levels) (listToJson hubs) hubs :=
  Json.decodes_list hlevels (Json.forall₂_map_decodes fun hub hhub ↦ Hub.decodes (h hub hhub))

/-! ### What is discovered fits -/

namespace Host

variable {ν σ : Type} {host : Host ν σ} {settings : Settings} {levels : Nat}

/-- The references of symbols nest no deeper than the limit of discovery. -/
theorem depth_le_of_typeRef {s : σ} {r : TypeRef} (h : host.typeRef s = .ok r) :
    r.depth ≤ TypeView.maxArgumentDepth :=
  (TypeView.typeRef_eq_ok_iff.mp h).2

theorem fits_of_extractParameter (hlevels : 2 * TypeView.maxArgumentDepth + 2 ≤ levels)
    {s : ParameterSymbol σ} {p : Parameter} (h : host.extractParameter s = .ok p) :
    p.Fits levels := by
  obtain ⟨type, htype, h⟩ := bind_eq_ok_iff.mp h
  obtain rfl := Except.ok.inj h
  have hdepth := depth_le_of_typeRef htype
  show 2 * type.depth < levels - 1
  omega

theorem fits_of_extractMethod (hlevels : 2 * TypeView.maxArgumentDepth + 4 ≤ levels)
    {declaringType : TypeRef} (hdeclaring : declaringType.depth ≤ TypeView.maxArgumentDepth)
    {s : MethodSymbol σ} {m : Method} (h : host.extractMethod declaringType s = .ok m) :
    m.Fits levels := by
  obtain ⟨parameters, hparameters, h⟩ := bind_eq_ok_iff.mp h
  obtain ⟨returnType, hreturns, h⟩ := bind_eq_ok_iff.mp h
  obtain rfl := Except.ok.inj h
  have hdepth := depth_le_of_typeRef hreturns
  have hinside : 2 * TypeView.maxArgumentDepth + 2 ≤ levels - 2 := by omega
  refine ⟨?_, ?_, forall_mem_of_mapM_eq_ok (fun _ _ ↦ fits_of_extractParameter hinside) hparameters⟩
  · show 2 * returnType.depth < levels - 1
    omega
  · show 2 * declaringType.depth < levels - 1
    omega

theorem fits_of_extractContract (hlevels : 2 * TypeView.maxArgumentDepth + 6 ≤ levels) {s : σ}
    {c : Contract} (h : (host.extractContract s).result = .ok c) : c.Fits levels := by
  obtain ⟨htype, hmethods⟩ := extractContract_eq_ok_iff.mp h
  have hdepth := depth_le_of_typeRef htype
  have hinside : 2 * TypeView.maxArgumentDepth + 4 ≤ levels - 2 := by omega
  refine ⟨?_, forall_mem_of_mapM_eq_ok (fun _ _ ↦ fits_of_extractMethod hinside hdepth) hmethods⟩
  omega

theorem fits_of_extractHub (hlevels : 2 * TypeView.maxArgumentDepth + 7 ≤ levels)
    {s client server : σ} {hub : Hub} (h : (host.extractHub s client server).result = .ok hub) :
    hub.Fits levels := by
  obtain ⟨hbridge, hclient, hserver⟩ := extractHub_eq_ok_iff.mp h
  have hdepth := depth_le_of_typeRef hbridge
  exact ⟨by omega, fits_of_extractContract (by omega) hclient,
    fits_of_extractContract (by omega) hserver⟩

/-- The hubs of a discovery fit, whichever candidates there are. -/
theorem fits_of_result_discover (hlevels : 2 * TypeView.maxArgumentDepth + 7 ≤ levels)
    {cancelAt : Option Nat} {nodes : List ν} {discovery : Discovery}
    (h : (host.discover settings cancelAt nodes).result = .ok discovery) :
    ∀ hub ∈ discovery.hubs, hub.Fits levels := by
  have hresult := (host.result_discover settings cancelAt nodes).1
  rw [h] at hresult
  split at hresult
  · cases hresult
  · obtain rfl := Except.ok.inj hresult
    intro hub hhub
    obtain ⟨node, -, hadded⟩ := List.mem_filterMap.mp hhub
    obtain ⟨-, hextract⟩ := hub?_eq_some_iff.mp hadded
    obtain ⟨s, client, server, -, -, hextracted⟩ := extract_eq_ok_some_iff.mp hextract
    exact fits_of_extractHub hlevels hextracted

end Host

end HubRelay
