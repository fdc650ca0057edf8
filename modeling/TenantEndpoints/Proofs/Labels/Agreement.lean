import TenantEndpoints.Proofs.Labels.Scope
import TenantEndpoints.Proofs.Text.Pieces

/-!
# Labels and listings agree

Which listings an endpoint is in can be said without its labels: by the tenant it
belongs to, and by the protocol and the network of its backend or, where the backend
tells neither, those wished for. Wishes for labels that are not free to be wished
for count for nothing, and the labels of an endpoint are no further wish.
-/
namespace TenantEndpoints.Labels

/-- The labels that are set on an endpoint or taken over from its backend. -/
def managed : List String := [createdBy, userId, kind, protocol, network]

/-- A component is of the kind that it ends in, after a hyphen if there is one. -/
structure IsOfKind (component k : String) : Prop where
  ne_empty : k ≠ ""
  no_hyphen : '-' ∉ k.toList
  ends : component = k ∨ ∃ before, component = before ++ "-" ++ k

theorem ends_iff {component k : String} :
    (component = k ∨ ∃ before, component = before ++ "-" ++ k) ↔
      component.toList = k.toList ∨ ∃ before, component.toList = before ++ '-' :: k.toList := by
  refine or_congr String.toList_inj.symm ⟨?_, ?_⟩
  · rintro ⟨before, rfl⟩
    exact ⟨before.toList, by simp⟩
  · rintro ⟨before, h⟩
    exact ⟨String.ofList before, String.toList_inj.1 (by simp [h])⟩

theorem deriveKind?_eq_some_iff {component? : Option String} {k : String} :
    deriveKind? component? = some k ↔
      ∃ component, component? = some component ∧ IsOfKind component k := by
  cases component? with
  | none => simp [deriveKind?]
  | some component =>
    have hlast : deriveKind? (some component) = some k ↔
        k ≠ "" ∧ (Text.pieces '-' component.toList).getLast? = some k.toList := by
      simp only [deriveKind?, Option.bind_eq_bind, Option.bind_some, Option.bind_eq_some_iff]
      constructor
      · rintro ⟨last, hlast, hk⟩
        split at hk
        · cases hk
        · next hne =>
          cases hk
          rw [String.toList_ofList]
          exact ⟨fun he => hne (by simpa using congrArg String.toList he), hlast⟩
      · rintro ⟨hne, hlast⟩
        refine ⟨k.toList, hlast, ?_⟩
        rw [if_neg (by simpa using hne), String.ofList_toList]
    rw [hlast, Text.getLast?_pieces_eq_some_iff, ← ends_iff]
    constructor
    · rintro ⟨hne, hplain, hends⟩
      exact ⟨component, rfl, hne, hplain, hends⟩
    · rintro ⟨_, ⟨⟩, hne, hplain, hends⟩
      exact ⟨hne, hplain, hends⟩

theorem find?_ofEndpoint_kind_eq_some_iff {backend desired : Labels} {tenant k : String} :
    (ofEndpoint backend tenant desired).find? kind = some k ↔
      ∃ value, backend.find? component = some value ∧ IsOfKind value k := by
  rw [find?_ofEndpoint, if_pos rfl, deriveKind?_eq_some_iff]

theorem find?_ofEndpoint_of_mem_propagated (backend : Labels) (tenant : String) (desired : Labels)
    {key : String} (h : key ∈ propagated) :
    (ofEndpoint backend tenant desired).find? key = effective backend desired key := by
  have hset : ∀ key ∈ propagated, key ≠ kind ∧ key ≠ userId ∧ key ≠ createdBy := by decide
  obtain ⟨hkind, huser, hcreated⟩ := hset key h
  rw [find?_ofEndpoint, if_neg hkind, if_neg huser, if_neg hcreated, if_pos h]

theorem find?_ofEndpoint_of_not_mem_managed (backend : Labels) (tenant : String) (desired : Labels)
    {key : String} (h : key ∉ managed) :
    (ofEndpoint backend tenant desired).find? key = desired.find? key := by
  simp only [managed, List.mem_cons, List.not_mem_nil, or_false, not_or] at h
  obtain ⟨hcreated, huser, hkind, hprotocol, hnetwork⟩ := h
  have htaken : key ∉ propagated := by simp [propagated, hprotocol, hnetwork]
  rw [find?_ofEndpoint, if_neg hkind, if_neg huser, if_neg hcreated, if_neg htaken]

/-- The labels of an endpoint, wished for again, come out as they are: what is set is set without
regard to what is wished for. -/
theorem ofEndpoint_ofEndpoint (backend : Labels) (tenant : String) (desired : Labels) :
    ofEndpoint backend tenant (ofEndpoint backend tenant desired) =
      ofEndpoint backend tenant desired := by
  apply SortedMap.ext_find?
  intro key
  by_cases hmanaged : key ∈ managed
  · by_cases htaken : key ∈ propagated
    · rw [find?_ofEndpoint_of_mem_propagated _ _ _ htaken, effective,
        find?_ofEndpoint_of_mem_propagated _ _ _ htaken, effective]
      cases backend.find? key <;> rfl
    · have hset : ∀ key ∈ managed, key ∉ propagated →
          key = kind ∨ key = userId ∨ key = createdBy := by decide
      rw [find?_ofEndpoint, find?_ofEndpoint]
      rcases hset key hmanaged htaken with rfl | rfl | rfl <;> rfl
  · exact find?_ofEndpoint_of_not_mem_managed _ _ _ hmanaged

end TenantEndpoints.Labels

namespace TenantEndpoints

theorem ListFilter.fits_iff {wish label : Option String} :
    fits wish label = true ↔ wish = none ∨ wish = some "" ∨ wish = label := by
  cases wish with
  | none => simp [fits]
  | some value => simp [fits, eq_comm (a := label)]

namespace Labels

/-- A listing shows an endpoint if and only if what it is narrowed down to is absent, empty,
or what the endpoint has: its tenant, and its backend's protocol and network or else those
wished for. The labels that say who made the endpoint, whose it is and of what kind it is
are set whatever is wished for; those that are not managed are as wished for. -/
theorem listing_agrees_with_labels (backend : Labels) (tenant : String) (desired : Labels) :
    let labels := ofEndpoint backend tenant desired
    (∀ f : ListFilter, f.selector.selects labels = true ↔
      (f.userId = none ∨ f.userId = some "" ∨ f.userId = some tenant) ∧
      (f.protocol = none ∨ f.protocol = some "" ∨
        f.protocol = effective backend desired protocol) ∧
      (f.network = none ∨ f.network = some "" ∨
        f.network = effective backend desired network)) ∧
    labels.find? createdBy = some createdByValue ∧ labels.find? userId = some tenant ∧
    (∀ k, labels.find? kind = some k ↔
      ∃ value, backend.find? component = some value ∧ IsOfKind value k) ∧
    (∀ key, key ∉ managed → labels.find? key = desired.find? key) ∧
    ofEndpoint backend tenant labels = labels := by
  intro labels
  have hcreated : labels.find? createdBy = some createdByValue :=
    find?_ofEndpoint_createdBy backend tenant desired
  have huser : labels.find? userId = some tenant := find?_ofEndpoint_userId backend tenant desired
  have hprotocol : labels.find? protocol = effective backend desired protocol :=
    find?_ofEndpoint_of_mem_propagated backend tenant desired (by decide)
  have hnetwork : labels.find? network = effective backend desired network :=
    find?_ofEndpoint_of_mem_propagated backend tenant desired (by decide)
  refine ⟨fun f => ?_, hcreated, huser, fun k => find?_ofEndpoint_kind_eq_some_iff,
    fun key hkey => find?_ofEndpoint_of_not_mem_managed backend tenant desired hkey,
    ofEndpoint_ofEndpoint backend tenant desired⟩
  rw [ListFilter.selects_selector, hcreated, huser, hprotocol, hnetwork, ListFilter.fits_iff,
    ListFilter.fits_iff, ListFilter.fits_iff]
  constructor
  · rintro ⟨_, hp, hn, hu⟩
    exact ⟨hu, hp, hn⟩
  · rintro ⟨hu, hp, hn⟩
    exact ⟨rfl, hp, hn, hu⟩

/-- Wishes for another tenant, another maker, another kind and another network count for
nothing; those for a protocol and a team do. -/
theorem managed_labels_wished_for_in_vain :
    let backend : Labels := SortedMap.ofList
      [(component, "ethereum-node-api"), (kind, "node"), (network, "mainnet")]
    let desired : Labels := SortedMap.ofList
      [(createdBy, "bob"), (userId, "bob"), (kind, "rpc"), (network, "testnet"),
        (protocol, "ethereum"), ("team", "infra")]
    let labels := ofEndpoint backend "alice" desired
    let filter (network : String) : ListFilter :=
      { protocol := some "ethereum", network := some network, userId := some "alice" }
    ((filter "mainnet").selector.selects labels = true ∧
      ¬ (filter "testnet").selector.selects labels = true) ∧
    labels.find? kind = some "api" ∧
    ("team" ∉ managed ∧ labels.find? "team" = some "infra") ∧
    ofEndpoint backend "alice" labels = labels := by
  intro backend desired labels filter
  obtain ⟨hselects, _, _, hkind, hfree, hagain⟩ := listing_agrees_with_labels backend "alice" desired
  have hprotocol : effective backend desired protocol = some "ethereum" := by decide +kernel
  have hnetwork : effective backend desired network = some "mainnet" := by decide +kernel
  refine ⟨⟨(hselects _).2 ⟨.inr (.inr rfl), .inr (.inr hprotocol.symm), .inr (.inr hnetwork.symm)⟩,
    fun hother => ?_⟩, (hkind "api").2 ⟨"ethereum-node-api", by decide +kernel, by decide, by decide,
      .inr ⟨"ethereum-node", by decide +kernel⟩⟩, ⟨by decide, ?_⟩, hagain⟩
  · obtain ⟨_, _, hnone | hempty | hsame⟩ := (hselects _).1 hother
    · cases hnone
    · exact absurd (Option.some.inj hempty) (by decide)
    · exact absurd (Option.some.inj (hsame.trans hnetwork)) (by decide)
  · exact (hfree "team" (by decide)).trans (by decide +kernel)

end Labels

end TenantEndpoints
