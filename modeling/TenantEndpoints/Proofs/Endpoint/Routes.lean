import TenantEndpoints.Proofs.Endpoint.Course
import TenantEndpoints.Proofs.Program.Interleaving

/-!
# What operations do to routes

Only two calls of a creation are about routes: the first, which submits its own
route, and the last if the creation fails, which deletes a route by the name of
the one that was created. All calls in between leave routes alone.
-/
namespace TenantEndpoints

/-- The call neither creates a route nor deletes anything. -/
structure Exchange.SparesRoutes (x : Exchange) : Prop where
  verb_ne_delete : x.call.verb ≠ .delete
  wanted_ne : ∀ route : IngressRoute, x.wanted? ≠ some ⟨route⟩

theorem Exchange.sparesRoutes_of_wanted {x : Exchange} (hverb : x.call.verb ≠ .delete)
    (hwanted : x.wanted? = none) : x.SparesRoutes :=
  ⟨hverb, fun _ hr => nomatch hwanted.symm.trans hr⟩

namespace Encounter
variable {x : Encounter World} {key : Key} {route : IngressRoute}

theorem not_stores_route (hx : x.exchange.SparesRoutes) (h : x.Change) :
    ¬ x.Stores key route := by
  intro hs
  obtain ⟨submitted, deadline, _, he, _⟩ := hs.exchange h
  exact hx.wanted_ne submitted (by rw [he]; rfl)

theorem not_removes (hx : x.exchange.SparesRoutes) (h : x.Change) {k : Kind} {r : Resource k} :
    ¬ x.Removes key r := by
  intro hr
  obtain ⟨ns, name, deadline, _, he, _⟩ := hr.exchange h
  exact hx.verb_ne_delete (by rw [he]; rfl)

end Encounter

/-- Where routes are left alone, they stay as they are. -/
theorem Cluster.Chronicle.find?_route {may : Interference} {c c' : Cluster}
    {xs : List (Encounter World)} (h : Cluster.Chronicle may c xs c')
    (hxs : ∀ x ∈ xs, x.exchange.SparesRoutes) (key : Key) :
    c'.find? .ingressRoute key = c.find? .ingressRoute key := by
  induction h with
  | nil => rfl
  | @cons x xs c' hx _ ih =>
    obtain ⟨hspares, hrest⟩ := List.forall_mem_cons.1 hxs
    rw [ih hrest]
    cases hx.change.touch .ingressRoute key with
    | kept he => exact he
    | stored _ _ _ hs => exact absurd hs (Encounter.not_stores_route hspares hx.change)
    | removed _ _ _ hr => exact absurd hr (Encounter.not_removes hspares hx.change)

namespace Endpoint

theorem Reads.sparesRoutes {t : List Exchange} (h : Reads t) : ∀ x ∈ t, x.SparesRoutes := by
  intro x hx
  have hverb := h x hx
  obtain ⟨call, deadline, outcome⟩ := x
  cases call with
  | create r => rcases hverb with hv | hv <;> cases hv
  | delete k ns name => rcases hverb with hv | hv <;> cases hv
  | get k ns name => exact Exchange.sparesRoutes_of_wanted (fun hv => nomatch hv) rfl
  | list k ns selector => exact Exchange.sparesRoutes_of_wanted (fun hv => nomatch hv) rfl

section Steps
variable {config : Config} {useBasicAuth : Bool} {route : IngressRoute} {credentials : Credentials}

theorem kind_of_mem_resources_steps {k : Kind} {r : Resource k}
    (h : ⟨r⟩ ∈ resources (steps config useBasicAuth route credentials)) : k ≠ .ingressRoute := by
  cases ho : ownerReference? route with
  | none =>
    simp only [resources, steps, ho] at h
    cases h
  | some owner =>
    rw [resources_steps ho] at h
    rintro rfl
    rcases List.mem_append.1 h with h | h
    · obtain ⟨derive, hd, _⟩ := (childOf_of_mem_children ho h).name
      cases hd
    · cases (kind_of_mem_shared h).1

theorem Taken.sparesRoutes {ignoreConflicts : Bool} {deadline : Instant} {t : List Exchange}
    {ended : Option (Stage × Failure)}
    (h : Taken ignoreConflicts deadline (steps config useBasicAuth route credentials) t ended) :
    ∀ x ∈ t, x.SparesRoutes := by
  intro x hx
  refine ⟨h.verb_ne_delete x hx, fun r hr => ?_⟩
  have hmem := h.wanted_sublist.subset (List.mem_filterMap.2 ⟨x, hx, hr⟩)
  exact kind_of_mem_resources_steps hmem rfl

end Steps

/-- Where a call of a saga stands: it comes first, or after the first and before
the last, or it deletes the route that was created by the first. -/
inductive Saga.Place (config : Config) (useBasicAuth : Bool) (submitted : IngressRoute)
    (deadline : Instant) : List Exchange → Exchange → Prop
  | first (outcome : Except Failure IngressRoute) :
    Place _ _ _ _ [] ⟨.create submitted, deadline, outcome⟩
  | between (route : IngressRoute) (credentials : Credentials) {t : List Exchange} {x : Exchange}
      (ht : ∀ y ∈ t, y.SparesRoutes) (hx : x.SparesRoutes)
      (hwanted : (t.filterMap Exchange.made? ++ x.wanted?.toList).Sublist
        (resources (steps config useBasicAuth route credentials))) :
    Place _ _ _ _ (⟨.create submitted, deadline, .ok route⟩ :: t) x
  | last (route : IngressRoute) {t : List Exchange} (ht : ∀ y ∈ t, y.SparesRoutes)
      (deadline' : Instant) (deleted : Except Failure Unit) :
    Place _ _ _ _ (⟨.create submitted, deadline, .ok route⟩ :: t)
      ⟨.delete .ingressRoute route.metadata.namespaceOrEmpty route.displayName, deadline', deleted⟩

theorem Taken.place {config : Config} {useBasicAuth : Bool} {submitted route : IngressRoute}
    {credentials : Credentials} {ignoreConflicts : Bool} {deadline deadline' : Instant}
    {t t₁ t₂ : List Exchange} {x : Exchange} {ended : Option (Stage × Failure)}
    (h : Taken ignoreConflicts deadline (steps config useBasicAuth route credentials) t ended)
    (hsplit : t = t₁ ++ x :: t₂) :
    Saga.Place config useBasicAuth submitted deadline'
      (⟨.create submitted, deadline', .ok route⟩ :: t₁) x := by
  subst hsplit
  obtain ⟨ht₁, ht₂⟩ := List.forall_mem_append.1 h.sparesRoutes
  exact .between route credentials ht₁ (ht₂ x List.mem_cons_self) h.split.2

theorem Saga.place {config : Config} {useBasicAuth : Bool} {submitted : IngressRoute}
    {deadline : Instant} {t t₁ t₂ : List Exchange} {x : Exchange} {r : Except Failure Created}
    (h : Saga config useBasicAuth submitted deadline t r) (hsplit : t = t₁ ++ x :: t₂) :
    Saga.Place config useBasicAuth submitted deadline t₁ x := by
  cases h with
  | refused failure =>
    rcases List.cons_eq_append_iff.1 hsplit with ⟨rfl, he⟩ | ⟨t₃, rfl, he⟩
    · cases he
      exact .first _
    · cases t₃ <;> cases he
  | completed route credentials ht =>
    rcases List.cons_eq_append_iff.1 hsplit with ⟨rfl, he⟩ | ⟨t₃, rfl, he⟩
    · cases he
      exact .first _
    · exact ht.place he
  | takenBack route credentials ht now deleted =>
    rcases List.cons_eq_append_iff.1 hsplit with ⟨rfl, he⟩ | ⟨t₃, rfl, he⟩
    · cases he
      exact .first _
    · rcases append_singleton_eq_append_cons he with ⟨rfl, rfl⟩ | ⟨t₄, he⟩
      · exact .last route ht.sparesRoutes _ deleted
      · exact ht.place he

theorem Saga.Place.routesOnly {config : Config} {useBasicAuth : Bool} {submitted : IngressRoute}
    {deadline : Instant} {t : List Exchange} {x : Exchange}
    (h : Saga.Place config useBasicAuth submitted deadline t x) (hx : x.call.verb = .delete) :
    x.call.kind = .ingressRoute := by
  cases h with
  | first => cases hx
  | between _ _ _ hspares => exact absurd hx hspares.verb_ne_delete
  | last => rfl

section Entered
variable {ι : Type} [DecidableEq ι]

/-- In a turn a party stores its route; it is the party's first. -/
structure Entered (i : ι) (submitted route : IngressRoute) (earlier : List (Turn ι))
    (x : Turn ι) : Prop where
  party : x.party = i
  first : Turn.exchangesOf i earlier = []
  made : route = x.encounter.state.cluster.made submitted
  stores : x.encounter.Stores submitted.key route

variable {may : Interference} {c c' : Cluster} {i : ι} {submitted route : IngressRoute}
  {turns earlier : List (Turn ι)} {x : Turn ι}

theorem Entered.route_key (h : Entered i submitted route earlier x) :
    route.key = submitted.key := by
  rw [h.made]
  exact Cluster.key_made _ submitted

theorem Entered.exists_ownerReference? (h : Entered i submitted route earlier x)
    (hname : submitted.metadata.name ≠ none) : ∃ owner, ownerReference? route = some owner := by
  rw [h.made]
  obtain ⟨owner, howner, _⟩ := exists_ownerReference?_made x.encounter.state.cluster hname
  exact ⟨owner, howner⟩

/-- A party whose first exchange is the creation of a route has entered then. -/
theorem exists_entered (h : Cluster.Chronicle may c (turns.map (·.encounter)) c')
    {deadline : Instant} {t : List Exchange}
    (ht : Turn.exchangesOf i turns = ⟨.create submitted, deadline, .ok route⟩ :: t) :
    ∃ earlier x rest, turns = earlier ++ x :: rest ∧ Entered i submitted route earlier x ∧
      Turn.exchangesOf i rest = t := by
  obtain ⟨earlier, x, rest, hsplit, hparty, hx, hfirst, hrest⟩ :=
    Turn.split_of_exchangesOf (t := []) ht
  obtain ⟨_, hserved, _⟩ := Turn.split_chronicle h hsplit
  obtain ⟨hstores, hmade⟩ := hserved.stores hx
  exact ⟨earlier, x, rest, hsplit, ⟨hparty, hfirst, hmade, hstores⟩, hrest⟩

end Entered

end Endpoint

end TenantEndpoints
