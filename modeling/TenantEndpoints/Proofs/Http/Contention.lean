import TenantEndpoints.Proofs.Endpoint.Contention
import TenantEndpoints.Proofs.Http.Tenancy
import TenantEndpoints.Proofs.Specimen

/-!
# Contention between requests

A request to delete an endpoint first looks whether the route is its tenant's and then
deletes by name. Other requests may come in between. They may delete the route, and
another tenant may take the name, and then it is that tenant's route that goes.
-/
namespace TenantEndpoints.Http
open Endpoint

section Race
variable {ι : Type} [DecidableEq ι]

/-- Some requests that are to be answered on one world. -/
def together (config : Config) (timeoutMs : Nat) (requests : ι → Request) (w : World) :
    Joint ι (Except ReadFault Response) :=
  ⟨w, fun i => serve config timeoutMs (requests i)⟩

variable {may : Interference} {config : Config} {timeoutMs : Nat} {requests : ι → Request}
  {s : ι → Surroundings} {schedule : List ι} {w : World} {before after : List (Turn ι)}
  {x : Turn ι}

theorem routeCall_turn
    (h : (together config timeoutMs requests w).turns s schedule = before ++ x :: after) :
    ∃ demand, Demand.ofRequest (requests x.party) = .ok demand ∧
      RouteCall demand (Turn.exchangesOf x.party before) x.encounter.exchange :=
  Joint.forall_turns (P := fun i t x => ∃ demand, Demand.ofRequest (requests i) = .ok demand ∧
    RouteCall demand t x) routeCall_serve h

theorem chronicle_together (hrules : ∀ r ∈ w.rules, r.Keeps may) :
    Cluster.Chronicle may w.cluster
      (((together config timeoutMs requests w).turns s schedule).map (·.encounter))
      ((together config timeoutMs requests w).after s schedule).world.cluster := by
  have hrules' : ∀ r ∈ (together config timeoutMs requests w).world.rules, r.Keeps may := hrules
  refine Joint.chronicle_turns hrules' fun x hx hverb => ?_
  obtain ⟨before, after, hsplit⟩ := List.append_of_mem hx
  obtain ⟨demand, _, hcall⟩ := routeCall_turn hsplit
  exact hcall.routesOnly hverb

/-- A route is only stored for a tenant who asks for an endpoint, with the tenant's label. -/
theorem posted_of_stores (hrules : ∀ r ∈ w.rules, r.Keeps may)
    (hsplit : (together config timeoutMs requests w).turns s schedule = before ++ x :: after)
    {key : Key} {route : IngressRoute} (hx : x.encounter.Stores key route) :
    ∃ user body, Demand.ofRequest (requests x.party) = .ok (.create key.ns user body) ∧
      body.name = key.name ∧ route.labels.find? Labels.userId = some user := by
  obtain ⟨demand, hdemand, hcall⟩ := routeCall_turn hsplit
  obtain ⟨_, hserved, _⟩ := Turn.split_chronicle (chronicle_together hrules) hsplit
  obtain ⟨submitted, deadline, rfl, hexchange, rfl, _⟩ := hx.exchange hserved.change
  rw [hexchange] at hcall
  obtain ⟨user, body, rfl, hname, htenant⟩ := hcall.of_create
  exact ⟨user, body, hdemand, hname, htenant⟩

/-- A deletion removes the route under the key it asks for, and has before found one there
that has its tenant's label. It removes that one or what others have put in its place. -/
theorem found_of_removes (hrules : ∀ r ∈ w.rules, r.Keeps may)
    (hsplit : (together config timeoutMs requests w).turns s schedule = before ++ x :: after)
    {ns name user : String}
    (hdemand : Demand.ofRequest (requests x.party) = .ok (.delete ns name user)) {key : Key}
    {route : IngressRoute} (hx : x.encounter.Removes key route) :
    key = ⟨ns, name⟩ ∧ ∃ earlier y between deadline own, before = earlier ++ y :: between ∧
      y.party = x.party ∧
      y.encounter.exchange = ⟨.get .ingressRoute ns name, deadline, .ok own⟩ ∧
      own.labels.find? Labels.userId = some user ∧
      (route = own ∨ Turn.Replaced x.party key own route between) := by
  obtain ⟨demand, hdemand', hcall⟩ := routeCall_turn hsplit
  cases hdemand.symm.trans hdemand'
  obtain ⟨hbefore, hserved, _⟩ := Turn.split_chronicle (chronicle_together hrules) hsplit
  generalize ht : Turn.exchangesOf x.party before = t at hcall
  obtain ⟨ns', name', deadline', _, hexchange, _, ⟨_, rfl⟩ | ⟨hne, _⟩⟩ := hx.exchange hserved.change
  · rw [hexchange] at hcall
    cases hcall with
    | spares hspares => exact absurd rfl hspares.verb_ne_delete
    | @deletes _ _ _ own howner deadline =>
      obtain ⟨earlier, y, between, rfl, hy, hye, _, hrest⟩ :=
        Turn.split_of_exchangesOf (t := []) ht
      obtain ⟨_, hserved', hbetween⟩ := Turn.split_chronicle hbefore rfl
      obtain ⟨hfound, hsame⟩ := hserved'.found hye
      refine ⟨rfl, earlier, y, between, deadline, own, rfl, hy, hye, of_decide_eq_true howner, ?_⟩
      refine Turn.eq_or_replaced hbetween (fun z hz hi => ?_) (hsame ▸ hfound) hx.1
      have hmem := Turn.mem_exchangesOf.2 ⟨z, hz, hi, rfl⟩
      rw [hrest] at hmem
      cases hmem
  · exact absurd rfl hne

end Race

/-- A request to delete an endpoint only ever removes a route with its tenant's label. -/
def DeletesOwnOnly {ι : Type} (requests : ι → Request) (turns : List (Turn ι)) : Prop :=
  ∀ x ∈ turns, ∀ ns name user, Demand.ofRequest (requests x.party) = .ok (.delete ns name user) →
    ∀ key (route : IngressRoute), x.encounter.Removes key route →
      route.labels.find? Labels.userId = some user

/-- A tenant creates an endpoint and asks twice for its deletion; another tenant asks for
an endpoint under the same name. -/
def disputes : Fin 4 → Request
  | 0 => Specimen.request "POST" "" "alice" (Specimen.body "one")
  | 1 => Specimen.request "DELETE" "/one" "alice" ""
  | 2 => Specimen.request "DELETE" "/one" "alice" ""
  | 3 => Specimen.request "POST" "" "bob" (Specimen.body "one")

theorem demand_disputes :
    Demand.ofRequest (disputes 1) = .ok (.delete "default" "one" "alice") := by
  have hoperation : Operation.select? (disputes 1).method (disputes 1).target.path =
      some (.delete "default" "one") := by decide +kernel
  exact Demand.ofRequest_eq hoperation (by decide +kernel)

/-- The first deletion has found the tenant's route when the second goes ahead and the
other tenant's request is answered. -/
def dispute : List (Turn (Fin 4)) :=
  (together Specimen.config 1000 disputes Specimen.world).turns (fun _ => Specimen.plain)
    (List.replicate 20 0 ++ [1, 1] ++ List.replicate 5 2 ++ List.replicate 20 3 ++ [1])

theorem dispute_ends : ∃ before x, dispute = before ++ [x] ∧ x.party = 1 ∧
    ∃ route : IngressRoute, route.labels.find? Labels.userId = some "bob" ∧
      x.encounter.Removes ⟨"default", "one"⟩ route := by
  have hlast : dispute.getLast?.map (fun x => (x.party,
      (x.encounter.state.cluster.find? .ingressRoute ⟨"default", "one"⟩).bind
        (·.labels.find? Labels.userId),
      (x.encounter.after.cluster.find? .ingressRoute ⟨"default", "one"⟩).isNone)) =
      some (1, some "bob", true) := by
    decide +kernel
  obtain ⟨x, hx, he⟩ := Option.map_eq_some_iff.1 hlast
  obtain ⟨hparty, he⟩ := Prod.mk.inj he
  obtain ⟨hbob, hnone⟩ := Prod.mk.inj he
  obtain ⟨route, hroute, hbob⟩ := Option.bind_eq_some_iff.1 hbob
  obtain ⟨before, hsplit⟩ := List.getLast?_eq_some_iff.1 hx
  exact ⟨before, x, hsplit, hparty, route, hbob, hroute, Option.isNone_iff_eq_none.1 hnone⟩

/-- A tenant may delete a route of another. -/
theorem dispute_deletes_another : ¬ DeletesOwnOnly disputes dispute := by
  intro hown
  obtain ⟨before, x, hsplit, hparty, route, hbob, hremoves⟩ := dispute_ends
  have hmem : x ∈ dispute := by
    rw [hsplit]
    exact List.mem_append_right _ List.mem_cons_self
  have hdemand : Demand.ofRequest (disputes x.party) = .ok (.delete "default" "one" "alice") := by
    rw [hparty, demand_disputes]
  have halice := hown x hmem "default" "one" "alice" hdemand _ route hremoves
  exact absurd (Option.some.inj (hbob.symm.trans halice)) (by decide)

/-- A request to delete an endpoint removes a route only after it has found one under that
key with its tenant's label. It removes that one, unless other requests have removed it
since and one of them, asking for an endpoint of that name, has stored another. -/
theorem deleted_own_unless_replaced {ι : Type} [DecidableEq ι] (config : Config) (timeoutMs : Nat)
    (requests : ι → Request) (s : ι → Surroundings) (schedule : List ι) (w : World)
    (hrules : ∀ r ∈ w.rules, r.OnlyDisturbs) :
    ∀ before x after,
      (together config timeoutMs requests w).turns s schedule = before ++ x :: after →
      ∀ ns name user, Demand.ofRequest (requests x.party) = .ok (.delete ns name user) →
        ∀ key (route : IngressRoute), x.encounter.Removes key route →
          key = ⟨ns, name⟩ ∧ ∃ earlier y between deadline own,
            before = earlier ++ y :: between ∧ y.party = x.party ∧
            y.encounter.exchange = ⟨.get .ingressRoute ns name, deadline, .ok own⟩ ∧
            own.labels.find? Labels.userId = some user ∧
            (route = own ∨ Turn.Replaced x.party key own route between ∧
              ∃ z ∈ between, z.encounter.Stores key route ∧ ∃ owner body,
                Demand.ofRequest (requests z.party) = .ok (.create ns owner body) ∧
                body.name = name ∧ route.labels.find? Labels.userId = some owner) := by
  intro before x after hsplit ns name user hdemand key route hx
  have hkeeps : ∀ r ∈ w.rules, r.Keeps .any := fun r hr => (hrules r hr).keeps
  obtain ⟨rfl, earlier, y, between, deadline, own, rfl, hy, hexchange, htenant, hroute⟩ :=
    found_of_removes hkeeps hsplit hdemand hx
  refine ⟨rfl, earlier, y, between, deadline, own, rfl, hy, hexchange, htenant,
    hroute.imp_right fun hreplaced => ⟨hreplaced, ?_⟩⟩
  obtain ⟨xs, v, ys, rfl, _, _, z, hz, _, hstores⟩ := hreplaced
  refine ⟨z, List.mem_append_right _ (List.mem_cons_of_mem _ hz), hstores, ?_⟩
  obtain ⟨as, bs, rfl⟩ := List.append_of_mem hz
  have hsplit' : (together config timeoutMs requests w).turns s schedule =
      (earlier ++ y :: (xs ++ v :: as)) ++ z :: (bs ++ x :: after) := by
    rw [hsplit]
    simp
  exact posted_of_stores hkeeps hsplit' hstores

/-- In the dispute the tenant's route has given way to one that the other asked for. -/
theorem deleted_in_dispute :
    let key : Key := ⟨"default", "one"⟩
    (∀ r ∈ Specimen.world.rules, r.OnlyDisturbs) ∧
      ∃ before x own route, dispute = before ++ [x] ∧ x.encounter.Removes key route ∧
        own.labels.find? Labels.userId = some "alice" ∧
        Turn.Replaced x.party key own route before ∧
        ∃ z ∈ before, z.encounter.Stores key route ∧ ∃ body,
          Demand.ofRequest (disputes z.party) = .ok (.create "default" "bob" body) := by
  intro key
  have hrules : ∀ r ∈ Specimen.world.rules, r.OnlyDisturbs := fun _ hr => nomatch hr
  obtain ⟨before, x, hsplit, hparty, route, hbob, hremoves⟩ := dispute_ends
  have hdemand : Demand.ofRequest (disputes x.party) = .ok (.delete "default" "one" "alice") := by
    rw [hparty, demand_disputes]
  obtain ⟨_, earlier, y, between, deadline, own, rfl, hy, _, halice, rfl |
      ⟨⟨xs, v, ys, rfl, hv⟩, z, hz, hstores, owner, body, hposted, _, howner⟩⟩ :=
    deleted_own_unless_replaced Specimen.config 1000 disputes (fun _ => Specimen.plain)
      (List.replicate 20 0 ++ [1, 1] ++ List.replicate 5 2 ++ List.replicate 20 3 ++ [1])
      Specimen.world hrules before x [] hsplit "default" "one" "alice" hdemand key route hremoves
  · exact absurd (Option.some.inj (hbob.symm.trans halice)) (by decide)
  · cases Option.some.inj (hbob.symm.trans howner)
    exact ⟨hrules, _, x, own, route, hsplit, hremoves, halice,
      ⟨earlier ++ y :: xs, v, ys, by simp, hv⟩, z,
      List.mem_append_right _ (List.mem_cons_of_mem _ hz), hstores, body, hposted⟩

end TenantEndpoints.Http
