import TenantEndpoints.Proofs.Endpoint.Routes
import TenantEndpoints.Proofs.Http.Exchange
import TenantEndpoints.Proofs.Program.Interleaving
import TenantEndpoints.Proofs.Specimen

/-!
# Contention for names

Creations and deletions that take turns on one world may ask for the same name. A
creation that fails deletes the route under its name, and nothing says that this is
still the one that it has created: that may have been deleted in the meantime, and
another have been created in its place. Short of that it takes back its own.
-/
namespace TenantEndpoints

/-- Others than a party have removed what was under a key and stored something else there. -/
def Turn.Replaced {ι : Type} (i : ι) (key : Key) (own route : IngressRoute)
    (turns : List (Turn ι)) : Prop :=
  ∃ xs y ys, turns = xs ++ y :: ys ∧ y.party ≠ i ∧ y.encounter.Removes key own ∧
    ∃ z ∈ ys, z.party ≠ i ∧ z.encounter.Stores key route

/-- A route that a party does not touch is still there, unless others have replaced it. -/
theorem Turn.eq_or_replaced {ι : Type} {may : Interference} {c c' : Cluster}
    {turns : List (Turn ι)} {i : ι} {key : Key} {own route : IngressRoute}
    (h : Cluster.Chronicle may c (turns.map (·.encounter)) c')
    (hspares : ∀ x ∈ turns, x.party = i → x.encounter.exchange.SparesRoutes)
    (hown : c.find? .ingressRoute key = some own)
    (hroute : c'.find? .ingressRoute key = some route) :
    route = own ∨ Turn.Replaced i key own route turns := by
  by_cases hne : route = own
  · exact .inl hne
  obtain ⟨xs, x, ys, hsplit, hx, y, hy, hstores⟩ := h.replaced hown hroute hne
  obtain ⟨us, vs, rfl, rfl, hvs⟩ := List.map_eq_append_iff.1 hsplit
  obtain ⟨u, vs, rfl, rfl, rfl⟩ := List.map_eq_cons_iff.1 hvs
  obtain ⟨v, hv, rfl⟩ := List.mem_map.1 hy
  have hchange {z : Turn ι} (hz : z ∈ us ++ u :: vs) : z.encounter.Change := by
    obtain ⟨as, bs, hz⟩ := List.append_of_mem hz
    exact (split_chronicle h hz).2.1.change
  have hu : u ∈ us ++ u :: vs := List.mem_append_right _ List.mem_cons_self
  have hv' : v ∈ us ++ u :: vs := List.mem_append_right _ (List.mem_cons_of_mem _ hv)
  refine .inr ⟨us, u, vs, rfl, fun hi => ?_, hx, v, hv, fun hi => ?_, hstores⟩
  · exact Encounter.not_removes (hspares u hu hi) (hchange hu) hx
  · exact Encounter.not_stores_route (hspares v hv' hi) (hchange hv') hstores

namespace Endpoint

/-- A call that changes which endpoints there are. -/
inductive Job
  | create (request : EndpointRequest) (service : Service) (deadline : Instant)
  | delete (ns name : String) (deadline : Instant)

namespace Job

/-- What is done for a job, whatever it gives. -/
def program (config : Config) : Job → Program Unit
  | .create request service deadline =>
    (fun _ => ()) <$> (Endpoint.create config request service deadline).run
  | .delete ns name deadline => (fun _ => ()) <$> (Endpoint.delete ns name deadline).run

/-- Where a call stands among those made for a job. -/
inductive Place (config : Config) : Job → List Exchange → Exchange → Prop
  | creation {request : EndpointRequest} {service : Service} {deadline : Instant}
      {submitted : IngressRoute} (hkey : submitted.key = ⟨request.ns, request.name⟩)
      {t : List Exchange} {x : Exchange}
      (h : Saga.Place config request.useBasicAuth submitted deadline t x) :
    Place _ (.create request service deadline) t x
  | deletion (ns name : String) (deadline : Instant) (deleted : Except Failure Unit) :
    Place _ (.delete ns name deadline) [] ⟨.delete .ingressRoute ns name, deadline, deleted⟩

theorem place {config : Config} {job : Job} {t t₁ t₂ : List Exchange} {x : Exchange} {u : Unit}
    (h : (job.program config).Plays lookup t u) (hsplit : t = t₁ ++ x :: t₂) :
    job.Place config t₁ x := by
  cases job with
  | create request service deadline =>
    obtain ⟨r, _, h⟩ := Program.plays_map.1 h
    rcases plays_create h with ⟨_, rfl, _⟩ | ⟨domain, ids, _, _, hsaga⟩
    · cases t₁ <;> cases hsplit
    · exact .creation rfl (hsaga.place hsplit)
  | delete ns name deadline =>
    obtain ⟨r, _, h⟩ := Program.plays_map.1 h
    rw [plays_delete h] at hsplit
    obtain ⟨rfl, he⟩ | ⟨t₃, rfl, he⟩ := List.cons_eq_append_iff.1 hsplit
    · cases he
      exact .deletion ns name deadline r
    · cases t₃ <;> cases he

theorem Place.routesOnly {config : Config} {job : Job} {t : List Exchange} {x : Exchange}
    (h : job.Place config t x) (hx : x.call.verb = .delete) : x.call.kind = .ingressRoute := by
  cases h with
  | creation _ h => exact h.routesOnly hx
  | deletion => rfl

end Job

section Race
variable {ι : Type} [DecidableEq ι]

/-- Some jobs that are to be done on one world. -/
def contest (config : Config) (jobs : ι → Job) (w : World) : Joint ι Unit :=
  ⟨w, fun i => (jobs i).program config⟩

variable {may : Interference} {config : Config} {jobs : ι → Job} {s : ι → Surroundings}
  {schedule : List ι} {w : World} {before after : List (Turn ι)} {x : Turn ι}

theorem place_of_turn (h : (contest config jobs w).turns s schedule = before ++ x :: after) :
    (jobs x.party).Place config (Turn.exchangesOf x.party before) x.encounter.exchange :=
  Joint.forall_turns (P := fun i => (jobs i).Place config) Job.place h

theorem chronicle_contest (hrules : ∀ r ∈ w.rules, r.Keeps may) :
    Cluster.Chronicle may w.cluster
      (((contest config jobs w).turns s schedule).map (·.encounter))
      ((contest config jobs w).after s schedule).world.cluster := by
  have hrules' : ∀ r ∈ (contest config jobs w).world.rules, r.Keeps may := hrules
  refine Joint.chronicle_turns hrules' fun x hx hverb => ?_
  obtain ⟨before, after, hsplit⟩ := List.append_of_mem hx
  exact (place_of_turn hsplit).routesOnly hverb

/-- The route that a creation removes is under its own key. It has stored one there
before, and what is there now is either that or what others have put in its place. -/
theorem eq_or_replaced_of_removes (hrules : ∀ r ∈ w.rules, r.Keeps may)
    (hsplit : (contest config jobs w).turns s schedule = before ++ x :: after)
    {request : EndpointRequest} {service : Service} {deadline : Instant}
    (hjob : jobs x.party = .create request service deadline) {key : Key} {route : IngressRoute}
    (hx : x.encounter.Removes key route) :
    key = ⟨request.ns, request.name⟩ ∧ ∃ earlier y between own,
      before = earlier ++ y :: between ∧ y.party = x.party ∧ y.encounter.Stores key own ∧
      (route = own ∨ Turn.Replaced x.party key own route between) := by
  have hplace := place_of_turn hsplit
  obtain ⟨hbefore, hserved, _⟩ := Turn.split_chronicle (chronicle_contest hrules) hsplit
  generalize ht : Turn.exchangesOf x.party before = t at hplace
  obtain ⟨ns, name, deadline', _, hexchange, _, ⟨_, rfl⟩ | ⟨hne, _⟩⟩ := hx.exchange hserved.change
  · rw [hjob, hexchange] at hplace
    cases hplace with
    | @creation _ _ _ submitted hkey _ _ hsaga =>
      cases hsaga with
      | between _ _ _ hspares => exact absurd rfl hspares.verb_ne_delete
      | @last own t hspares _ deleted =>
        obtain ⟨earlier, y, between, rfl, hentered, hrest⟩ := exists_entered hbefore ht
        have hown : (⟨own.metadata.namespaceOrEmpty, own.displayName⟩ : Key) = submitted.key :=
          hentered.route_key
        rw [hown] at hx ⊢
        refine ⟨hkey, earlier, y, between, own, rfl, hentered.party, hentered.stores, ?_⟩
        obtain ⟨_, _, hbetween⟩ := Turn.split_chronicle hbefore rfl
        refine Turn.eq_or_replaced hbetween (fun z hz hi => ?_) hentered.stores.2 hx.1
        rw [← hrest] at hspares
        exact hspares _ (Turn.mem_exchangesOf.2 ⟨z, hz, hi, rfl⟩)
  · exact absurd rfl hne

/-- The route that a deletion removes is the one it asks for. -/
theorem key_of_removes (hrules : ∀ r ∈ w.rules, r.Keeps may)
    (hsplit : (contest config jobs w).turns s schedule = before ++ x :: after)
    {ns name : String} {deadline : Instant} (hjob : jobs x.party = .delete ns name deadline)
    {key : Key} {route : IngressRoute} (hx : x.encounter.Removes key route) : key = ⟨ns, name⟩ := by
  have hplace := place_of_turn hsplit
  generalize Turn.exchangesOf x.party before = t at hplace
  obtain ⟨ns', name', deadline', _, hexchange, _, ⟨_, rfl⟩ | ⟨hne, _⟩⟩ :=
    hx.exchange (Turn.split_chronicle (chronicle_contest hrules) hsplit).2.1.change
  · rw [hjob, hexchange] at hplace
    cases hplace
    rfl
  · exact absurd rfl hne

/-- The route that a creation has stored is only replaced after a call has deleted a
route under its key. The induction is on the turns before: a creation that removes the route
has had its own replaced earlier. -/
theorem exists_deletion (hrules : ∀ r ∈ w.rules, r.Keeps may) {key : Key}
    {own route : IngressRoute} {earlier between : List (Turn ι)} {y : Turn ι}
    (hsplit : (contest config jobs w).turns s schedule = earlier ++ y :: between ++ after)
    (hstores : y.encounter.Stores key own)
    (hreplaced : Turn.Replaced y.party key own route between) :
    ∃ z ∈ earlier ++ y :: between, (∃ deadline, jobs z.party = .delete key.ns key.name deadline) ∧
      ∃ gone : IngressRoute, z.encounter.Removes key gone := by
  induction hn : (earlier ++ y :: between).length using Nat.strongRecOn
    generalizing earlier y between after own route with
  | _ n ih =>
    obtain ⟨xs, z, ys, rfl, hz, hremoves, _⟩ := hreplaced
    have he : earlier ++ y :: (xs ++ z :: ys) = (earlier ++ y :: xs) ++ z :: ys := by simp
    rw [he] at hn ⊢
    rw [he, List.append_assoc, List.cons_append] at hsplit
    cases hjob : jobs z.party with
    | delete ns name deadline =>
      refine ⟨z, List.mem_append_right _ List.mem_cons_self, ⟨deadline, ?_⟩, own, hremoves⟩
      rw [hjob, key_of_removes hrules hsplit hjob hremoves]
    | create request service deadline =>
      obtain ⟨_, earlier', y', between', own', he', hy', hstores', hown⟩ :=
        eq_or_replaced_of_removes hrules hsplit hjob hremoves
      have hmem {v : Turn ι} (hv : v ∈ earlier ++ y :: xs) :
          v ∈ (contest config jobs w).turns s schedule := by
        rw [hsplit]
        exact List.mem_append_left _ hv
      rcases hown with rfl | hreplaced
      · have hsame := Turn.eq_of_uid (chronicle_contest hrules) (hmem (by simp))
          (hmem (by simp [he'])) hstores hstores' rfl
        exact absurd (by rw [hsame, hy']) hz
      · have hlt : (earlier' ++ y' :: between').length < n := by
          simp only [← he', ← hn, List.length_append, List.length_cons]
          omega
        rw [he'] at hsplit
        rw [← hy'] at hreplaced
        obtain ⟨v, hv, hdeletes⟩ := ih _ hlt hsplit hstores' hreplaced rfl
        rw [← he'] at hv
        exact ⟨v, List.mem_append_left _ hv, hdeletes⟩

end Race

/-- A creation that removes a route removes the one that it has itself stored. -/
def TakesBackItsOwn {ι : Type} (jobs : ι → Job) (turns : List (Turn ι)) : Prop :=
  ∀ before x after, turns = before ++ x :: after →
    ∀ request service deadline, jobs x.party = .create request service deadline →
      ∀ key (route : IngressRoute), x.encounter.Removes key route →
        ∃ y ∈ before, y.party = x.party ∧ y.encounter.Stores key route

/-- Two creations under the same name and a deletion of that name. -/
def rivals : Fin 3 → Job
  | 0 => .create (Specimen.endpoint "one" "alice" false) Specimen.node 1000
  | 1 => .delete "default" "one" 1000
  | 2 => .create (Specimen.endpoint "one" "bob" false) Specimen.node 1000

/-- The route of the first creation is deleted, and the second creates its own; then the
first finds the name of its middleware taken and fails. -/
def rivalry : List (Turn (Fin 3)) :=
  (contest Specimen.config rivals {}).turns (fun _ => Specimen.plain)
    [0, 0, 0, 1, 2, 2, 2, 2, 2, 0, 0, 0, 0, 0]

/-- The uid of the route that the rivals are about. -/
def contestedUid? (c : Cluster) : Option String :=
  (c.find? .ingressRoute ⟨"default", "one"⟩).bind (·.metadata.uid)

theorem rivalry_ends : ∃ before x, rivalry = before ++ [x] ∧ x.party = 0 ∧
    ∃ route : IngressRoute, route.metadata.uid = some "uid-2" ∧
      x.encounter.Removes ⟨"default", "one"⟩ route := by
  have hlast : rivalry.getLast?.map (fun x => (x.party, contestedUid? x.encounter.state.cluster,
      (x.encounter.after.cluster.find? .ingressRoute ⟨"default", "one"⟩).isNone)) =
      some (0, some "uid-2", true) := by
    decide +kernel
  obtain ⟨x, hx, he⟩ := Option.map_eq_some_iff.1 hlast
  obtain ⟨hparty, he⟩ := Prod.mk.inj he
  obtain ⟨huid, hnone⟩ := Prod.mk.inj he
  obtain ⟨route, hroute, huid⟩ := Option.bind_eq_some_iff.1 huid
  obtain ⟨before, hsplit⟩ := List.getLast?_eq_some_iff.1 hx
  exact ⟨before, x, hsplit, hparty, route, huid, hroute, Option.isNone_iff_eq_none.1 hnone⟩

theorem uid_ne_of_rivalry {y : Turn (Fin 3)} (hy : y ∈ rivalry) (hparty : y.party = 0)
    {route : IngressRoute} (hs : y.encounter.Stores ⟨"default", "one"⟩ route) :
    route.metadata.uid ≠ some "uid-2" := by
  have hnever : (rivalry.all fun y => y.party ≠ 0 ||
      (y.encounter.state.cluster.find? .ingressRoute ⟨"default", "one"⟩).isSome ||
      contestedUid? y.encounter.after.cluster ≠ some "uid-2") = true := by
    decide +kernel
  intro huid
  have hstored : contestedUid? y.encounter.after.cluster = some "uid-2" := by
    rw [contestedUid?, hs.2]
    exact huid
  have hall := List.all_eq_true.1 hnever y hy
  rw [hparty, hs.1, hstored] at hall
  cases hall

/-- A creation may take back what another has stored. -/
theorem rivalry_takes_back_another : ¬ TakesBackItsOwn rivals rivalry := by
  intro hown
  obtain ⟨before, x, hsplit, hparty, route, huid, hremoves⟩ := rivalry_ends
  obtain ⟨y, hy, hyparty, hs⟩ :=
    hown before x [] hsplit _ _ _ (by rw [hparty]; rfl) _ route hremoves
  have hmem : y ∈ rivalry := by
    rw [hsplit]
    exact List.mem_append_left _ hy
  exact uid_ne_of_rivalry hmem (hyparty.trans hparty) hs huid

/-- A creation that fails removes, if any, the route under its own key. It has stored one
there itself, and removes that one unless others have removed it and stored another in
its place. This takes a call that deletes the route under that key. -/
theorem taken_back_unless_replaced {ι : Type} [DecidableEq ι] (config : Config) (jobs : ι → Job)
    (s : ι → Surroundings) (schedule : List ι) (w : World)
    (hrules : ∀ r ∈ w.rules, r.OnlyDisturbs) :
    ∀ before x after, (contest config jobs w).turns s schedule = before ++ x :: after →
      ∀ request service deadline, jobs x.party = .create request service deadline →
        ∀ key (route : IngressRoute), x.encounter.Removes key route →
          key = ⟨request.ns, request.name⟩ ∧ ∃ earlier y between own,
            before = earlier ++ y :: between ∧ y.party = x.party ∧
            y.encounter.Stores key own ∧
            (route = own ∨ Turn.Replaced x.party key own route between ∧
              ∃ z ∈ before, (∃ deadline, jobs z.party = .delete key.ns key.name deadline) ∧
                ∃ gone : IngressRoute, z.encounter.Removes key gone) := by
  intro before x after hsplit request service deadline hjob key route hx
  have hkeeps : ∀ r ∈ w.rules, r.Keeps .any := fun r hr => (hrules r hr).keeps
  obtain ⟨hkey, earlier, y, between, own, he, hy, hstores, hroute⟩ :=
    eq_or_replaced_of_removes hkeeps hsplit hjob hx
  refine ⟨hkey, earlier, y, between, own, he, hy, hstores, hroute.imp_right fun hreplaced => ?_⟩
  rw [he] at hsplit ⊢
  rw [← hy] at hreplaced
  exact ⟨hy ▸ hreplaced, exists_deletion hkeeps hsplit hstores hreplaced⟩

/-- In the rivalry the route of the first creation has been deleted by the call for that. -/
theorem taken_back_in_rivalry :
    let key : Key := ⟨"default", "one"⟩
    (∀ r ∈ ({} : World).rules, r.OnlyDisturbs) ∧
      ∃ before x own route, rivalry = before ++ [x] ∧ x.encounter.Removes key route ∧
        Turn.Replaced x.party key own route before ∧
        ∃ z ∈ before, (∃ deadline, rivals z.party = .delete key.ns key.name deadline) ∧
          ∃ gone : IngressRoute, z.encounter.Removes key gone := by
  intro key
  have hrules : ∀ r ∈ ({} : World).rules, r.OnlyDisturbs := fun _ hr => nomatch hr
  obtain ⟨before, x, hsplit, hparty, route, huid, hremoves⟩ := rivalry_ends
  obtain ⟨_, earlier, y, between, own, rfl, hy, hs, rfl | ⟨hreplaced, hdeleted⟩⟩ :=
    taken_back_unless_replaced Specimen.config rivals (fun _ => Specimen.plain)
      [0, 0, 0, 1, 2, 2, 2, 2, 2, 0, 0, 0, 0, 0] {} hrules before x [] hsplit _ _ _
      (by rw [hparty]; rfl) key route hremoves
  · have hmem : y ∈ rivalry := by
      rw [hsplit]
      simp
    exact absurd huid (uid_ne_of_rivalry hmem (hy.trans hparty) hs)
  · obtain ⟨xs, z, ys, rfl, hz⟩ := hreplaced
    exact ⟨hrules, _, x, own, route, hsplit, hremoves,
      ⟨earlier ++ y :: xs, z, ys, by simp, hz⟩, hdeleted⟩

end Endpoint

end TenantEndpoints
