import TenantEndpoints.Proofs.Endpoint.Held
import TenantEndpoints.Proofs.Http.Exchange
import TenantEndpoints.Proofs.Specimen

/-!
# Scenarios

A scenario is a sequence of operations, one after the other, on a cluster that
at first holds only services and perhaps the shared middlewares. Time passes
and rules come and go between the operations. Whatever fails on the way, no
secret and no middleware is ever without its route, and no route without what it
refers to, unless it could not be taken back.
-/
namespace TenantEndpoints

open Endpoint

/-- What may be asked for. -/
inductive Task
  | create (request : EndpointRequest) (service : Service) (deadline : Instant)
  | get (ns name : String) (deadline : Instant)
  | list (ns : String) (selector : Selector) (deadline : Instant)
  | count (ns : String) (selector : Selector) (deadline : Instant)
  | delete (ns name : String) (deadline : Instant)
  | credentials (ns name : String) (deadline : Instant)
  | ensureActivity (deadline : Instant)
  | ensureCache (deadline : Instant)
  | serve (timeoutMs : Nat) (request : Http.Request)

namespace Task

/-- What is done for a task, whatever it gives. -/
def program (config : Config) : Task → Program Unit
  | .create request service deadline =>
    (fun _ => ()) <$> (Endpoint.create config request service deadline).run
  | .get ns name deadline => (fun _ => ()) <$> (Endpoint.get ns name deadline).run
  | .list ns selector deadline => (fun _ => ()) <$> (Endpoint.list ns selector deadline).run
  | .count ns selector deadline => (fun _ => ()) <$> (Endpoint.count ns selector deadline).run
  | .delete ns name deadline => (fun _ => ()) <$> (Endpoint.delete ns name deadline).run
  | .credentials ns name deadline => (fun _ => ()) <$> (Endpoint.credentials ns name deadline).run
  | .ensureActivity deadline => (fun _ => ()) <$> (config.shared.ensureActivity deadline).run
  | .ensureCache deadline => (fun _ => ()) <$> (config.shared.ensureCache deadline).run
  | .serve timeoutMs request => (fun _ => ()) <$> Http.serve config timeoutMs request

/-- Whether a task is only to look something up, and not over HTTP. -/
def looksUp : Task → Bool
  | .get _ _ _ | .list _ _ _ | .count _ _ _ | .credentials _ _ _ => true
  | .create _ _ _ | .delete _ _ _ | .ensureActivity _ | .ensureCache _ | .serve _ _ => false

end Task

/-- What happens in a scenario. -/
inductive Event
  | task (s : Surroundings) (job : Task)
  | wait (ms : Nat)
  | rules (rs : List Cluster.Rule)

namespace Event

/-- The rules that come with an event. -/
def newRules : Event → List Cluster.Rule
  | .rules rs => rs
  | .task _ _ | .wait _ => []

/-- What an event comes to. -/
def play (config : Config) : Event → World → Play World Unit
  | .task s job, w => (job.program config).play (World.answerer s) w
  | .wait ms, w => ⟨(), { w with clock := w.clock + ms }, []⟩
  | .rules rs, w => ⟨(), { w with rules := rs }, []⟩

/-- All that happens, one event after the other. -/
def history (config : Config) : List Event → World → List (Play World Unit)
  | [], _ => []
  | e :: es, w => e.play config w :: history config es (e.play config w).state

/-- The world after all that happens. -/
def after (config : Config) : List Event → World → World
  | [], w => w
  | e :: es, w => after config es (e.play config w).state

end Event

section Course
variable {config : Config} {t : List Exchange}

theorem course_create {request : EndpointRequest} {service : Service} {deadline : Instant}
    {r : Except Failure Created} {before : List Exchange} (hbefore : Reads before)
    (h : (Endpoint.create config request service deadline).run.Plays lookup t r) :
    Course config (before ++ t) := by
  rcases plays_create h with ⟨_, rfl, _⟩ | ⟨domain, ids, hrefusal, hids, hsaga⟩
  · rw [List.append_nil]
    exact .reading hbefore
  · exact .creating hbefore (planned_submission hrefusal hids) hsaga

theorem reads_nil : Reads [] := fun _ hx => nomatch hx

theorem reads_cons {x : Exchange} (hx : x.call.verb = .get ∨ x.call.verb = .list)
    (ht : Reads t) : Reads (x :: t) := List.forall_mem_cons.2 ⟨hx, ht⟩

/-- What is done for a demand: something is read, perhaps before an endpoint is
created, or before a route on which the tenant's label was found is deleted. -/
inductive Conduct (config : Config) (lookup : Lookup) (deadline : Instant) :
    Http.Demand → List Exchange → Prop
  | reads {demand : Http.Demand} {t : List Exchange} (h : Reads t) : Conduct _ _ _ demand t
  | creates {ns user : String} {body : Http.CreateBody} {service : Service}
      {before t : List Exchange} {r : Except Failure Created} (hbefore : Reads before)
      (h : (Endpoint.create config (Http.requestOf ns user body) service deadline).run.Plays
        lookup t r) : Conduct _ _ _ (.create ns user body) (before ++ t)
  | deletes {ns name user : String} {route : IngressRoute}
      (h : Http.isOwnedBy route user = true) (deleted : Except Failure Unit) :
    Conduct _ _ _ (.delete ns name user) [⟨.get .ingressRoute ns name, deadline, .ok route⟩,
      ⟨.delete .ingressRoute ns name, deadline, deleted⟩]

theorem visible_eq_ok {name user : String} {found : Except Failure IngressRoute}
    {route : IngressRoute} (h : Http.visible name user found = .ok route) :
    found = .ok route ∧ Http.isOwnedBy route user = true := by
  unfold Http.visible at h
  split at h
  · split at h
    · next howner =>
      cases h
      exact ⟨rfl, howner⟩
    · cases h
  · cases h

theorem conduct_demand {demand : Http.Demand} {deadline : Instant}
    {r : Except Failure Http.Response}
    (h : (demand.attempt config deadline).run.Plays lookup t r) :
    Conduct config lookup deadline demand t := by
  cases demand with
  | create ns user body =>
    have hplays := Http.plays_create h
    split at hplays
    · obtain ⟨rfl, _⟩ := hplays
      exact .reads reads_nil
    · obtain ⟨found, t', rfl, hplays⟩ := hplays
      have hread (found) : Reads [⟨.get .service ns body.serviceName, deadline, found⟩] :=
        reads_cons (.inl rfl) reads_nil
      split at hplays
      · obtain ⟨rfl, _⟩ := hplays
        exact .reads (hread _)
      · obtain ⟨created, hcreate, _⟩ := hplays
        exact .creates (hread _) hcreate
  | list ns user query =>
    obtain ⟨listed, rfl, _⟩ := Http.plays_list h
    exact .reads (reads_cons (.inr rfl) reads_nil)
  | count ns user =>
    obtain ⟨listed, rfl, _⟩ := Http.plays_count h
    exact .reads (reads_cons (.inr rfl) reads_nil)
  | get ns name user =>
    obtain ⟨found, t', rfl, hrest⟩ := Http.plays_get h
    split at hrest
    · obtain ⟨rfl, _⟩ := hrest
      exact .reads (reads_cons (.inl rfl) reads_nil)
    · obtain ⟨secret, rfl, _⟩ := hrest
      exact .reads (reads_cons (.inl rfl) (reads_cons (.inl rfl) reads_nil))
  | delete ns name user =>
    obtain ⟨found, t', rfl, hrest⟩ := Http.plays_delete h
    split at hrest
    · obtain ⟨rfl, _⟩ := hrest
      exact .reads (reads_cons (.inl rfl) reads_nil)
    · next route hvisible =>
      obtain ⟨deleted, rfl, _⟩ := hrest
      obtain ⟨rfl, howner⟩ := visible_eq_ok hvisible
      exact .deletes howner deleted

/-- Whatever is asked for over HTTP takes one of the courses. -/
theorem course_demand {demand : Http.Demand} {deadline : Instant}
    {r : Except Failure Http.Response}
    (h : (demand.attempt config deadline).run.Plays lookup t r) : Course config t := by
  cases conduct_demand h with
  | reads ht => exact .reading ht
  | creates hbefore hcreate => exact course_create hbefore hcreate
  | @deletes ns name _ route _ deleted =>
    have hget : Reads [⟨.get .ingressRoute ns name, deadline, .ok route⟩] :=
      reads_cons (.inl rfl) reads_nil
    exact .deleting hget ns name deadline deleted

theorem course_ensure {m : Middleware} (hm : m ∈ config.shared.both) {deadline : Instant}
    {r : Except Failure Unit}
    (h : (SharedMiddlewares.ensureExists m.key.name m.key.ns (.ok m)
      config.shared.ignoreConflicts deadline).run.Plays lookup t r) : Course config t := by
  obtain ⟨ended, hstep, _⟩ := plays_ensureExists h
  exact .ensuring hm hstep

theorem reads_task {task : Task} {u : Unit} (hlooks : task.looksUp = true)
    (h : (task.program config).Plays lookup t u) : Reads t := by
  cases task with
  | get ns name deadline =>
    obtain ⟨r, _, h⟩ := Program.plays_map.1 h
    rw [Attempt.plays_call.1 h]
    exact reads_cons (.inl rfl) reads_nil
  | list ns selector deadline =>
    obtain ⟨r, _, h⟩ := Program.plays_map.1 h
    rw [Attempt.plays_call.1 h]
    exact reads_cons (.inr rfl) reads_nil
  | count ns selector deadline =>
    obtain ⟨r, _, h⟩ := Program.plays_map.1 h
    obtain ⟨listed, rfl, _⟩ := Endpoint.plays_count h
    exact reads_cons (.inr rfl) reads_nil
  | credentials ns name deadline =>
    obtain ⟨r, _, h⟩ := Program.plays_map.1 h
    obtain ⟨secret, rfl, _⟩ := plays_credentials h
    exact reads_cons (.inl rfl) reads_nil
  | create | delete | ensureActivity | ensureCache | serve => cases hlooks

theorem course_task {task : Task} {u : Unit} (h : (task.program config).Plays lookup t u) :
    Course config t := by
  cases task with
  | get | list | count | credentials => exact .reading (reads_task rfl h)
  | create request service deadline =>
    obtain ⟨r, _, h⟩ := Program.plays_map.1 h
    exact course_create reads_nil h
  | delete ns name deadline =>
    obtain ⟨r, _, h⟩ := Program.plays_map.1 h
    rw [Endpoint.plays_delete h]
    exact .deleting reads_nil ns name deadline r
  | ensureActivity deadline =>
    obtain ⟨r, _, h⟩ := Program.plays_map.1 h
    exact course_ensure (m := config.shared.activityMiddleware) List.mem_cons_self h
  | ensureCache deadline =>
    obtain ⟨r, _, h⟩ := Program.plays_map.1 h
    exact course_ensure (m := config.shared.cacheMiddleware)
      (List.mem_cons_of_mem _ List.mem_cons_self) h
  | serve timeoutMs request =>
    obtain ⟨r, _, h⟩ := Program.plays_map.1 h
    have hplays := Http.plays_serve h
    split at hplays
    · obtain ⟨rfl, _⟩ := hplays
      exact .reading reads_nil
    · obtain ⟨deadline, outcome, hplays, _⟩ := hplays
      exact course_demand hplays

end Course

section Throughout
variable {may : Interference} {config : Config} {excused : IngressRoute → Prop}

theorem held_event {e : Event} {w : World} (h : Held may config excused w.cluster)
    (hrules : ∀ r ∈ w.rules, r.Keeps may) (hnew : ∀ r ∈ e.newRules, r.Keeps may) :
    Held may config (fun route => excused route ∨ LeavesBehind (e.play config w).exchanges route)
        (e.play config w).state.cluster ∧
      (∀ r ∈ (e.play config w).state.rules, r.Keeps may) ∧
      ∀ x ∈ (e.play config w).encounters,
        MetWell (IsShared config.shared) x.state.cluster x.exchange := by
  cases e with
  | task s job =>
    have hcourse := course_task
      (Program.plays_play (World.answerer s) Lookup.any_apply (job.program config) w)
    obtain ⟨hserves, hrules'⟩ := World.serves_play s (job.program config) hrules
    obtain ⟨left, hchange, hleft⟩ := hcourse.change hserves
    refine ⟨h.change hchange (fun _ => .inl) fun route hl => .inr (hleft route hl), hrules', ?_⟩
    intro x hx
    obtain ⟨t₁, t₂, hsplit, hbefore⟩ := World.serves_until s (job.program config) hrules hx
    exact hcourse.metWell hsplit hbefore h.owned (exempts_isShared config.shared)
  | wait ms => exact ⟨h.mono fun _ => .inl, hrules, fun _ hx => nomatch hx⟩
  | rules rs => exact ⟨h.mono fun _ => .inl, hnew, fun _ hx => nomatch hx⟩

theorem held_after {events : List Event} {w : World} (h : Held may config excused w.cluster)
    (hrules : ∀ r ∈ w.rules, r.Keeps may)
    (hnew : ∀ e ∈ events, ∀ r ∈ e.newRules, r.Keeps may) :
    Held may config
        (fun route => excused route ∨ ∃ p ∈ Event.history config events w,
          LeavesBehind p.exchanges route)
        (Event.after config events w).cluster ∧
      ∀ p ∈ Event.history config events w, ∀ x ∈ p.encounters,
        MetWell (IsShared config.shared) x.state.cluster x.exchange := by
  induction events generalizing w excused with
  | nil => exact ⟨h.mono fun _ => .inl, fun _ hp => nomatch hp⟩
  | cons e events ih =>
    obtain ⟨hnew, hnews⟩ := List.forall_mem_cons.1 hnew
    obtain ⟨hheld, hrules', hmet⟩ := held_event h hrules hnew
    obtain ⟨hafter, hmets⟩ := ih hheld hrules' hnews
    refine ⟨hafter.mono fun _ he => ?_, List.forall_mem_cons.2 ⟨hmet, hmets⟩⟩
    rcases he with (he | hl) | ⟨p, hp, hl⟩
    · exact .inl he
    · exact .inr ⟨_, List.mem_cons_self, hl⟩
    · exact .inr ⟨p, List.mem_cons_of_mem _ hp, hl⟩

end Throughout

/-- There are only services, and perhaps the shared middlewares, which nobody owns. -/
structure Untouched (config : Config) (c : Cluster) : Prop where
  routes : ∀ key, c.find? .ingressRoute key = none
  secrets : ∀ key, c.find? .secret key = none
  middlewares : ∀ {key : Key} {m : Middleware}, c.find? .middleware key = some m →
    IsShared config.shared key ∧ m.metadata.ownerReferences.getD [] = []

theorem untouched_services (config : Config) (services : Store .service) :
    Untouched config { services } :=
  ⟨fun _ => rfl, fun _ => rfl, fun hm => nomatch hm⟩

theorem Untouched.held {config : Config} {c : Cluster} (h : Untouched config c)
    (may : Interference) : Held may config (fun _ => False) c := by
  refine ⟨⟨?_, ?_, ?_, ?_⟩, fun m hm x hx => (h.middlewares hx).2, ?_⟩
  · intro key route hroute
    rw [h.routes] at hroute
    cases hroute
  · intro key route hroute
    rw [h.routes] at hroute
    cases hroute
  · intro key key' route route' hroute
    rw [h.routes] at hroute
    cases hroute
  · intro k key r hr
    cases k with
    | ingressRoute | service => exact .inl trivial
    | middleware => exact .inl (h.middlewares hr).1
    | secret =>
      rw [h.secrets] at hr
      cases hr
  · intro key route hroute
    rw [h.routes] at hroute
    cases hroute

/-- Every secret, and every middleware that is not shared, belongs to a route. -/
structure AllOwned (config : Config) (c : Cluster) : Prop where
  secrets : ∀ {key : Key} {s : Secret}, c.find? .secret key = some s → HasParent c key s
  middlewares : ∀ {key : Key} {m : Middleware}, c.find? .middleware key = some m →
    IsShared config.shared key ∨ HasParent c key m

theorem Endpoint.Owned.all {config : Config} {c : Cluster}
    (h : Owned (IsShared config.shared) c) : AllOwned config c :=
  ⟨fun hs => (h.parent hs).resolve_left id, fun hm => h.parent hm⟩

/-- Some rule of a route asks for the route's basic authentication. -/
def AsksForBasicAuth (route : IngressRoute) : Prop :=
  ∃ rule ∈ route.spec.rules,
    ⟨basicAuthName route.key.name, some route.key.ns⟩ ∈ rule.middlewares

/-- What the rules of a route refer to is there, and credentials are there if and
only if the rules ask for them. -/
structure Intact (c : Cluster) (route : IngressRoute) : Prop where
  resolves : ∀ rule ∈ route.spec.rules, ∀ ref ∈ rule.middlewares,
    ∃ ns, ref.ns = some ns ∧ c.find? .middleware ⟨ns, ref.name⟩ ≠ none
  credentials : AsksForBasicAuth route → ∃ (m : Middleware) (s : Secret),
    c.find? .middleware ⟨route.key.ns, basicAuthName route.key.name⟩ = some m ∧
      m.spec = .basicAuth (secretName route.key.name) ∧
      c.find? .secret ⟨route.key.ns, secretName route.key.name⟩ = some s
  noCredentials : ¬ AsksForBasicAuth route →
    c.find? .middleware ⟨route.key.ns, basicAuthName route.key.name⟩ = none ∧
      c.find? .secret ⟨route.key.ns, secretName route.key.name⟩ = none

theorem mem_refs {shared : SharedMiddlewares} {ref : ObjectRef} (h : ref ∈ shared.refs) :
    ∃ m ∈ shared.both, ref = ⟨m.key.name, some m.key.ns⟩ := by
  simp only [SharedMiddlewares.refs, List.mem_cons, List.not_mem_nil, or_false] at h
  rcases h with rfl | rfl
  · exact ⟨shared.activityMiddleware, List.mem_cons_self, rfl⟩
  · exact ⟨shared.cacheMiddleware, List.mem_cons_of_mem _ List.mem_cons_self, rfl⟩

section Intact
variable {may : Interference} {config : Config} {useBasicAuth : Bool} {c : Cluster}
  {route : IngressRoute} {owner : OwnerReference} {credentials : Credentials}

theorem asksForBasicAuth_iff (h : Planned config useBasicAuth route) :
    AsksForBasicAuth route ↔ useBasicAuth = true := by
  constructor
  · rintro ⟨rule, hrule, hmem⟩
    rw [h.chain rule hrule] at hmem
    rcases List.mem_append.1 hmem with hmem | hmem
    · rcases List.mem_append.1 hmem with hmem | hmem
      · obtain ⟨m, hm, he⟩ := mem_refs hmem
        have hname : m.key.name = basicAuthName route.key.name := (congrArg ObjectRef.name he).symm
        exact absurd ⟨basicAuthName, by simp [derivations], _, hname⟩ (not_isDerived_shared hm)
      · have hname := congrArg ObjectRef.name (List.mem_singleton.1 hmem)
        exact absurd hname.symm (stripPrefixName_ne_basicAuthName _ _)
    · cases useBasicAuth with
      | true => rfl
      | false => cases hmem
  · rintro rfl
    obtain ⟨rule, hrule⟩ := List.exists_mem_of_ne_nil _ h.rules_ne_nil
    refine ⟨rule, hrule, ?_⟩
    rw [h.chain rule hrule]
    exact List.mem_append_right _ List.mem_cons_self

theorem Endpoint.Sound.intact (h : Sound may config c route) (hspares : Spares may config.shared) :
    Intact c route := by
  obtain ⟨⟨useBasicAuth, owner, credentials, hplanned, hwhole⟩, hshared⟩ := h
  have hasks := asksForBasicAuth_iff hplanned
  refine ⟨fun rule hrule ref href => ?_, fun ha => ?_, fun ha => ?_⟩
  · rw [hplanned.chain rule hrule] at href
    rcases List.mem_append.1 href with href | href
    · rcases List.mem_append.1 href with href | href
      · obtain ⟨m, hm, rfl⟩ := mem_refs href
        exact ⟨m.key.ns, rfl, hshared hspares m hm⟩
      · cases List.mem_singleton.1 href
        obtain ⟨uid, hfound⟩ := hwhole.stored (r := stripPrefix route owner) List.mem_cons_self
        refine ⟨route.key.ns, rfl, ?_⟩
        exact fun hnone => Option.some_ne_none _ (hfound.symm.trans hnone)
    · cases useBasicAuth with
      | false => cases href
      | true =>
        cases List.mem_singleton.1 href
        obtain ⟨m, s, hm, _⟩ := hwhole.hasCredentials
        exact ⟨route.key.ns, rfl, fun hnone => Option.some_ne_none _ (hm.symm.trans hnone)⟩
  · cases hasks.1 ha
    exact hwhole.hasCredentials
  · cases useBasicAuth with
    | true => exact absurd (hasks.2 rfl) ha
    | false => exact hwhole.hasNoCredentials

end Intact

/-- A rule fails the creation of a middleware with a conflict. -/
def Cluster.Rule.FeignsConflict (r : Cluster.Rule) (m : Middleware) : Prop :=
  r.concerns (.create m) = true ∧ ∃ failure, r.disturbance = .fail failure ∧ failure.isConflict = true

/-- No conflict comes from elsewhere where it would be ignored. -/
def Interference.sparing (shared : SharedMiddlewares) : Interference := fun call failure =>
  shared.ignoreConflicts = true → ∀ m ∈ shared.both, call = .create m → failure.isConflict = false

theorem spares_sparing (shared : SharedMiddlewares) : Spares (.sparing shared) shared :=
  fun hi m hm _ hmay => hmay hi m hm rfl

theorem keeps_sparing {shared : SharedMiddlewares} {r : Cluster.Rule} (h : r.OnlyDisturbs)
    (hr : shared.ignoreConflicts = false ∨ ∀ m ∈ shared.both, ¬ r.FeignsConflict m) :
    r.Keeps (.sparing shared) := by
  refine ⟨h, fun call failure hc hd hi m hm he => ?_, fun call _ _ _ _ _ _ => rfl⟩
  subst he
  rcases hr with hoff | hr
  · rw [hoff] at hi
    cases hi
  · rw [Bool.eq_false_iff]
    exact fun hconflict => hr m hm ⟨hc, failure, hd, hconflict⟩

/-- Throughout a scenario all children have their routes, also in the middle of
operations, and no child is ever created where there is one. In the end every
route that was not left behind is intact, unless conflicts were feigned where
they are ignored. -/
theorem ownership_in_scenarios (config : Config) (events : List Event) (w : World)
    (hstart : Untouched config w.cluster)
    (hrules : ∀ r ∈ w.rules ++ events.flatMap Event.newRules, r.OnlyDisturbs) :
    let history := Event.history config events w
    let c := (Event.after config events w).cluster
    AllOwned config c ∧
      (∀ p ∈ history, ∀ x ∈ p.encounters, AllOwned config x.state.cluster) ∧
      (∀ p ∈ history, ∀ x ∈ p.encounters, ∀ {k : Kind} {r : Resource k},
        x.exchange.wanted? = some ⟨r⟩ →
        k = .secret ∨ k = .middleware ∧ ¬ IsShared config.shared r.key →
        x.state.cluster.find? k r.key = none) ∧
      (config.shared.ignoreConflicts = false ∨
          (∀ r ∈ w.rules ++ events.flatMap Event.newRules, ∀ m ∈ config.shared.both,
            ¬ r.FeignsConflict m) →
        ∀ {key : Key} {route : IngressRoute}, c.find? .ingressRoute key = some route →
          (∀ p ∈ history, ¬ LeavesBehind p.exchanges route) → Intact c route) := by
  intro history c
  have hkeeps {may : Interference}
      (hall : ∀ r ∈ w.rules ++ events.flatMap Event.newRules, r.Keeps may) :
      (∀ r ∈ w.rules, r.Keeps may) ∧ ∀ e ∈ events, ∀ r ∈ e.newRules, r.Keeps may :=
    ⟨fun r hr => hall r (List.mem_append_left _ hr), fun e he r hr =>
      hall r (List.mem_append_right _ (List.mem_flatMap.2 ⟨e, he, hr⟩))⟩
  obtain ⟨hold, hnew⟩ := hkeeps fun r hr => (hrules r hr).keeps
  obtain ⟨hheld, hmet⟩ := held_after (hstart.held .any) hold hnew
  refine ⟨hheld.owned.all, fun p hp x hx => (hmet p hp x hx).owned.all, ?_, ?_⟩
  · intro p hp x hx k r hr hk
    apply (hmet p hp x hx).free hr
    rcases hk with rfl | ⟨rfl, hns⟩
    · exact id
    · exact hns
  · intro hconflicts key route hroute hkept
    have hsparing : ∀ r ∈ w.rules ++ events.flatMap Event.newRules,
        r.Keeps (.sparing config.shared) := by
      intro r hr
      exact keeps_sparing (hrules r hr) (hconflicts.imp_right fun hno => hno r hr)
    obtain ⟨hold, hnew⟩ := hkeeps hsparing
    obtain ⟨hheld, _⟩ := held_after (hstart.held (.sparing config.shared)) hold hnew
    refine (hheld.sound hroute ?_).intact (spares_sparing config.shared)
    rintro (hf | ⟨p, hp, hl⟩)
    · exact hf
    · exact hkept p hp hl

/-- A scenario of two creations, of which the second has to be taken back. -/
theorem ownership_in_two_creations :
    let create (name : String) : Event := .task Specimen.plain
      (.create (Specimen.endpoint name "alice" true) Specimen.node 1000)
    let events : List Event := [create "one",
      .rules [Specimen.failing .create .secret (.internal .unconfiguredDomain)], create "two"]
    let w : World := {}
    let c := (Event.after Specimen.config events w).cluster
    Untouched Specimen.config w.cluster ∧
      (∀ r ∈ w.rules ++ events.flatMap Event.newRules, r.OnlyDisturbs) ∧
      AllOwned Specimen.config c ∧ ∃ route, c.find? .ingressRoute ⟨"default", "one"⟩ = some route ∧
        Intact c route := by
  intro create events w c
  have hstart : Untouched Specimen.config w.cluster := untouched_services _ _
  have hrules : ∀ r ∈ w.rules ++ events.flatMap Event.newRules, r.OnlyDisturbs := by
    decide +kernel
  obtain ⟨howned, _, _, hintact⟩ := ownership_in_scenarios Specimen.config events w hstart hrules
  refine ⟨hstart, hrules, howned, ?_⟩
  have hfound : (c.find? .ingressRoute ⟨"default", "one"⟩).isSome = true := by decide +kernel
  have hdeleted : ((Event.history Specimen.config events w).all fun p => p.exchanges.all fun x =>
      x.call.verb ≠ .delete || x.outcome.isOk) = true := by decide +kernel
  obtain ⟨route, hroute⟩ := Option.isSome_iff_exists.1 hfound
  refine ⟨route, hroute, hintact (.inl rfl) hroute ?_⟩
  rintro p hp ⟨_, deadline, failure, hfailed⟩
  have hall := List.all_eq_true.1 (List.all_eq_true.1 hdeleted p hp) _ hfailed
  cases hall

end TenantEndpoints
