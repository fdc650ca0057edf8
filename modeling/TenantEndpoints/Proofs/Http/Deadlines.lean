import TenantEndpoints.Proofs.Endpoint.Deadlines
import TenantEndpoints.Proofs.Http.Listing
import TenantEndpoints.Proofs.Specimen

/-!
# Deadlines of requests

The calls of a request have the deadline that was set when it arrived. What holds of
the calls of a creation holds of those of a request for one as well, which begin with
a look at the service.
-/
namespace TenantEndpoints.Http
open Endpoint

/-- A request asks for a creation. -/
def AsksForCreation (request : Request) : Prop :=
  ∃ ns, Operation.select? request.method request.target.path = some (.create ns)

section Demand
variable {request : Request} {user : String} {operation : Operation} {demand : Demand}

/-- Only a creation is attempted where one is selected, and nowhere else. -/
theorem create_iff_of_ofOperation (h : Demand.ofOperation request user operation = .ok demand) :
    (∃ ns, operation = .create ns) ↔ ∃ ns user body, demand = .create ns user body := by
  cases operation with
  | create ns =>
    simp only [Demand.ofOperation] at h
    split at h
    · cases h
    split at h
    · cases h
      exact iff_of_true ⟨ns, rfl⟩ ⟨_, _, _, rfl⟩
    · cases h
  | list ns =>
    simp only [Demand.ofOperation] at h
    split at h
    · cases h
      simp
    · cases h
  | count ns | get ns name | delete ns name =>
    cases h
    simp

theorem asksForCreation_iff (h : Demand.ofRequest request = .ok demand) :
    AsksForCreation request ↔ ∃ ns user body, demand = .create ns user body := by
  unfold AsksForCreation
  unfold Demand.ofRequest at h
  split at h
  · cases h
  next operation hselect =>
  split at h
  · cases h
  next user huser =>
  rw [← create_iff_of_ofOperation h, hselect]
  simp

end Demand

section Serve
variable {k : Timekeeper σ} {s : σ} {config : Config} {timeoutMs : Nat} {request : Request}
  {demand : Demand} {deadline : Instant} {e : Encounter σ}

theorem encounters_failed (answerer : Answerer σ) (failure : Failure) (s : σ) :
    ((failed failure).play answerer s).encounters = [] := by
  unfold failed
  split <;> rfl

/-- Only the attempt at what is asked for makes calls. -/
theorem encounters_ok_respond (answerer : Answerer σ) (a : Attempt Response) (s : σ) :
    ((Except.ok <$> respond a : Program (Except ReadFault Response)).play answerer s).encounters =
      (a.run.play answerer s).encounters := by
  rw [Program.encounters_map, respond, Program.play_bind]
  cases hvalue : (a.run.play answerer s).value with
  | ok response => simp [hvalue, Program.play]
  | error failure => simp [hvalue, encounters_failed]

theorem encounters_serve_of_demand (h : Demand.ofRequest request = .ok demand) :
    ((serve config timeoutMs request).play k.answerer s).encounters =
      ((demand.attempt config (k.clock s + timeoutMs)).run.play k.answerer s).encounters := by
  rw [serve_of_demand h]
  simp only [Program.play, k.answer_now, Encounter.ofEffect, List.nil_append, encounters_ok_respond]

theorem allDue_create {ns user : String} {body : CreateBody} : AllDue k deadline
    ((Http.create config ns user body deadline).run.play k.answerer s).encounters := by
  rw [run_create_eq]
  split
  · exact fun e he => absurd he List.not_mem_nil
  simp only [Program.play, Encounter.ofEffect, List.singleton_append]
  obtain ⟨failure | service, s'⟩ := k.answerer s (.call (.get .service ns body.serviceName) deadline)
  · exact .cons (by rintro ⟨⟩) rfl fun e he => absurd he List.not_mem_nil
  · refine .cons (by rintro ⟨⟩) rfl ?_
    rw [Program.encounters_map]
    exact Endpoint.allDue_create

/-- Whatever else is asked for has one deadline for all calls. -/
theorem deadline_eq_of_demand {lookup : Lookup} {t : List Exchange}
    {outcome : Except Failure Response}
    (h : (demand.attempt config deadline).run.Plays lookup t outcome)
    (hother : ∀ ns user body, demand ≠ .create ns user body) : ∀ x ∈ t, x.deadline = deadline := by
  cases demand with
  | create ns user body => exact absurd rfl (hother ns user body)
  | list ns user query =>
    obtain ⟨listed, rfl, _⟩ := plays_list h
    simp
  | count ns user =>
    obtain ⟨listed, rfl, _⟩ := plays_count h
    simp
  | get ns name user =>
    obtain ⟨found, t', rfl, hrest⟩ := plays_get h
    split at hrest
    · obtain ⟨rfl, _⟩ := hrest
      simp
    · obtain ⟨secret, rfl, _⟩ := hrest
      simp
  | delete ns name user =>
    obtain ⟨found, t', rfl, hrest⟩ := plays_delete h
    split at hrest
    · obtain ⟨rfl, _⟩ := hrest
      simp
    · obtain ⟨deleted, rfl, _⟩ := hrest
      simp

theorem encounters_serve_of_error {response : Except ReadFault Response}
    (h : Demand.ofRequest request = .error response) (answerer : Answerer σ) (s : σ) :
    ((serve config timeoutMs request).play answerer s).encounters = [] :=
  List.map_eq_nil_iff.1 (plays_serve_of_error h
    (Program.plays_play answerer Lookup.any_apply (serve config timeoutMs request) s)).1

/-- The calls of a request for a creation are due with it, but for the one that takes its
route back. -/
theorem allDue_serve (h : AsksForCreation request) : AllDue k (k.clock s + timeoutMs)
    ((serve config timeoutMs request).play k.answerer s).encounters := by
  cases hdemand : Demand.ofRequest request with
  | error response =>
    rw [encounters_serve_of_error hdemand]
    exact fun e he => absurd he List.not_mem_nil
  | ok demand =>
    obtain ⟨ns, user, body, rfl⟩ := (asksForCreation_iff hdemand).1 h
    rw [encounters_serve_of_demand hdemand]
    exact allDue_create

/-- The calls of any other request are due with it, deletions as well. -/
theorem deadline_eq_of_mem_serve (h : ¬ AsksForCreation request)
    (he : e ∈ ((serve config timeoutMs request).play k.answerer s).encounters) :
    e.exchange.deadline = k.clock s + timeoutMs := by
  cases hdemand : Demand.ofRequest request with
  | error response =>
    rw [encounters_serve_of_error hdemand] at he
    cases he
  | ok demand =>
    rw [encounters_serve_of_demand hdemand] at he
    obtain ⟨t, hmem, hplays⟩ := Program.exists_plays_of_mem_play _ he
    refine deadline_eq_of_demand hplays ?_ _ hmem
    rintro ns user body rfl
    exact h ((asksForCreation_iff hdemand).2 ⟨ns, user, body, rfl⟩)

/-- A request for a creation that is not answered with the endpoint leaves the routes as they
are if what is to be deleted is deleted. -/
theorem routes_of_plays_serve {t : List Exchange} {r : Except ReadFault Response} {c c' : Cluster}
    (h : AsksForCreation request) (hplays : (serve config timeoutMs request).Plays Lookup.any t r)
    (hserves : c.Serves Interference.any t c')
    (hfails : ∀ response, r = .ok response → response.status ≠ 201)
    (hdeleted : ∀ x ∈ t, x.call.verb = .delete → x.Succeeded) : c'.routes = c.routes := by
  have hserve := plays_serve hplays
  cases hdemand : Demand.ofRequest request with
  | error response =>
    rw [hdemand] at hserve
    obtain ⟨rfl, _⟩ := hserve
    exact congrArg Cluster.routes hserves
  | ok demand =>
    obtain ⟨ns, user, body, rfl⟩ := (asksForCreation_iff hdemand).1 h
    rw [hdemand] at hserve
    obtain ⟨deadline, outcome, hattempt, rfl⟩ := hserve
    have hcreate := plays_create hattempt
    split at hcreate
    · obtain ⟨rfl, _⟩ := hcreate
      exact congrArg Cluster.routes hserves
    obtain ⟨found, t', rfl, hrest⟩ := hcreate
    obtain ⟨c₁, hget, hserves⟩ := hserves
    obtain ⟨rfl, _⟩ := Cluster.meets_get hget
    cases found with
    | error failure =>
      obtain ⟨rfl, _⟩ := hrest
      exact congrArg Cluster.routes hserves
    | ok service =>
      obtain ⟨created, hcreated, rfl⟩ := hrest
      refine routes_of_plays_create hcreated hserves ?_ fun x hx =>
        hdeleted x (List.mem_cons_of_mem _ hx)
      rintro endpoint rfl
      exact hfails _ rfl rfl

end Serve

/-- Every call of a creation, alone or on request, is due when the creation is: for a request
that is a fixed time after it has arrived. The deletion that takes the route back alone may
take five seconds from when it is made. So it is answered as if it had no deadline unless it
takes longer, and then no route stays behind, however much time was lost before. The calls of
other requests have one deadline. -/
theorem deadlines_kept (k : Timekeeper σ) (state : σ) (config : Config) :
    (∀ request service deadline,
      let es := ((Endpoint.create config request service deadline).run.play
        k.answerer state).encounters
      AllDue k deadline es ∧ ∀ e ∈ es, Unhurried k e) ∧
    (∀ timeoutMs request,
      let es := ((serve config timeoutMs request).play k.answerer state).encounters
      (AsksForCreation request →
        AllDue k (k.clock state + timeoutMs) es ∧ ∀ e ∈ es, Unhurried k e) ∧
      (¬ AsksForCreation request →
        ∀ e ∈ es, e.exchange.deadline = k.clock state + timeoutMs)) ∧
    ∀ (s : Surroundings) (w : World), (∀ r ∈ w.rules, r.OnlyDisturbs) →
      (∀ request service deadline,
        let creation := (Endpoint.create config request service deadline).run
        let run := creation.run s w
        Deletable (creation.play (World.answerer s) w).encounters →
          (∀ created, run.value ≠ .ok created) → run.world.cluster.routes = w.cluster.routes) ∧
      ∀ timeoutMs request, AsksForCreation request →
        let run := (serve config timeoutMs request).run s w
        Deletable ((serve config timeoutMs request).play (World.answerer s) w).encounters →
          (∀ response, run.value = .ok response → response.status ≠ 201) →
            run.world.cluster.routes = w.cluster.routes := by
  refine ⟨fun request service deadline => ?_, fun timeoutMs request => ⟨fun hcreation => ?_, ?_⟩,
    fun s w hrules => ⟨?_, ?_⟩⟩
  · exact ⟨Endpoint.allDue_create, fun e he => (Endpoint.allDue_create e he).unhurried he⟩
  · exact ⟨allDue_serve hcreation, fun e he => (allDue_serve hcreation e he).unhurried he⟩
  · exact fun hother e he => deadline_eq_of_mem_serve hother he
  · intro request service deadline creation run hdeletable hfails
    obtain ⟨hplays, hserves, _⟩ := World.serves_run Lookup.any trivial creation
      fun r hr => (hrules r hr).keeps
    exact routes_of_plays_create hplays hserves hfails
      (succeeded_of_deletable Endpoint.allDue_create hdeletable)
  · intro timeoutMs request hcreation run hdeletable hfails
    obtain ⟨hplays, hserves, _⟩ := World.serves_run Lookup.any trivial
      (serve config timeoutMs request) fun r hr => (hrules r hr).keeps
    exact routes_of_plays_serve hcreation hplays hserves hfails
      (succeeded_of_deletable (allDue_serve hcreation) hdeletable)

/-- The time for a creation runs out at its second call that changes something. -/
theorem taken_back_after_deadline :
    let s := Specimen.plain
    let w : World :=
      { Specimen.world with
        rules := [⟨.create, .middleware, none, 0, none, 2000, .letPass⟩,
          ⟨.delete, .ingressRoute, none, 0, none, 4000, .letPass⟩] }
    let request := Specimen.request "POST" "" "alice" (Specimen.body "one")
    let es := ((serve Specimen.config 1000 request).play (World.answerer s) w).encounters
    let run := (serve Specimen.config 1000 request).run s w
    AsksForCreation request ∧ (∀ r ∈ w.rules, r.OnlyDisturbs) ∧
      (es.map fun e => (e.state.clock, e.exchange.call.verb, e.exchange.deadline)) =
        [(0, .get, 1000), (0, .create, 1000), (0, .create, 1000), (1000, .delete, 6000)] ∧
      AllDue (World.timekeeper s) 1000 es ∧ (∀ e ∈ es, Unhurried (World.timekeeper s) e) ∧
      Deletable es ∧ run.world.cluster.routes = w.cluster.routes := by
  intro s w request es run
  have hcreation : AsksForCreation request := ⟨"default", by decide +kernel⟩
  have hrules : ∀ r ∈ w.rules, r.OnlyDisturbs := by decide +kernel
  have hcalls : (es.map fun e => (e.state.clock, e.exchange.call.verb, e.exchange.deadline)) =
      [(0, .get, 1000), (0, .create, 1000), (0, .create, 1000), (1000, .delete, 6000)] := by
    decide +kernel
  obtain ⟨_, hserve, hworld⟩ := deadlines_kept (World.timekeeper s) w Specimen.config
  obtain ⟨hdue, hunhurried⟩ := (hserve 1000 request).1 hcreation
  have hdeletable : Deletable es := by
    unfold Deletable
    decide +kernel
  have hstatus : run.value.toOption.map Response.status = some 500 := by decide +kernel
  refine ⟨hcreation, hrules, hcalls, hdue, hunhurried, hdeletable,
    (hworld s w hrules).2 1000 request hcreation hdeletable ?_⟩
  intro response hresponse hcreated
  rw [hresponse] at hstatus
  cases hcreated.symm.trans (Option.some.inj hstatus)

end TenantEndpoints.Http
