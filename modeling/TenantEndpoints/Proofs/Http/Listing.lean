import TenantEndpoints.Proofs.Http.Hiding
import TenantEndpoints.Proofs.Labels.Scope
import TenantEndpoints.Proofs.SortedMap
import TenantEndpoints.Proofs.Specimen

/-!
# Listings

What a tenant is told in a listing or a count depends only on the routes in the
namespace that were made here for the tenant. This is a statement about two runs:
whatever else two clusters have, they answer alike. And whatever is asked for in a
query, only routes of the tenant are told of.
-/
namespace TenantEndpoints

namespace Cluster

/-- A route in a namespace was made here for a tenant. -/
structure Offers (c : Cluster) (ns user : String) (key : Key) (route : IngressRoute) : Prop where
  stored : c.find? .ingressRoute key = some route
  within : key.ns = ns
  createdBy : route.labels.find? Labels.createdBy = some Labels.createdByValue
  tenant : route.labels.find? Labels.userId = some user

/-- Two clusters offer the same to a tenant. -/
def OffersAlike (ns user : String) (c c' : Cluster) : Prop :=
  ∀ key route, c.Offers ns user key route ↔ c'.Offers ns user key route

section Lists
variable {c c' : Cluster} {ns user : String} {f : ListFilter}

theorem offers_of_selected (huser : f.userId = some user) (hne : user ≠ "") {key : Key}
    {route : IngressRoute} (hroute : c.find? .ingressRoute key = some route) (hns : key.ns = ns)
    (hselects : f.selector.selects route.labels = true) : c.Offers ns user key route := by
  obtain ⟨hmade, _, _, hfits⟩ := ListFilter.selects_selector.1 hselects
  refine ⟨hroute, hns, hmade, ?_⟩
  simpa [ListFilter.fits, huser, hne] using hfits

theorem offers_of_mem_list (huser : f.userId = some user) (hne : user ≠ "") {route : IngressRoute}
    (h : route ∈ c.list .ingressRoute ns f.selector) : ∃ key, c.Offers ns user key route := by
  obtain ⟨⟨key, _⟩, hentry, rfl⟩ := List.mem_map.1 h
  have hfound := SortedMap.find?_eq_some_of_mem hentry
  rw [SortedMap.find?_filter] at hfound
  obtain ⟨hroute, hselected⟩ := Option.filter_eq_some_iff.1 hfound
  obtain ⟨hns, hselects⟩ := Bool.and_eq_true_iff.1 hselected
  exact ⟨key, offers_of_selected huser hne hroute (of_decide_eq_true hns) hselects⟩

/-- What is listed for a tenant depends on what is offered to the tenant. -/
theorem list_eq_of_offersAlike (h : OffersAlike ns user c c') (huser : f.userId = some user)
    (hne : user ≠ "") :
    c.list .ingressRoute ns f.selector = c'.list .ingressRoute ns f.selector := by
  have hfilter {c c' : Cluster} (h : OffersAlike ns user c c') {key : Key} {route : IngressRoute}
      (hroute : ((c.store .ingressRoute).filter fun key r =>
        key.ns = ns && f.selector.selects r.labels).find? key = some route) :
      ((c'.store .ingressRoute).filter fun key r =>
        key.ns = ns && f.selector.selects r.labels).find? key = some route := by
    rw [SortedMap.find?_filter] at hroute ⊢
    obtain ⟨hstored, hselected⟩ := Option.filter_eq_some_iff.1 hroute
    obtain ⟨hns, hselects⟩ := Bool.and_eq_true_iff.1 hselected
    have hoffers := offers_of_selected huser hne hstored (of_decide_eq_true hns) hselects
    exact Option.filter_eq_some_iff.2 ⟨((h key route).1 hoffers).stored, hselected⟩
  have hsymm : OffersAlike ns user c' c := fun key route => (h key route).symm
  unfold list
  congr 1
  apply SortedMap.ext_find?
  intro key
  apply Option.ext
  intro route
  exact ⟨hfilter h, hfilter hsymm⟩

/-- A route of another tenant under a free key is not offered. -/
theorem offersAlike_put {route : IngressRoute} (hfree : c.find? .ingressRoute route.key = none)
    (hother : route.labels.find? Labels.userId ≠ some user) :
    c.OffersAlike ns user (c.put route) := by
  have hfind (key : Key) : (c.put route).find? .ingressRoute key =
      if key = route.key then some route else c.find? .ingressRoute key :=
    SortedMap.find?_insert _ _ _ _
  intro key r
  constructor
  · rintro ⟨hstored, hns, hmade, htenant⟩
    refine ⟨?_, hns, hmade, htenant⟩
    rw [hfind, if_neg, hstored]
    rintro rfl
    rw [hfree] at hstored
    cases hstored
  · rintro ⟨hstored, hns, hmade, htenant⟩
    rw [hfind] at hstored
    split at hstored
    · cases hstored
      exact absurd htenant hother
    · exact ⟨hstored, hns, hmade, htenant⟩

end Lists

/-- What a rule answers when a list is asked for does not depend on the selector. -/
theorem Rule.answer?_list (rule : Rule) (k : Kind) (ns : String) :
    (∀ selector, rule.answer? (.list k ns selector) = none) ∨
      (∃ failure, ∀ selector, rule.answer? (.list k ns selector) = some (.error failure)) ∨
      ∃ r, ∀ selector, rule.answer? (.list k ns selector) = some (.ok [r]) := by
  obtain ⟨verb, kind, name, skip, times, delayMs, disturbance⟩ := rule
  by_cases hk : kind = k
  · subst hk
    have hsame (selector : Selector) : kind = (Call.list kind ns selector).kind := rfl
    cases disturbance with
    | letPass => exact .inl fun selector => dif_pos (hsame selector)
    | fail failure => exact .inr (.inl ⟨failure, fun selector => dif_pos (hsame selector)⟩)
    | substitute r => exact .inr (.inr ⟨r, fun selector => dif_pos (hsame selector)⟩)
  · exact .inl fun selector => dif_neg hk

end Cluster

namespace World

/-- Worlds with the same rules and the same clock answer a call alike if their clusters do. -/
theorem call_eq_of_answer_eq {w w' : World} {call : Call} {deadline : Instant}
    (hrules : w.rules = w'.rules) (hclock : w.clock = w'.clock)
    (hanswer : (w.cluster.answer call).1 = (w'.cluster.answer call).1) :
    (w.call call deadline).1 = (w'.call call deadline).1 := by
  unfold World.call
  rw [hrules]
  obtain ⟨rule?, rules⟩ := Cluster.Rule.apply w'.rules call
  simp only [World.answer, hclock]
  split
  · rfl
  · split
    · rfl
    · exact hanswer

theorem answer_list (w : World) (rule? : Option Cluster.Rule) {k : Kind} {ns : String}
    {selector : Selector} {deadline : Instant} {listed : List (Resource k)}
    (h : (w.answer rule? (.list k ns selector) deadline).1 = .ok listed) :
    listed = w.cluster.list k ns selector ∨ ∃ r, listed = [r] ∧
      ∀ selector', (w.answer rule? (.list k ns selector') deadline).1 = .ok [r] := by
  cases rule? with
  | none => exact .inl (Except.ok.inj h).symm
  | some rule =>
    simp only [World.answer, Option.map_some, Option.getD_some, Option.bind_some] at h ⊢
    split at h
    · cases h
    next hintime =>
    simp only [if_neg hintime]
    rcases rule.answer?_list k ns with hnone | ⟨failure, hfail⟩ | ⟨r, hone⟩
    · rw [hnone selector] at h
      exact .inl (Except.ok.inj h).symm
    · rw [hfail selector] at h
      cases h
    · rw [hone selector] at h
      refine .inr ⟨r, (Except.ok.inj h).symm, fun selector' => ?_⟩
      rw [hone selector']

/-- A list comes from the cluster, or else from a rule, which does not look at the selector. -/
theorem list_from (w : World) {k : Kind} {ns : String} {selector : Selector} {deadline : Instant}
    {listed : List (Resource k)} (h : (w.call (.list k ns selector) deadline).1 = .ok listed) :
    listed = w.cluster.list k ns selector ∨ ∃ r, listed = [r] ∧
      ∀ selector', (w.call (.list k ns selector') deadline).1 = .ok [r] := by
  have hconcerns (selector' : Selector) (r : Cluster.Rule) :
      r.concerns (.list k ns selector') = r.concerns (.list k ns selector) := rfl
  have hcall (selector' : Selector) : w.call (.list k ns selector') deadline =
      { w with rules := (Cluster.Rule.apply w.rules (.list k ns selector)).2 }.answer
        (Cluster.Rule.apply w.rules (.list k ns selector)).1 (.list k ns selector') deadline := by
    rw [← Cluster.Rule.apply_congr (hconcerns selector') w.rules]
    rfl
  simp only [hcall] at h ⊢
  exact answer_list _ _ h

end World

namespace Http
open Endpoint

/-- A request asks on behalf of a tenant which endpoints a namespace has, or how many. -/
def Enumerates (ns user : String) (request : Request) : Prop :=
  (Operation.select? request.method request.target.path = some (.list ns) ∨
    Operation.select? request.method request.target.path = some (.count ns)) ∧
  request.userId? = some user

/-- A response counts some routes, or counts them and shows a page of them. -/
def TellsOf (routes : List IngressRoute) (response : Response) : Prop :=
  response.totalCount = some routes.length ∧
    (response.body = some (.object [("count", .integer routes.length)]) ∨
      ∃ query : ListQuery, response.body = some (.array
        (((query.paginate routes).map fun route => View.ofRoute route none).map View.toJson)))

theorem play_failed (answerer : Answerer σ) (failure : Failure) (s : σ) :
    ((failed failure).play answerer s).value = responseOf (.error failure) := by
  unfold failed
  split <;> rfl

theorem play_ok_respond (answerer : Answerer σ) (a : Attempt Response) (s : σ) :
    ((Except.ok <$> respond a : Program (Except ReadFault Response)).play answerer s).value =
      .ok (responseOf (a.run.play answerer s).value) := by
  simp only [Program.map_eq_bind, respond, Program.play_bind]
  cases hvalue : (a.run.play answerer s).value with
  | ok response => rfl
  | error failure => exact congrArg Except.ok (play_failed answerer failure _)

/-- What is asked for is attempted after the time of arrival has been looked at. -/
theorem play_serve_of_demand {config : Config} {timeoutMs : Nat} {request : Request}
    {demand : Demand} (h : Demand.ofRequest request = .ok demand) (answerer : Answerer σ) (s : σ) :
    let (arrival, s') := answerer s .now
    ((serve config timeoutMs request).play answerer s).value =
      .ok (responseOf ((demand.attempt config (arrival + timeoutMs)).run.play answerer s').value) := by
  rw [serve_of_demand h]
  exact play_ok_respond answerer _ _

section Enumerate
variable {config : Config} {timeoutMs : Nat} {request : Request} {ns user : String}

theorem AsksForList.value_eq {selector : Selector} {deadline : Instant}
    {tell : List IngressRoute → Response} {a : Attempt Response}
    (h : AsksForList ns selector deadline tell a) (answerer : Answerer σ) (s : σ) :
    (a.run.play answerer s).value =
      (answerer s (.call (.list .ingressRoute ns selector) deadline)).1.map tell := by
  rw [h]
  rfl

/-- The tenant's routes are asked for, and the response tells of the list. -/
theorem asksForList_attempt (config : Config) {demand : Demand}
    (h : (∃ query, demand = .list ns user query) ∨ demand = .count ns user) :
    ∃ f : ListFilter, f.userId = some user ∧ ∃ tell, (∀ routes, TellsOf routes (tell routes)) ∧
      ∀ deadline, AsksForList ns f.selector deadline tell (demand.attempt config deadline) := by
  rcases h with ⟨query, rfl⟩ | rfl
  · exact ⟨filterOf user query, rfl, listing query, fun _ => ⟨rfl, .inr ⟨query, rfl⟩⟩,
      asksForList_list ns user query⟩
  · exact ⟨{ userId := some user }, rfl, counting, fun _ => ⟨rfl, .inl rfl⟩,
      asksForList_count ns user⟩

/-- Either a query is not understood, or one list of the tenant's routes is asked for. -/
theorem enumerates_cases (config : Config) (timeoutMs : Nat) (h : Enumerates ns user request) :
    (∃ failure, ∀ s w, ((serve config timeoutMs request).run s w).value =
        .ok (responseOf (.error failure))) ∨
      ∃ f : ListFilter, f.userId = some user ∧ ∃ tell, (∀ routes, TellsOf routes (tell routes)) ∧
        ∀ s w, ((serve config timeoutMs request).run s w).value = .ok (responseOf
          ((w.call (.list .ingressRoute ns f.selector) (w.clock + timeoutMs)).1.map tell)) := by
  obtain ⟨hoperation, huser⟩ := h
  have hasks {demand : Demand} (hdemand : Demand.ofRequest request = .ok demand)
      (h : (∃ query, demand = .list ns user query) ∨ demand = .count ns user) :
      ∃ f : ListFilter, f.userId = some user ∧ ∃ tell, (∀ routes, TellsOf routes (tell routes)) ∧
        ∀ s w, ((serve config timeoutMs request).run s w).value = .ok (responseOf
          ((w.call (.list .ingressRoute ns f.selector) (w.clock + timeoutMs)).1.map tell)) := by
    obtain ⟨f, hf, tell, htell, hasks⟩ := asksForList_attempt config h
    refine ⟨f, hf, tell, htell, fun s w => ?_⟩
    rw [Program.run_value_eq_play]
    refine (play_serve_of_demand hdemand (World.answerer s) w).trans ?_
    exact congrArg (fun outcome => Except.ok (responseOf outcome))
      ((hasks (w.clock + timeoutMs)).value_eq (World.answerer s) w)
  rcases hoperation with hlist | hcount
  · cases hquery : ListQuery.read request.target.query with
    | error reason =>
      refine .inl ⟨.invalid reason, fun s w => ?_⟩
      have hserve : serve config timeoutMs request = .step .now fun _ =>
          .ok <$> failed (.invalid reason) := by
        simp only [serve, hlist, huser, serveOperation, hquery]
        rfl
      rw [hserve]
      exact congrArg Except.ok (run_failed (.invalid reason) s w).1
    | ok query =>
      refine .inr (hasks ?_ (.inl ⟨query, rfl⟩))
      simp only [Demand.ofRequest, hlist, huser, Demand.ofOperation, hquery]
  · refine .inr (hasks ?_ (.inr rfl))
    simp only [Demand.ofRequest, hcount, huser, Demand.ofOperation]

/-- A tenant is told the same of two clusters that offer the same to the tenant, under the same
rules and at the same time, whatever else they have. And a successful answer tells of the
tenant's routes only, unless a rule answers with one route in the place of the cluster, which
it does whatever is asked for. -/
theorem listing_noninterference (config : Config) (timeoutMs : Nat) (s s' : Surroundings)
    (w w' : World) (h : Enumerates ns user request) (hrules : w.rules = w'.rules)
    (hclock : w.clock = w'.clock) (hoffers : w.cluster.OffersAlike ns user w'.cluster) :
    let answer := ((serve config timeoutMs request).run s w).value
    answer = ((serve config timeoutMs request).run s' w').value ∧
      ∃ response, answer = .ok response ∧ (response.status = 200 → ∃ routes,
        TellsOf routes response ∧
        ((∀ route ∈ routes, ∃ key, w.cluster.Offers ns user key route) ∨
          ∃ route, routes = [route] ∧ ∀ selector,
            (w.call (.list .ingressRoute ns selector) (w.clock + timeoutMs)).1 = .ok [route])) := by
  intro answer
  have hne : user ≠ "" := userId_ne_empty h.2
  rcases enumerates_cases config timeoutMs h with ⟨failure, hvalue⟩ | ⟨f, hf, tell, htell, hvalue⟩
  · refine ⟨(hvalue s w).trans (hvalue s' w').symm, _, hvalue s w, fun hstatus => ?_⟩
    have hfails := le_status_error failure
    omega
  have hlists := Cluster.list_eq_of_offersAlike hoffers hf hne
  have hcall : (w.call (.list .ingressRoute ns f.selector) (w.clock + timeoutMs)).1 =
      (w'.call (.list .ingressRoute ns f.selector) (w'.clock + timeoutMs)).1 := by
    rw [← hclock]
    exact World.call_eq_of_answer_eq hrules hclock (congrArg Except.ok hlists)
  refine ⟨?_, _, hvalue s w, fun hstatus => ?_⟩
  · calc answer = _ := hvalue s w
      _ = _ := by rw [hcall]
      _ = _ := (hvalue s' w').symm
  · cases hlisted : (w.call (.list .ingressRoute ns f.selector) (w.clock + timeoutMs)).1 with
    | error failure =>
      rw [hlisted] at hstatus
      have hfails := le_status_error failure
      have hsame : (responseOf (.error failure)).status = 200 := hstatus
      omega
    | ok routes =>
      refine ⟨routes, htell routes, ?_⟩
      rcases w.list_from hlisted with rfl | hrule
      · exact .inl fun route hroute => Cluster.offers_of_mem_list hf hne hroute
      · exact .inr hrule

/-- A route of `bob` makes no difference to what `alice` is told. -/
theorem alice_listed_alike :
    let config := Specimen.config
    let s := Specimen.plain
    let request :=
      { Specimen.request "GET" "" "alice" "" with target.query := some "limit=1&user-id=bob" }
    let w : World := { cluster := ({} : Cluster).put (Specimen.route "one" "alice") }
    let w' : World := { cluster := w.cluster.put (Specimen.route "two" "bob") }
    let answer := ((serve config 1000 request).run s w).value
    Enumerates "default" "alice" request ∧ w.rules = w'.rules ∧ w.clock = w'.clock ∧
      w.cluster.OffersAlike "default" "alice" w'.cluster ∧
      answer = ((serve config 1000 request).run s w').value ∧
      answer.toOption.map Response.text = some "[\x7b\"name\":\"one\",\"routes\":[]\x7d]" := by
  intro config s request w w' answer
  have henumerates : Enumerates "default" "alice" request :=
    ⟨.inl (by decide +kernel), by decide +kernel⟩
  have hoffers : w.cluster.OffersAlike "default" "alice" w'.cluster :=
    Cluster.offersAlike_put rfl (by decide +kernel)
  obtain ⟨hanswer, _⟩ := listing_noninterference config 1000 s s w w' henumerates rfl rfl hoffers
  have htext : answer.toOption.map Response.text =
      some "[\x7b\"name\":\"one\",\"routes\":[]\x7d]" := by decide +kernel
  exact ⟨henumerates, rfl, rfl, hoffers, hanswer, htext⟩

end Enumerate

end Http

end TenantEndpoints
