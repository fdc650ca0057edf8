import TenantEndpoints.Proofs.Cluster.Annals
import TenantEndpoints.Proofs.Http.Exchange
import TenantEndpoints.Proofs.Specimen

/-!
# What is told of other tenants' routes

A tenant who asks to see or to delete the route of another is answered as if there
were none: with the same status, the same headers, and without a trace in the
cluster. Only the text differs, because it names the route without its namespace
where a cluster names what it does not have with it. The two runs are compared on
one world around two clusters.
-/
namespace TenantEndpoints.Http
open Endpoint

/-- Something is asked for that begins with looking for a route of the tenant. -/
inductive LooksUp (ns name user : String) : Demand → Prop
  | get : LooksUp ns name user (.get ns name user)
  | delete : LooksUp ns name user (.delete ns name user)

section Lookup
variable {config : Config} {timeoutMs : Nat} {request : Request} {demand : Demand}
  {ns name user : String} {s : Surroundings} {w : World}

theorem LooksUp.attempt_eq (h : LooksUp ns name user demand) (config : Config)
    (deadline : Instant) :
    ∃ rest : IngressRoute → Program (Except Failure Response),
      (demand.attempt config deadline).run =
        .step (.call (.get .ingressRoute ns name) deadline) fun found =>
          match visible name user found with
          | .error failure => .done (.error failure)
          | .ok route => rest route := by
  cases h with
  | get => exact ⟨_, run_ownedRoute_bind ..⟩
  | delete => exact ⟨_, run_ownedRoute_bind ..⟩

theorem run_failed (failure : Failure) (s : Surroundings) (w : World) :
    ((failed failure).run s w).value = responseOf (.error failure) ∧
      ((failed failure).run s w).world = w := by
  unfold failed
  split <;> exact ⟨rfl, rfl⟩

theorem run_ok_respond {a : Attempt Response} {failure : Failure} {w' : World}
    (hvalue : (a.run.run s w).value = .error failure) (hworld : (a.run.run s w).world = w') :
    let run := (Except.ok <$> respond a : Program (Except ReadFault Response)).run s w
    run.value = .ok (responseOf (.error failure)) ∧ run.world = w' := by
  obtain ⟨hresponse, hsame⟩ := run_failed failure s w'
  simp only [Program.map_eq_bind, respond, Program.run_bind, hvalue, hworld, hresponse, hsame,
    Program.run_done, and_self]

/-- If the lookup shows no route of the tenant, the request has come to its end with it. -/
theorem run_serve_of_hidden (hdemand : Demand.ofRequest request = .ok demand)
    (hlooks : LooksUp ns name user demand) {failure : Failure} {outcome : Except Failure IngressRoute}
    {w' : World} (hcall : w.call (.get .ingressRoute ns name) (w.clock + timeoutMs) = (outcome, w'))
    (hhidden : visible name user outcome = .error failure) :
    ((serve config timeoutMs request).run s w).value = .ok (responseOf (.error failure)) ∧
      ((serve config timeoutMs request).run s w).world = w' := by
  obtain ⟨rest, hattempt⟩ := hlooks.attempt_eq config (w.clock + timeoutMs)
  have hrun : ((demand.attempt config (w.clock + timeoutMs)).run.run s w).value = .error failure ∧
      ((demand.attempt config (w.clock + timeoutMs)).run.run s w).world = w' := by
    rw [hattempt]
    simp only [Program.run, World.perform, hcall, hhidden, and_self]
  rw [serve_of_demand hdemand]
  exact run_ok_respond hrun.1 hrun.2

end Lookup

/-- What a lookup is answered on every cluster is a failure: an empty cluster has no route to
answer with. -/
theorem failure_of_everywhere {w w' : World} (hrules : ∀ r ∈ w.rules, r.OnlyDisturbs)
    {ns name : String} {deadline : Instant} {outcome : Except Failure IngressRoute}
    (hcall : ∀ c, (w.around c).call (.get .ingressRoute ns name) deadline =
      (outcome, w'.around c)) : ∃ failure, outcome = .error failure := by
  have hmeets := (World.meets_call (w := w.around {}) (fun r hr => (hrules r hr).keeps)
    (.get .ingressRoute ns name) deadline).1
  rw [hcall {}] at hmeets
  rcases (Cluster.meets_get hmeets).2 with ⟨r, _, hr⟩ | ⟨failure, he, _⟩
  · cases hr
  · exact ⟨failure, he⟩

/-- The two texts never agree, because only one has the namespace. -/
theorem message_absent_ne (ns name : String) :
    (Failure.absent .ingressRoute ns name).message ≠
      (Failure.notFound Kind.ingressRoute.name name).message := by
  intro he
  have hid : resourceId ns name = name :=
    (String.append_right_inj _).1 ((String.append_left_inj _).1 he)
  have hlength := congrArg (fun t => t.toList.length) hid
  simp only [resourceId, String.toList_append, List.length_append] at hlength
  have hslash : "/".toList.length = 1 := rfl
  omega

/-- Where there is a route of another tenant, a request to see or to delete it changes
nothing. It is answered with the status and the headers with which it is answered where there is
none. If a rule fails the lookup, the two answers are the same. Otherwise the first
names the route without its namespace and the second with it. -/
theorem foreign_route_hidden_but_for_text (config : Config) (timeoutMs : Nat) (request : Request)
    (s : Surroundings) (w : World) {demand : Demand} {ns name user : String}
    (hdemand : Demand.ofRequest request = .ok demand) (hlooks : LooksUp ns name user demand)
    (hrules : ∀ r ∈ w.rules, r.OnlyDisturbs) {route : IngressRoute}
    (hroute : w.cluster.find? .ingressRoute ⟨ns, name⟩ = some route)
    (hforeign : isOwnedBy route user = false) {c : Cluster}
    (hc : c.find? .ingressRoute ⟨ns, name⟩ = none) :
    let there := (serve config timeoutMs request).run s w
    let absent := (serve config timeoutMs request).run s (w.around c)
    there.world.cluster = w.cluster ∧ absent.world = there.world.around c ∧
      ∃ r r' : Response, there.value = .ok r ∧ absent.value = .ok r' ∧
        r.status = r'.status ∧ r.headers = r'.headers ∧
        ((∃ failure, (w.call (.get .ingressRoute ns name) (w.clock + timeoutMs)).1 =
              .error failure ∧ r = responseOf (.error failure) ∧ r' = r) ∨
          r.body = some (.object [("error",
              .string (Failure.notFound Kind.ingressRoute.name name).message)]) ∧
            r'.body = some (.object [("error",
              .string (Failure.absent .ingressRoute ns name).message)]) ∧ r ≠ r') := by
  intro there absent
  have hworlds {w' : World} (hthere : there.world = w'.around w.cluster)
      (habsent : absent.world = w'.around c) :
      there.world.cluster = w.cluster ∧ absent.world = there.world.around c := by
    rw [hthere, habsent]
    exact ⟨rfl, rfl⟩
  obtain ⟨w', ⟨outcome, hcall⟩ | hcall⟩ :=
    w.call_around (.get .ingressRoute ns name) (w.clock + timeoutMs)
  · obtain ⟨failure, rfl⟩ := failure_of_everywhere hrules hcall
    have hthere : w.call (.get .ingressRoute ns name) (w.clock + timeoutMs) =
        (.error failure, w'.around w.cluster) := hcall w.cluster
    obtain ⟨hvalue, hworld⟩ := run_serve_of_hidden hdemand hlooks hthere rfl
    obtain ⟨hvalue', hworld'⟩ := run_serve_of_hidden hdemand hlooks (hcall c) rfl
    obtain ⟨hkept, halike⟩ := hworlds hworld hworld'
    exact ⟨hkept, halike, _, _, hvalue, hvalue', rfl, rfl,
      .inl ⟨failure, congrArg Prod.fst hthere, rfl, rfl⟩⟩
  · have hfound : w.cluster.get .ingressRoute ns name = .ok route := by
      simp only [Cluster.get, hroute]
    have hmissing : c.get .ingressRoute ns name = .error (.absent .ingressRoute ns name) := by
      simp only [Cluster.get, hc]
    have hthere : w.call (.get .ingressRoute ns name) (w.clock + timeoutMs) =
        (.ok route, w'.around w.cluster) := by
      rw [← hfound]
      exact hcall w.cluster
    have habsent : (w.around c).call (.get .ingressRoute ns name) (w.clock + timeoutMs) =
        (.error (.absent .ingressRoute ns name), w'.around c) := by
      rw [← hmissing]
      exact hcall c
    have hhidden : visible name user (.ok route) =
        .error (.notFound Kind.ingressRoute.name name) := by
      simp [visible, hforeign]
    obtain ⟨hvalue, hworld⟩ := run_serve_of_hidden hdemand hlooks hthere hhidden
    obtain ⟨hvalue', hworld'⟩ := run_serve_of_hidden hdemand hlooks habsent rfl
    obtain ⟨hkept, halike⟩ := hworlds hworld hworld'
    refine ⟨hkept, halike, _, _, hvalue, hvalue', rfl, rfl, .inr ⟨rfl, rfl, fun he => ?_⟩⟩
    simp only [responseOf, Response.ofError, Response.mk.injEq, Option.some.injEq,
      Json.object.injEq, List.cons.injEq, Prod.mk.injEq, Json.string.injEq] at he
    exact message_absent_ne ns name he.2.2.1.2.symm

/-- A tenant asks for the deletion of another's route. -/
theorem foreign_route_hidden_from_bob :
    let request := Specimen.request "DELETE" "/one" "bob" ""
    let route := Specimen.route "one" "alice"
    let w : World := { cluster := ({} : Cluster).put route }
    let there := (serve Specimen.config 1000 request).run Specimen.plain w
    let absent := (serve Specimen.config 1000 request).run Specimen.plain (w.around {})
    Demand.ofRequest request = .ok (.delete "default" "one" "bob") ∧
      (∀ r ∈ w.rules, r.OnlyDisturbs) ∧
      w.cluster.find? .ingressRoute ⟨"default", "one"⟩ = some route ∧
      isOwnedBy route "bob" = false ∧ there.world.cluster = w.cluster ∧
      ∃ r r' : Response, there.value = .ok r ∧ absent.value = .ok r' ∧ r.status = r'.status ∧
        r.headers = r'.headers := by
  intro request route w there absent
  have hoperation : Operation.select? request.method request.target.path =
      some (.delete "default" "one") := by decide +kernel
  have hdemand : Demand.ofRequest request = .ok (.delete "default" "one" "bob") :=
    Demand.ofRequest_eq hoperation (by decide +kernel)
  have hrules : ∀ r ∈ w.rules, r.OnlyDisturbs := fun _ hr => nomatch hr
  have hroute : w.cluster.find? .ingressRoute ⟨"default", "one"⟩ = some route := rfl
  have hforeign : isOwnedBy route "bob" = false := Specimen.isOwnedBy_route "one" "alice" "bob"
  have hmissing : ({} : Cluster).find? .ingressRoute ⟨"default", "one"⟩ = none := rfl
  obtain ⟨hkept, _, r, r', hr, hr', hstatus, hheaders, _⟩ :=
    foreign_route_hidden_but_for_text Specimen.config 1000 request Specimen.plain w hdemand .delete
      hrules hroute hforeign hmissing
  exact ⟨hdemand, hrules, hroute, hforeign, hkept, r, r', hr, hr', hstatus, hheaders⟩

/-- The texts of the responses with and without another tenant's route tell them apart. -/
theorem foreign_route_told_by_text :
    let request := Specimen.request "GET" "/one" "bob" ""
    let route := Specimen.route "one" "alice"
    let c := ({} : Cluster).put route
    let text (c : Cluster) : Option String :=
      ((serve Specimen.config 1000 request).run Specimen.plain { cluster := c }).value.toOption.map
        Response.text
    c.find? .ingressRoute ⟨"default", "one"⟩ = some route ∧ isOwnedBy route "bob" = false ∧
      text c = some "\x7b\"error\":\"IngressRoute one not found\"\x7d" ∧
      text (c.without route.key route) =
        some "\x7b\"error\":\"IngressRoute default/one not found\"\x7d" := by
  intro request route c text
  exact ⟨rfl, Specimen.isOwnedBy_route "one" "alice" "bob", by decide +kernel, by decide +kernel⟩

end TenantEndpoints.Http
