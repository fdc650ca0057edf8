import TenantEndpoints.Endpoint.Provision
import TenantEndpoints.Proofs.Endpoint.Calm
import TenantEndpoints.Proofs.Endpoint.Naming
import TenantEndpoints.Proofs.Http.Representation
import TenantEndpoints.Proofs.Specimen

/-!
# The API refines a table

Each operation on a cluster that represents a table answers as the table does and
leaves a cluster that represents the table after it; so do requests, and all
requests one after the other.
-/
namespace TenantEndpoints.Http

open Endpoint

theorem reply_error {failure : Failure} {status : Nat} (h : statusOf failure.class = status)
    (hstatus : ¬ (200 ≤ status ∧ status < 300)) :
    Reply.ofResponse (responseOf (.error failure)) = { status } := by
  simp only [responseOf, Response.ofError, Reply.ofResponse, h, if_neg hstatus]

section Operations
variable {services : Store .service} {table : Table} {c c' : Cluster} {ports : PortFilter}
  {issued : View} {ns name user : String} {deadline : Instant} {t : List Exchange}
  {r : Except Failure Response}

theorem answers_list {query : ListQuery} (h : Represents services table c) (huser : user ≠ "")
    (hplays : (list ns user query deadline).run.Plays lookup t r) (hs : c.Serves .none t c') :
    (table.answer services ports issued (.list ns user query)).1 =
        Reply.ofResponse (responseOf r) ∧
      c' = c := by
  obtain ⟨listed, rfl, rfl⟩ := plays_list hplays
  obtain ⟨rfl, rfl⟩ := listed_eq hs
  refine ⟨?_, rfl⟩
  have hrows := map_list_eq h ns huser query
  have hlength := congrArg List.length hrows
  rw [List.length_map, List.length_map] at hlength
  have hviews := congrArg query.paginate hrows
  rw [← paginate_map, ← paginate_map] at hviews
  simp only [Table.answer, Except.map, responseOf, Reply.ofResponse, ← hviews, ← hlength,
    List.map_map, Function.comp_def]
  rfl

theorem answers_count (h : Represents services table c) (huser : user ≠ "")
    (hplays : (count ns user deadline).run.Plays lookup t r) (hs : c.Serves .none t c') :
    (table.answer services ports issued (.count ns user)).1 = Reply.ofResponse (responseOf r) ∧
      c' = c := by
  obtain ⟨listed, rfl, rfl⟩ := plays_count hplays
  obtain ⟨rfl, rfl⟩ := listed_eq hs
  refine ⟨?_, rfl⟩
  have hlength := congrArg List.length (map_list_eq h ns huser {})
  rw [List.length_map, List.length_map] at hlength
  simp only [Table.answer, Except.map, responseOf, Reply.ofResponse, ← hlength]
  rfl

theorem answers_get (h : Represents services table c)
    (hplays : (get ns name user deadline).run.Plays lookup t r) (hs : c.Serves .none t c') :
    (table.answer services ports issued (.get ns name user)).1 =
        Reply.ofResponse (responseOf r) ∧
      (table.answer services ports issued (.get ns name user)).2 = table ∧ c' = c := by
  obtain ⟨found, t', rfl, hrest⟩ := plays_get hplays
  obtain ⟨c₁, hs₁, hs₂⟩ := Cluster.serves_append (t := [_]).1 hs
  obtain ⟨rfl, hfound⟩ := visible_found h user hs₁
  simp only [Table.answer]
  cases hrow : table.owned? ⟨ns, name⟩ user with
  | none =>
    rw [hrow] at hfound
    obtain ⟨failure, hv, hclass⟩ := hfound
    rw [hv] at hrest
    obtain ⟨rfl, rfl⟩ := hrest
    refine ⟨(reply_error ?_ (by decide)).symm, rfl, hs₂⟩
    rw [hclass]
    rfl
  | some row =>
    rw [hrow] at hfound
    obtain ⟨route, hv, hroute, hshows⟩ := hfound
    rw [hv] at hrest
    obtain ⟨secret, rfl, rfl⟩ := hrest
    obtain ⟨rfl, credentials, hcredentials, hview⟩ := credentials_found h hroute hshows hs₂
    refine ⟨?_, rfl, rfl⟩
    dsimp only
    rw [hcredentials, hview]
    rfl

theorem answers_delete (h : Represents services table c)
    (hplays : (delete ns name user deadline).run.Plays lookup t r) (hs : c.Serves .none t c') :
    (table.answer services ports issued (.delete ns name user)).1 =
        Reply.ofResponse (responseOf r) ∧
      Represents services (table.answer services ports issued (.delete ns name user)).2 c' := by
  obtain ⟨found, t', rfl, hrest⟩ := plays_delete hplays
  obtain ⟨c₁, hs₁, hs₂⟩ := Cluster.serves_append (t := [_]).1 hs
  obtain ⟨rfl, hfound⟩ := visible_found h user hs₁
  simp only [Table.answer]
  cases hrow : table.owned? ⟨ns, name⟩ user with
  | none =>
    rw [hrow] at hfound
    obtain ⟨failure, hv, hclass⟩ := hfound
    rw [hv] at hrest
    obtain ⟨rfl, rfl⟩ := hrest
    obtain rfl : c' = c₁ := hs₂
    refine ⟨(reply_error ?_ (by decide)).symm, h⟩
    rw [hclass]
    rfl
  | some row =>
    rw [hrow] at hfound
    obtain ⟨route, hv, hroute, hshows⟩ := hfound
    rw [hv] at hrest
    obtain ⟨deleted, rfl, rfl⟩ := hrest
    obtain ⟨c₂, hdelete, rfl⟩ := hs₂
    rcases Cluster.meets_delete_route hdelete with ⟨_, _, _, hmay | ⟨hnone, _⟩⟩ | ⟨x, hx, he, rfl⟩
    · exact hmay.elim
    · rw [hroute] at hnone
      cases hnone
    · change deleted = .ok () at he
      refine ⟨?_, h.erase hx⟩
      rw [he]
      rfl

/-- A request is valid by what its name has to be, and by its namespace and its tenant. -/
theorem validate_requestOf_eq_ok_iff {body : CreateBody} :
    (requestOf ns user body).validate = .ok () ↔ isName body.name = true ∧ ns ≠ "" ∧ user ≠ "" := by
  simp [EndpointRequest.validate_eq_ok_iff, requestOf, isName, and_assoc]

theorem validate_of_isName {body : CreateBody} (hname : isName body.name = true) (hns : ns ≠ "")
    (huser : user ≠ "") : (requestOf ns user body).validate = .ok () :=
  validate_requestOf_eq_ok_iff.2 ⟨hname, hns, huser⟩

theorem validate_of_not_isName {body : CreateBody} (hname : isName body.name = false)
    (ns user : String) : ∃ reason, (requestOf ns user body).validate = .error reason := by
  cases hvalid : (requestOf ns user body).validate with
  | error reason => exact ⟨reason, rfl⟩
  | ok _ => exact absurd (validate_requestOf_eq_ok_iff.1 hvalid).1 (Bool.eq_false_iff.1 hname)

/-- What is shown of an endpoint that is not created. -/
def blank (body : CreateBody) : View :=
  { name := body.name
    protocol := none
    network := none
    kind := none
    createdAt := none
    ports := []
    basicAuth := if body.useBasicAuth then some ⟨"", ""⟩ else none }

/-- A failure that the table replies to with its status, and nothing done. -/
theorem refused (h : Represents services table c) {demand : Demand} {failure : Failure}
    {status : Nat} (hanswer : table.answer services ports issued demand = ({ status }, table))
    (hstatus : statusOf failure.class = status) (hbad : ¬ (200 ≤ status ∧ status < 300)) :
    (table.answer services ports issued demand).1 =
        Reply.ofResponse (responseOf (.error failure)) ∧
      Represents services (table.answer services ports issued demand).2 c := by
  rw [hanswer]
  exact ⟨(reply_error hstatus hbad).symm, h⟩

theorem blank_fits (body : CreateBody) :
    (blank body).name = body.name ∧ (blank body).basicAuth.isSome = body.useBasicAuth := by
  refine ⟨rfl, ?_⟩
  unfold blank
  cases body.useBasicAuth <;> rfl

section Create
variable {config : Config} {body : CreateBody} {domain : String}

/-- What is shown of an endpoint that is created under a free key is its row from then on. -/
theorem answers_begun {service : Service} {ids : List String} {owner : OwnerReference}
    {credentials : Credentials} {rs : List AnyResource} (h : Represents services table c)
    (hname : isName body.name = true)
    (hpresent : services.find? ⟨ns, body.serviceName⟩ = some service)
    (hne : config.ports.eligible service ≠ [])
    (hbegun : Begun config body.useBasicAuth
      (submission config (requestOf ns user body) service domain ids) c owner credentials rs c')
    (hchildren : (children body.useBasicAuth
      (c.made (submission config (requestOf ns user body) service domain ids)) owner
        credentials).Sublist rs) :
    let created : Created :=
      ⟨c.made (submission config (requestOf ns user body) service domain ids),
        if body.useBasicAuth then some credentials else none⟩
    let issued := View.ofRoute created.route created.credentials
    (issued.name = body.name ∧ issued.basicAuth.isSome = body.useBasicAuth) ∧
      (table.answer services config.ports issued (.create ns user body)).1 =
        Reply.ofResponse (shown created) ∧
      Represents services
        (table.answer services config.ports issued (.create ns user body)).2 c' := by
  intro created issued
  have hfree : table.find? ⟨ns, body.name⟩ = none := h.missing.2 hbegun.free
  have hanswer : table.answer services config.ports issued (.create ns user body) =
      ({ status := 201, body := some issued.toJson },
        table.insert ⟨ns, body.name⟩ ⟨user, issued⟩) := by
    simp [Table.answer, hname, hpresent, hne, hfree]
  have hinsert := h.insert hbegun hchildren
    (Labels.find?_ofEndpoint_userId service.labels user ∅)
    (Labels.find?_ofEndpoint_createdBy service.labels user ∅)
  refine ⟨⟨rfl, ?_⟩, ?_⟩
  · change (if body.useBasicAuth then some credentials else none).isSome = _
    cases body.useBasicAuth <;> rfl
  · rw [hanswer]
    exact ⟨rfl, hinsert⟩

/-- The creation of an endpoint in front of a service that is there. -/
theorem answers_endpoint {service : Service} {created : Except Failure Created}
    (h : Represents services table c) (hname : isName body.name = true)
    (hvalid : (requestOf ns user body).validate = .ok ())
    (hpresent : services.find? ⟨ns, body.serviceName⟩ = some service)
    (hplays : (Endpoint.create config (requestOf ns user body) service deadline).run.Plays
      (· = .ok domain) t created) (hs : c.Serves .none t c') :
    ∃ issued : View,
      (issued.name = body.name ∧ issued.basicAuth.isSome = body.useBasicAuth) ∧
      (table.answer services config.ports issued (.create ns user body)).1 =
        Reply.ofResponse (responseOf (created.map shown)) ∧
      Represents services
        (table.answer services config.ports issued (.create ns user body)).2 c' := by
  rcases Endpoint.plays_create hplays with
    ⟨failure, rfl, rfl, hrefusal | ⟨_, hdomain⟩⟩ | ⟨domain', ids, hrefusal, hids, hsaga⟩
  · obtain rfl : c' = c := hs
    have hnil : config.ports.eligible service = [] := by
      apply Classical.byContradiction
      intro hne
      rw [(refusal?_eq_none_iff hvalid).2 hne] at hrefusal
      cases hrefusal
    have hfailure : failure = .invalid (.noEligiblePorts service.displayName) := by
      simpa [refusal?, hvalid, hnil] using hrefusal.symm
    have hanswer : table.answer services config.ports (blank body) (.create ns user body) =
        ({ status := 400 }, table) := by
      simp [Table.answer, hname, hpresent, hnil]
    rw [hfailure]
    exact ⟨blank body, blank_fits body, refused h hanswer rfl (by decide)⟩
  · cases hdomain
  · have hne := (refusal?_eq_none_iff hvalid).1 hrefusal
    rcases saga_calm hsaga hs (Option.some_ne_none body.name) h.owned
        (exempts_underived config.shared) with
      ⟨hfound, rfl, rfl⟩ | ⟨owner, credentials, rs, hbegun, hchildren, rfl⟩
    · obtain ⟨route, hroute⟩ := Option.ne_none_iff_exists'.1 hfound
      obtain ⟨row, hrow, _⟩ := h.exists_row hroute
      have hrow' : table.find? ⟨ns, body.name⟩ = some row := hrow
      have hanswer : table.answer services config.ports (blank body) (.create ns user body) =
          ({ status := 409 }, table) := by
        simp [Table.answer, hname, hpresent, hne, hrow']
      exact ⟨blank body, blank_fits body, refused h hanswer rfl (by decide)⟩
    · exact ⟨_, answers_begun h hname hpresent hne hbegun hchildren⟩

theorem answers_create (h : Represents services table c) (hns : ns ≠ "") (huser : user ≠ "")
    (hplays : (create config ns user body deadline).run.Plays (· = .ok domain) t r)
    (hs : c.Serves .none t c') :
    ∃ issued : View,
      (issued.name = body.name ∧ issued.basicAuth.isSome = body.useBasicAuth) ∧
      (table.answer services config.ports issued (.create ns user body)).1 =
        Reply.ofResponse (responseOf r) ∧
      Represents services
        (table.answer services config.ports issued (.create ns user body)).2 c' := by
  have hrest := plays_create hplays
  cases hname : isName body.name with
  | false =>
    obtain ⟨reason, hvalid⟩ := validate_of_not_isName hname ns user
    rw [hvalid] at hrest
    obtain ⟨rfl, rfl⟩ := hrest
    obtain rfl : c' = c := hs
    have hanswer : table.answer services config.ports (blank body) (.create ns user body) =
        ({ status := 400 }, table) := by
      simp [Table.answer, hname]
    exact ⟨blank body, blank_fits body, refused h hanswer rfl (by decide)⟩
  | true =>
    have hvalid := validate_of_isName hname hns huser
    rw [hvalid] at hrest
    obtain ⟨found, t', rfl, hrest⟩ := hrest
    obtain ⟨c₁, hget, hs⟩ := hs
    obtain ⟨rfl, hfound⟩ := Cluster.meets_get hget
    rcases hfound with ⟨service, he, hservice⟩ | ⟨failure, he, hmay | ⟨hnone, hf⟩⟩
    · change found = .ok service at he
      rw [he] at hrest
      obtain ⟨created, hcreate, rfl⟩ := hrest
      have hpresent : services.find? ⟨ns, body.serviceName⟩ = some service := by
        rw [← h.services]
        exact hservice
      exact answers_endpoint h hname hvalid hpresent hcreate hs
    · exact hmay.elim
    · change found = .error failure at he
      rw [he] at hrest
      obtain ⟨rfl, rfl⟩ := hrest
      obtain rfl : c' = c₁ := hs
      have habsent : services.find? ⟨ns, body.serviceName⟩ = none := by
        rw [← h.services]
        exact hnone
      have hanswer : table.answer services config.ports (blank body) (.create ns user body) =
          ({ status := 404 }, table) := by
        simp [Table.answer, hname, habsent]
      rw [hf]
      exact ⟨blank body, blank_fits body, refused h hanswer rfl (by decide)⟩

end Create

end Operations

/-- The cluster alone answers the calls of a request. -/
structure Undisturbed (config : Config) (timeoutMs : Nat) (s : Surroundings) (w : World)
    (request : Request) : Prop where
  serves : w.cluster.Serves .none ((serve config timeoutMs request).exchanges s w)
    ((serve config timeoutMs request).run s w).world.cluster

section Serve
variable {config : Config} {services : Store .service} {table : Table} {domain : String}

/-- What is done for a demand is what the table replies to it. -/
theorem answers {c c' : Cluster} {demand : Demand} {deadline : Instant} {t : List Exchange}
    {r : Except Failure Response} (h : Represents services table c) (hns : demand.ns ≠ "")
    (huser : demand.user ≠ "")
    (hplays : (demand.attempt config deadline).run.Plays (· = .ok domain) t r)
    (hs : c.Serves .none t c') :
    ∃ issued : View,
      (∀ ns user body, demand = .create ns user body →
        issued.name = body.name ∧ issued.basicAuth.isSome = body.useBasicAuth) ∧
      (table.answer services config.ports issued demand).1 = Reply.ofResponse (responseOf r) ∧
      Represents services (table.answer services config.ports issued demand).2 c' := by
  have nothing : View := blank ⟨"", "", false⟩
  cases demand with
  | create ns user body =>
    obtain ⟨issued, hissued, hreply, hafter⟩ := answers_create h hns huser hplays hs
    refine ⟨issued, ?_, hreply, hafter⟩
    rintro _ _ _ ⟨⟩
    exact hissued
  | list ns user query =>
    obtain ⟨hreply, rfl⟩ := answers_list h huser hplays hs
    exact ⟨nothing, fun _ _ _ he => (nomatch he), hreply, h⟩
  | count ns user =>
    obtain ⟨hreply, rfl⟩ := answers_count h huser hplays hs
    exact ⟨nothing, fun _ _ _ he => (nomatch he), hreply, h⟩
  | get ns name user =>
    obtain ⟨hreply, htable, rfl⟩ := answers_get h hplays hs
    refine ⟨nothing, fun _ _ _ he => (nomatch he), hreply, ?_⟩
    rw [htable]
    exact h
  | delete ns name user =>
    obtain ⟨hreply, hafter⟩ := answers_delete h hplays hs
    exact ⟨nothing, fun _ _ _ he => (nomatch he), hreply, hafter⟩

/-- A request whose calls the cluster alone answers is replied to as the table replies, and
leaves a cluster that represents the table after it. -/
theorem serves_request {s : Surroundings} {w : World} (h : Represents services table w.cluster)
    (hdomain : s.domain = .ok domain) {timeoutMs : Nat} {request : Request}
    (hserves : Undisturbed config timeoutMs s w request) :
    let run := (serve config timeoutMs request).run s w
    ∃ issued, Issues request issued ∧
      run.value.map Reply.ofResponse = (table.serve services config.ports issued request).1 ∧
      Represents services (table.serve services config.ports issued request).2 run.world.cluster := by
  intro run
  obtain ⟨hserves⟩ := hserves
  have hplays : (serve config timeoutMs request).Plays (· = .ok domain)
      ((serve config timeoutMs request).exchanges s w) run.value :=
    Program.plays_run hdomain (serve config timeoutMs request) w
  replace hplays := plays_serve hplays
  unfold Issues Table.serve
  cases hd : Demand.ofRequest request with
  | error response =>
    rw [hd] at hplays
    obtain ⟨hnothing, hvalue⟩ := hplays
    rw [hnothing] at hserves
    have hsame : run.world.cluster = w.cluster := hserves
    refine ⟨blank ⟨"", "", false⟩, fun _ _ _ he => (nomatch he), ?_, ?_⟩
    · exact congrArg _ hvalue
    · rw [hsame]
      exact h
  | ok demand =>
    rw [hd] at hplays
    obtain ⟨deadline, outcome, hplays, hvalue⟩ := hplays
    obtain ⟨hns, huser⟩ := Demand.ne_empty hd
    obtain ⟨issued, hissued, hreply, hafter⟩ := answers h hns huser hplays hserves
    refine ⟨issued, fun ns user body he => hissued ns user body (Except.ok.inj he), ?_, hafter⟩
    calc run.value.map Reply.ofResponse
        = .ok (Reply.ofResponse (responseOf outcome)) := congrArg _ hvalue
      _ = .ok (table.answer services config.ports issued demand).1 := by rw [hreply]

/-- Requests that are served one after the other are replied to as the table replies. -/
theorem tabled_session {s : Surroundings} (hdomain : s.domain = .ok domain) (timeoutMs : Nat)
    (requests : List Request) {w : World} (h : Represents services table w.cluster)
    (hrules : ∀ r ∈ w.rules, r.Keeps .none) :
    Tabled services config.ports table requests
      ((session config timeoutMs s requests w).map (Except.map Reply.ofResponse)) := by
  induction requests generalizing table w with
  | nil => exact .nil table
  | cons request requests ih =>
    obtain ⟨_, hserves, hkeep⟩ :=
      World.serves_run (· = .ok domain) hdomain (serve config timeoutMs request) hrules
    obtain ⟨issued, hissued, hreply, hafter⟩ := serves_request h hdomain ⟨hserves⟩
    have hrest := Tabled.cons issued hissued (ih hafter hkeep)
    rw [← hreply] at hrest
    exact hrest

end Serve

/-- From a cluster with any services and middlewares of others, but no endpoints,
all requests of all tenants are replied to as a table of endpoints replies. -/
theorem api_refines_table (config : Config) (timeoutMs : Nat) (random : RandomSource)
    {domain : String} (hdomain : domain ≠ "") (requests : List Request) (w : World)
    (hrules : w.rules = []) (hstart : Endpointless w.cluster) :
    Tabled w.cluster.services config.ports ∅ requests
      ((session config timeoutMs ⟨random, fixedDomain domain⟩ requests w).map
        (Except.map Reply.ofResponse)) := by
  have hfixed : fixedDomain domain = .ok domain := if_neg hdomain
  have hkeep : ∀ r ∈ w.rules, r.Keeps .none := by
    rw [hrules]
    exact fun _ hr => nomatch hr
  exact tabled_session hfixed timeoutMs requests hstart.represents hkeep

/-- One endpoint that two tenants ask for, in front of the only service there is. -/
theorem two_tenants_refine_table :
    let config := Specimen.config
    let w := Specimen.world
    let request := Specimen.request
    let body := Specimen.guardedBody "one"
    let requests := [request "POST" "" "alice" body, request "POST" "" "bob" body,
      request "GET" "/one" "bob" "", request "GET" "/one" "alice" "",
      request "DELETE" "/one" "bob" "", request "DELETE" "/one" "alice" ""]
    let responses := session config 1000 ⟨fun _ => 'a', fixedDomain "example.com"⟩ requests w
    "example.com" ≠ "" ∧ w.rules = [] ∧ Endpointless w.cluster ∧
      Tabled w.cluster.services config.ports ∅ requests
        (responses.map (Except.map Reply.ofResponse)) ∧
      responses.map (fun response => response.toOption.map Response.status) =
        [some 201, some 409, some 404, some 200, some 404, some 204] := by
  intro config w request body requests responses
  have hdomain : "example.com" ≠ "" := by decide
  have hstart : Endpointless w.cluster := endpointless_services _
  have hrefines := api_refines_table config 1000 (fun _ => 'a') hdomain requests w rfl hstart
  exact ⟨hdomain, rfl, hstart, hrefines, by decide +kernel⟩

end TenantEndpoints.Http
