import TenantEndpoints.Proofs.Http.Addressing
import TenantEndpoints.Proofs.Http.Hiding
import TenantEndpoints.Proofs.Specimen

/-!
# Requests that are rejected

A request is looked at in a fixed order: its path and method, its tenant, then its
body or its query. The first thing wrong decides how it is answered, and none of it
touches the cluster. A request with nothing wrong begins with a call in the namespace
of its path. There is one more way in which nothing is done: the body of a creation
cannot be read to its end, and then there is no answer at all.
-/
namespace TenantEndpoints.Http
open Endpoint

/-- The header of the tenant is there, is not empty, and is text. -/
def NamesTenant (request : Request) : Prop :=
  ∃ bytes, request.header? userIdHeader = some bytes ∧ bytes ≠ [] ∧ ∀ b ∈ bytes, isTextByte b = true

/-- Every page and every limit in a query is a positive number of at most 64 bits. -/
def ProperPages (query : Option String) : Prop :=
  ∀ pair ∈ (query.map Text.FormEncoded.decodePairs).getD [], pair.1 = "page" ∨ pair.1 = "limit" →
    ∃ n, Text.readUnsigned? 64 pair.2 = some n ∧ 0 < n

/-- A request is rejected with a status for the first thing wrong with it. -/
inductive Rejected (request : Request) : Nat → Prop
  | unrouted (hselect : Operation.select? request.method request.target.path = none) :
    Rejected request 404
  | anonymous {operation : Operation}
      (hselect : Operation.select? request.method request.target.path = some operation)
      (htenant : ¬ NamesTenant request) : Rejected request 401
  | unparsed {ns : String}
      (hselect : Operation.select? request.method request.target.path = some (.create ns))
      (htenant : NamesTenant request) (hread : request.body.failure = none)
      (hbody : ∀ body, CreateBody.decode request.body.bytes ≠ .ok body) : Rejected request 400
  | invalid {ns user : String} {body : CreateBody} {reason : Rejection}
      (hselect : Operation.select? request.method request.target.path = some (.create ns))
      (htenant : request.userId? = some user) (hread : request.body.failure = none)
      (hbody : CreateBody.decode request.body.bytes = .ok body)
      (hinvalid : (requestOf ns user body).validate = .error reason) : Rejected request 400
  | mispaged {ns : String}
      (hselect : Operation.select? request.method request.target.path = some (.list ns))
      (htenant : NamesTenant request) (hquery : ¬ ProperPages request.target.query) :
    Rejected request 400

/-- The body of a creation cannot be read to its end. -/
structure Unreadable (request : Request) (cause : String) : Prop where
  selects : ∃ ns, Operation.select? request.method request.target.path = some (.create ns)
  tenant : NamesTenant request
  failure : request.body.failure = some cause

theorem namesTenant_iff {request : Request} :
    NamesTenant request ↔ ∃ user, request.userId? = some user := by
  unfold NamesTenant Request.userId?
  cases request.header? userIdHeader with
  | none => simp
  | some bytes =>
    by_cases h : bytes ≠ [] ∧ bytes.all isTextByte = true
    · simp only [Option.bind_eq_bind, Option.bind_some, if_pos h, Option.some.injEq]
      exact iff_of_true ⟨bytes, rfl, h.1, List.all_eq_true.1 h.2⟩ ⟨_, rfl⟩
    · simp only [Option.bind_eq_bind, Option.bind_some, if_neg h]
      refine iff_of_false ?_ ?_
      · rintro ⟨_, he, hne, htext⟩
        cases he
        exact h ⟨hne, List.all_eq_true.2 htext⟩
      · rintro ⟨_, hnone⟩
        cases hnone

theorem userId?_eq_none_iff {request : Request} :
    request.userId? = none ↔ ¬ NamesTenant request := by
  rw [namesTenant_iff, Option.eq_none_iff_forall_ne_some, not_exists]

theorem exists_positive_iff (parameter value : String) :
    (∃ n, ListQuery.positive parameter value = .ok n) ↔
      ∃ n, Text.readUnsigned? 64 value = some n ∧ 0 < n := by
  unfold ListQuery.positive
  cases Text.readUnsigned? 64 value with
  | none => simp
  | some n =>
    by_cases h : 0 < n
    · simp [h]
    · simp [h]

/-- A pair is refused only for its page or its limit, whatever the query is so far. -/
theorem exists_add_iff (q : ListQuery) (key value : String) :
    (∃ q', q.add key value = .ok q') ↔ (key = "page" ∨ key = "limit" →
      ∃ n, Text.readUnsigned? 64 value = some n ∧ 0 < n) := by
  have hmap {f : Nat → ListQuery} :
      (∃ q', (ListQuery.positive key value).map f = .ok q') ↔
        ∃ n, Text.readUnsigned? 64 value = some n ∧ 0 < n := by
    rw [← exists_positive_iff key value]
    cases ListQuery.positive key value <;> simp [Except.map]
  unfold ListQuery.add
  split
  · next hkey => simp [hkey]
  split
  · next hkey => simp [hkey]
  split
  · next hkey => rw [hmap, imp_iff_right (.inl hkey)]
  split
  · next hkey => rw [hmap, imp_iff_right (.inr hkey)]
  · next hpage hlimit => simp [hpage, hlimit]

theorem exists_foldlM_iff (pairs : List (String × String)) (q : ListQuery) :
    (∃ q', pairs.foldlM (fun q p => q.add p.1 p.2) q = .ok q') ↔
      ∀ pair ∈ pairs, pair.1 = "page" ∨ pair.1 = "limit" →
        ∃ n, Text.readUnsigned? 64 pair.2 = some n ∧ 0 < n := by
  induction pairs generalizing q with
  | nil => simp [pure, Except.pure]
  | cons pair pairs ih =>
    rw [List.foldlM_cons, List.forall_mem_cons, ← exists_add_iff q]
    cases q.add pair.1 pair.2 with
    | error reason => simp [bind, Except.bind]
    | ok q' =>
      rw [← ih q']
      simp [bind, Except.bind]

theorem exists_read_iff (query : Option String) :
    (∃ q, ListQuery.read query = .ok q) ↔ ProperPages query := by
  cases query with
  | none => exact iff_of_true ⟨_, rfl⟩ (fun _ hpair => nomatch hpair)
  | some query => exact exists_foldlM_iff _ _

section Serve
variable {config : Config} {timeoutMs : Nat} {request : Request} {demand : Demand}
  {response : Except ReadFault Response} {s : Surroundings} {w : World}

theorem world_serveOperation_of_error {user : String} {operation : Operation} {deadline : Instant}
    (hrefused : Demand.ofOperation request user operation = .error response) :
    ((serveOperation config request user deadline operation).run s w).world = w := by
  cases operation with
  | create ns =>
    simp only [Demand.ofOperation] at hrefused
    simp only [serveOperation, serveCreate]
    cases hfailure : request.body.failure with
    | some cause => rfl
    | none =>
      rw [hfailure] at hrefused
      dsimp only at hrefused ⊢
      cases hbody : CreateBody.decode request.body.bytes with
      | ok body =>
        rw [hbody] at hrefused
        cases hrefused
      | error mishap => rfl
  | list ns =>
    simp only [Demand.ofOperation] at hrefused
    simp only [serveOperation]
    cases hquery : ListQuery.read request.target.query with
    | ok query =>
      rw [hquery] at hrefused
      cases hrefused
    | error reason =>
      simp only [Program.map_eq_bind, Program.run_bind, Program.run_done]
      exact (run_failed _ s w).2
  | count ns | get ns name | delete ns name => cases hrefused

theorem plays_run_any (s : Surroundings) (p : Program α) (w : World) :
    p.Plays Lookup.any (p.exchanges s w) (p.run s w).value := Program.plays_run trivial p w

/-- Where nothing is asked for, the response is given and the world stays as it is. -/
theorem run_serve_of_error (hrefused : Demand.ofRequest request = .error response) :
    ((serve config timeoutMs request).run s w).value = response ∧
      (serve config timeoutMs request).exchanges s w = [] ∧
      ((serve config timeoutMs request).run s w).world = w := by
  obtain ⟨hnone, hvalue⟩ := plays_serve_of_error hrefused (plays_run_any s _ w)
  refine ⟨hvalue, hnone, ?_⟩
  unfold Demand.ofRequest at hrefused
  unfold serve
  cases hoperation : Operation.select? request.method request.target.path with
  | none => rfl
  | some operation =>
    rw [hoperation] at hrefused
    dsimp only at hrefused ⊢
    cases huser : request.userId? with
    | none => rfl
    | some user =>
      rw [huser] at hrefused
      exact world_serveOperation_of_error hrefused

/-- A creation that is invalid fails before it makes a call. -/
theorem run_serve_of_invalid {ns user : String} {body : CreateBody} {reason : Rejection}
    (hdemand : Demand.ofRequest request = .ok (.create ns user body))
    (hinvalid : (requestOf ns user body).validate = .error reason) :
    ((serve config timeoutMs request).run s w).value =
        .ok (responseOf (.error (.invalid reason))) ∧
      (serve config timeoutMs request).exchanges s w = [] ∧
      ((serve config timeoutMs request).run s w).world = w := by
  have hattempt (deadline : Instant) :
      (Demand.attempt config deadline (.create ns user body)).run =
        .done (.error (.invalid reason)) := by
    refine (run_create_eq config ns user body deadline).trans ?_
    rw [hinvalid]
  have hplays := plays_run_any s (serve config timeoutMs request) w
  rw [serve_of_demand hdemand] at hplays ⊢
  obtain ⟨arrival, hplays⟩ := hplays
  obtain ⟨outcome, houtcome, _⟩ := plays_ok_respond hplays
  rw [hattempt] at houtcome
  have hrun := run_ok_respond (a := Demand.attempt config (w.clock + timeoutMs)
    (.create ns user body)) (s := s) (w := w) (by rw [hattempt]; rfl) (by rw [hattempt])
  exact ⟨hrun.1, houtcome.1, hrun.2⟩

/-- A request that is rejected asks for nothing, or for a creation that is invalid. -/
theorem Rejected.asks {status : Nat} (h : Rejected request status) :
    (∃ response, Demand.ofRequest request = .error (.ok response) ∧ response.status = status) ∨
      ∃ ns user body reason, Demand.ofRequest request = .ok (.create ns user body) ∧
        (requestOf ns user body).validate = .error reason ∧ status = 400 := by
  unfold Demand.ofRequest
  cases h with
  | unrouted hselect =>
    rw [hselect]
    exact .inl ⟨_, rfl, rfl⟩
  | anonymous hselect htenant =>
    rw [hselect, userId?_eq_none_iff.2 htenant]
    exact .inl ⟨_, rfl, rfl⟩
  | unparsed hselect htenant hread hbody =>
    obtain ⟨user, huser⟩ := namesTenant_iff.1 htenant
    simp only [hselect, huser, Demand.ofOperation, hread]
    cases hdecode : CreateBody.decode request.body.bytes with
    | ok body => exact absurd hdecode (hbody body)
    | error mishap => exact .inl ⟨_, rfl, rfl⟩
  | @invalid ns user body reason hselect huser hread hbody hinvalid =>
    refine .inr ⟨ns, user, body, reason, ?_, hinvalid, rfl⟩
    simp only [hselect, huser, Demand.ofOperation, hread, hbody]
  | mispaged hselect htenant hquery =>
    obtain ⟨user, huser⟩ := namesTenant_iff.1 htenant
    simp only [hselect, huser, Demand.ofOperation]
    cases hread : ListQuery.read request.target.query with
    | ok query => exact absurd (exists_read_iff _ |>.1 ⟨query, hread⟩) hquery
    | error reason => exact .inl ⟨_, rfl, rfl⟩

theorem Unreadable.asks {cause : String} (h : Unreadable request cause) :
    Demand.ofRequest request = .error (.error ⟨cause⟩) := by
  obtain ⟨ns, hselect⟩ := h.selects
  obtain ⟨user, huser⟩ := namesTenant_iff.1 h.tenant
  simp only [Demand.ofRequest, hselect, huser, Demand.ofOperation, h.failure]

/-- A request with nothing wrong asks for something, and no creation that it asks for is
invalid. -/
theorem exists_demand (hnot : ∀ status, ¬ Rejected request status)
    (hread : ∀ cause, ¬ Unreadable request cause) :
    ∃ operation demand, Operation.select? request.method request.target.path = some operation ∧
      Demand.ofRequest request = .ok demand ∧ demand.ns = operation.ns ∧
      ∀ ns user body, demand = .create ns user body →
        (requestOf ns user body).validate = .ok () := by
  unfold Demand.ofRequest
  cases hselect : Operation.select? request.method request.target.path with
  | none => exact absurd (.unrouted hselect) (hnot 404)
  | some operation =>
    have htenant : NamesTenant request :=
      Classical.byContradiction fun htenant => hnot 401 (.anonymous hselect htenant)
    obtain ⟨user, huser⟩ := namesTenant_iff.1 htenant
    simp only [huser]
    cases operation with
    | create ns =>
      cases hfailure : request.body.failure with
      | some cause => exact absurd ⟨⟨ns, hselect⟩, htenant, hfailure⟩ (hread cause)
      | none =>
        cases hbody : CreateBody.decode request.body.bytes with
        | error mishap =>
          refine absurd (.unparsed hselect htenant hfailure fun body => ?_) (hnot 400)
          rw [hbody]
          intro he
          cases he
        | ok body =>
          simp only [Demand.ofOperation, hfailure, hbody]
          refine ⟨_, _, rfl, rfl, rfl, fun ns' user' body' he => ?_⟩
          cases he
          cases hvalid : (requestOf ns user body).validate with
          | ok _ => rfl
          | error reason => exact absurd (.invalid hselect huser hfailure hbody hvalid) (hnot 400)
    | list ns =>
      cases hquery : ListQuery.read request.target.query with
      | ok query =>
        simp only [Demand.ofOperation, hquery]
        refine ⟨_, _, rfl, rfl, rfl, fun _ _ _ he => ?_⟩
        cases he
      | error reason =>
        have hpages : ¬ ProperPages request.target.query := by
          rw [← exists_read_iff, hquery]
          rintro ⟨_, he⟩
          cases he
        exact absurd (.mispaged hselect htenant hpages) (hnot 400)
    | count ns | get ns name | delete ns name =>
      refine ⟨_, _, rfl, rfl, rfl, fun _ _ _ he => ?_⟩
      cases he

/-- Whatever is asked for begins with a call in its namespace, unless it is invalid. -/
theorem first_call_of_demand {lookup : Lookup} {deadline : Instant} {t : List Exchange}
    {outcome : Except Failure Response}
    (h : (demand.attempt config deadline).run.Plays lookup t outcome)
    (hvalid : ∀ ns user body, demand = .create ns user body →
      (requestOf ns user body).validate = .ok ()) :
    ∃ x t', t = x :: t' ∧ x.call.ns = demand.ns := by
  cases demand with
  | create ns user body =>
    have hcreate := plays_create h
    rw [hvalid ns user body rfl] at hcreate
    obtain ⟨found, t', rfl, _⟩ := hcreate
    exact ⟨_, t', rfl, rfl⟩
  | list ns user query =>
    obtain ⟨listed, rfl, _⟩ := plays_list h
    exact ⟨_, [], rfl, rfl⟩
  | count ns user =>
    obtain ⟨listed, rfl, _⟩ := plays_count h
    exact ⟨_, [], rfl, rfl⟩
  | get ns name user =>
    obtain ⟨found, t', rfl, _⟩ := plays_get h
    exact ⟨_, t', rfl, rfl⟩
  | delete ns name user =>
    obtain ⟨found, t', rfl, _⟩ := plays_delete h
    exact ⟨_, t', rfl, rfl⟩

/-- A path that selects an operation has its namespace in it. -/
theorem segments_of_select? {method path : String} {operation : Operation}
    (h : Operation.select? method path = some operation) :
    ∃ rest, Operation.segments path = "namespaces" :: operation.ns :: "endpoints" :: rest := by
  unfold Operation.select? at h
  split at h
  · next ns rest hsegments =>
    split at h
    · cases h
    · rw [ns_of_within? h]
      exact ⟨rest, hsegments⟩
  · cases h

end Serve

/-- A request that is rejected is answered with the status of the first thing wrong with
it: no call is made, and the world stays as it is, down to the random characters that
have been drawn. If the body of a creation cannot be read, nothing is done either, but
the service fails in place of an answer. Every other request makes a call, and the
first one is in the namespace of its path. -/
theorem rejected_touch_nothing (config : Config) (timeoutMs : Nat) (request : Request)
    (s : Surroundings) (w : World) :
    let run := (serve config timeoutMs request).run s w
    let exchanges := (serve config timeoutMs request).exchanges s w
    (∀ status, Rejected request status →
      (∃ response, run.value = .ok response ∧ response.status = status) ∧
        exchanges = [] ∧ run.world = w) ∧
    (∀ cause, Unreadable request cause →
      run.value = .error ⟨cause⟩ ∧ exchanges = [] ∧ run.world = w) ∧
    ((∀ status, ¬ Rejected request status) → (∀ cause, ¬ Unreadable request cause) →
      ∃ ns rest x t,
        Operation.segments request.target.path = "namespaces" :: ns :: "endpoints" :: rest ∧
        exchanges = x :: t ∧ x.call.ns = ns) := by
  intro run exchanges
  refine ⟨fun status hrejected => ?_, fun cause hunreadable => ?_, fun hnot hread => ?_⟩
  · rcases hrejected.asks with ⟨response, hrefused, hstatus⟩ | ⟨ns, user, body, reason, hdemand,
      hinvalid, hstatus⟩
    · obtain ⟨hvalue, hrest⟩ := run_serve_of_error hrefused
      exact ⟨⟨response, hvalue, hstatus⟩, hrest⟩
    · obtain ⟨hvalue, hrest⟩ := run_serve_of_invalid hdemand hinvalid
      exact ⟨⟨_, hvalue, hstatus.symm⟩, hrest⟩
  · exact run_serve_of_error hunreadable.asks
  · obtain ⟨operation, demand, hselect, hdemand, hns, hvalid⟩ := exists_demand hnot hread
    obtain ⟨rest, hsegments⟩ := segments_of_select? hselect
    have hplays := plays_serve (plays_run_any s (serve config timeoutMs request) w)
    rw [hdemand] at hplays
    obtain ⟨deadline, outcome, hattempt, _⟩ := hplays
    obtain ⟨x, t, hfirst, hcall⟩ := first_call_of_demand hattempt hvalid
    exact ⟨operation.ns, rest, x, t, hsegments, hfirst, hcall.trans hns⟩

/-- A listing whose first page is not positive, a creation that breaks off, and a count. -/
theorem one_of_three_touches_cluster :
    let config := Specimen.config
    let s := Specimen.plain
    let listing :=
      { Specimen.request "GET" "" "alice" "" with target.query := some "page=0&page=1" }
    let creation := { Specimen.request "POST" "" "alice" "[]" with body.failure := some "gone" }
    let counting := Specimen.request "GET" "/count" "alice" ""
    let run (request : Request) := (serve config 1000 request).run s {}
    let exchanges (request : Request) := (serve config 1000 request).exchanges s {}
    (Rejected listing 400 ∧
      (∃ response, (run listing).value = .ok response ∧ response.status = 400) ∧
      exchanges listing = [] ∧ (run listing).world = {}) ∧
    (Unreadable creation "gone" ∧ (run creation).value = .error ⟨"gone"⟩ ∧
      exchanges creation = [] ∧ (run creation).world = {}) ∧
    (∀ status, ¬ Rejected counting status) ∧ (∀ cause, ¬ Unreadable counting cause) ∧
      ∃ x t, exchanges counting = x :: t ∧ x.call.ns = "default" := by
  intro config s listing creation counting run exchanges
  have htenant : listing.userId? = some "alice" := by decide +kernel
  have hlisting : Rejected listing 400 := by
    have hselect : Operation.select? listing.method listing.target.path =
        some (.list "default") := by decide +kernel
    refine .mispaged hselect (namesTenant_iff.2 ⟨"alice", htenant⟩) fun hproper => ?_
    have hpair : ("page", "0") ∈
        (listing.target.query.map Text.FormEncoded.decodePairs).getD [] := by decide +kernel
    obtain ⟨n, hn, hpos⟩ := hproper _ hpair (.inl rfl)
    have hzero : Text.readUnsigned? 64 "0" = some 0 := by decide +kernel
    cases hzero.symm.trans hn
    exact absurd hpos (Nat.lt_irrefl 0)
  have hcreation : Unreadable creation "gone" :=
    ⟨⟨"default", by decide +kernel⟩, namesTenant_iff.2 ⟨"alice", by decide +kernel⟩, rfl⟩
  have hselect : Operation.select? counting.method counting.target.path =
      some (.count "default") := by decide +kernel
  have hnot (status : Nat) : ¬ Rejected counting status := by
    intro hrejected
    cases hrejected with
    | unrouted h | unparsed h | invalid h | mispaged h => cases hselect.symm.trans h
    | anonymous _ hnone => exact hnone (namesTenant_iff.2 ⟨"alice", by decide +kernel⟩)
  have hread (cause : String) : ¬ Unreadable counting cause := fun h => nomatch h.failure
  have hsegments : Operation.segments counting.target.path =
      ["namespaces", "default", "endpoints", "count"] := by decide +kernel
  obtain ⟨ns, rest, x, t, hpath, hfirst, hcall⟩ :=
    (rejected_touch_nothing config 1000 counting s {}).2.2 hnot hread
  cases hsegments.symm.trans hpath
  exact ⟨⟨hlisting, (rejected_touch_nothing config 1000 listing s {}).1 400 hlisting⟩,
    ⟨hcreation, (rejected_touch_nothing config 1000 creation s {}).2.1 "gone" hcreation⟩,
    hnot, hread, x, t, hfirst, hcall⟩

/-- The body of a creation breaks off. What has come of it does not parse, or all of it has
come and is valid: either way there is no answer, and no call is made. -/
theorem broken_body_unanswered :
    let config := Specimen.config
    let s := Specimen.plain
    let request (text : String) : Request :=
      { Specimen.request "POST" "" "alice" text with body.failure := some "gone" }
    let started := request "\x7b"
    let whole := request (Specimen.body "one")
    let body : CreateBody := ⟨"one", "node", false⟩
    Operation.select? "POST" "/namespaces/default/endpoints" = some (.create "default") ∧
      started.userId? = some "alice" ∧
      (∀ body, CreateBody.decode started.body.bytes ≠ .ok body) ∧
      ((serve config 1000 started).run s {}).value = .error ⟨"gone"⟩ ∧
      whole.userId? = some "alice" ∧ CreateBody.decode whole.body.bytes = .ok body ∧
      (requestOf "default" "alice" body).validate = .ok () ∧
      (serve config 1000 whole).exchanges s {} = [] := by
  intro config s request started whole body
  have hnone : (CreateBody.decode started.body.bytes).toOption = none := by decide +kernel
  have hbody : (CreateBody.decode whole.body.bytes).toOption = some body := by decide +kernel
  have hvalid : (requestOf "default" "alice" body).validate.toOption = some () := by decide +kernel
  have hselect : Operation.select? "POST" "/namespaces/default/endpoints" =
      some (.create "default") := by decide +kernel
  have hstarted : started.userId? = some "alice" := by decide +kernel
  have hwhole : whole.userId? = some "alice" := by decide +kernel
  have hbroken : Unreadable started "gone" :=
    ⟨⟨"default", hselect⟩, namesTenant_iff.2 ⟨"alice", hstarted⟩, rfl⟩
  have hbroken' : Unreadable whole "gone" :=
    ⟨⟨"default", hselect⟩, namesTenant_iff.2 ⟨"alice", hwhole⟩, rfl⟩
  have hnot (body : CreateBody) : CreateBody.decode started.body.bytes ≠ .ok body := by
    intro he
    rw [he] at hnone
    cases hnone
  exact ⟨hselect, hstarted, hnot, (run_serve_of_error hbroken.asks).1, hwhole,
    eq_ok_of_toOption hbody, eq_ok_of_toOption hvalid, (run_serve_of_error hbroken'.asks).2.1⟩

end TenantEndpoints.Http
