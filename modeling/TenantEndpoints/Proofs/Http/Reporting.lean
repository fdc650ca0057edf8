import TenantEndpoints.Proofs.Endpoint.Ownership
import TenantEndpoints.Proofs.Http.Exchange
import TenantEndpoints.Proofs.Specimen

/-!
# How failures are reported

Whoever answers the calls that are made for a request: the response is a success
only if no call failed, but for three outcomes that are no failures of the request.
Otherwise it tells exactly one failure: that of the call that came last, or that of the
deletion after it, or the reason why the request stopped without a failed call.
-/
namespace TenantEndpoints.Http
open Endpoint

/-- A failed call that does not fail the demand it is made for, given the exchanges after it. -/
inductive Tolerated (config : Config) : Demand → Exchange → List Exchange → Prop
  /-- A shared middleware is missing, and is created. -/
  | missing {ns user : String} {body : CreateBody} {m : Middleware} {deadline deadline' : Instant}
      {failure : Failure} {outcome : Except Failure Middleware} {rest : List Exchange}
      (hm : m ∈ config.shared.both) (h : failure.isNotFound = true) :
    Tolerated _ (.create ns user body) ⟨.get .middleware m.key.ns m.key.name, deadline, .error failure⟩
      (⟨.create m, deadline', outcome⟩ :: rest)
  /-- A shared middleware is there by now, and that does not count. -/
  | conflict {ns user : String} {body : CreateBody} {m : Middleware} {deadline : Instant}
      {failure : Failure} {rest : List Exchange} (hm : m ∈ config.shared.both)
      (hi : config.shared.ignoreConflicts = true) (h : failure.isConflict = true) :
    Tolerated _ (.create ns user body) ⟨.create m, deadline, .error failure⟩ rest
  /-- An endpoint that is shown has no secret. -/
  | noSecret {ns name user : String} {deadline : Instant} {failure : Failure}
      {rest : List Exchange} (h : failure.isNotFound = true) :
    Tolerated _ (.get ns name user)
      ⟨.get .secret ns (secretName name), deadline, .error failure⟩ rest

/-- Exchanges, followed by others, of which none fails a demand. -/
def Unfailing (config : Config) (demand : Demand) : List Exchange → List Exchange → Prop
  | [], _ => True
  | x :: t, rest =>
    (x.Succeeded ∨ Tolerated config demand x (t ++ rest)) ∧ Unfailing config demand t rest

/-- What stops a demand although no call failed, after these exchanges. -/
inductive Impasse (config : Config) (lookup : Lookup) : Demand → List Exchange → Failure → Prop
  /-- The route is another tenant's. -/
  | hidden {demand : Demand} {ns name user : String} {deadline : Instant} {route : IngressRoute}
      (hd : demand = .get ns name user ∨ demand = .delete ns name user)
      (h : isOwnedBy route user = false) :
    Impasse _ _ demand [⟨.get .ingressRoute ns name, deadline, .ok route⟩]
      (.notFound Kind.ingressRoute.name name)
  | noPorts {ns user : String} {body : CreateBody} {deadline : Instant} {service : Service}
      (h : config.ports.eligible service = []) :
    Impasse _ _ (.create ns user body) [⟨.get .service ns body.serviceName, deadline, .ok service⟩]
      (.invalid (.noEligiblePorts service.displayName))
  | noDomain {ns user : String} {body : CreateBody} {deadline : Instant} {service : Service}
      {failure : Failure} (h : lookup (.error failure)) :
    Impasse _ _ (.create ns user body) [⟨.get .service ns body.serviceName, deadline, .ok service⟩]
      failure
  /-- What is created for a route has to refer to it. -/
  | unreferable {ns user : String} {body : CreateBody} {deadline deadline' : Instant}
      {service : Service} {submitted route : IngressRoute}
      (h : route.metadata.name = none ∨ route.metadata.uid = none) :
    Impasse _ _ (.create ns user body)
      [⟨.get .service ns body.serviceName, deadline, .ok service⟩,
        ⟨.create submitted, deadline', .ok route⟩]
      (.internal (.missingUid route.displayName))
  | unreadable {ns name user : String} {deadline deadline' : Instant} {route : IngressRoute}
      {secret : Secret} {breakdown : Breakdown} (h : Credentials.ofSecret secret = .error breakdown) :
    Impasse _ _ (.get ns name user)
      [⟨.get .ingressRoute ns name, deadline, .ok route⟩,
        ⟨.get .secret ns (secretName name), deadline', .ok secret⟩] (.internal breakdown)

/-- The last of these exchanges is the first call that fails a demand. -/
def FailsLast (config : Config) (demand : Demand) (t : List Exchange) (failure : Failure) : Prop :=
  ∃ t' x, t = t' ++ [x] ∧ Unfailing config demand t' [x] ∧ x.outcome = .error failure ∧
    ∀ rest, ¬ Tolerated config demand x rest

/-- What stops a demand after these exchanges. -/
def Stops (config : Config) (lookup : Lookup) (demand : Demand) (t : List Exchange)
    (failure : Failure) : Prop :=
  FailsLast config demand t failure ∨ Impasse config lookup demand t failure

/-- A route has been created in these exchanges. -/
def Creates (t : List Exchange) (route : IngressRoute) : Prop :=
  ∃ submitted deadline, ⟨.create submitted, deadline, .ok route⟩ ∈ t

/-- The one failure that all exchanges for a demand come to. -/
inductive Cause (config : Config) (lookup : Lookup) (demand : Demand) :
    List Exchange → Failure → Prop
  | stopped {t : List Exchange} {failure : Failure} (h : Stops config lookup demand t failure)
      (hnone : ∀ route, ¬ Creates t route) : Cause _ _ _ t failure
  /-- The route that was created is deleted. -/
  | takenBack {t : List Exchange} {failure : Failure} {route : IngressRoute} (deadline : Instant)
      (h : Stops config lookup demand t failure) (hroute : Creates t route) :
    Cause _ _ _ (t ++ [⟨.delete .ingressRoute route.metadata.namespaceOrEmpty route.displayName,
      deadline, .ok ()⟩]) failure
  /-- The route was to be deleted, but is left behind. -/
  | leftBehind {t : List Exchange} {failure reason : Failure} {route : IngressRoute}
      (deadline : Instant) (h : Stops config lookup demand t reason) (hroute : Creates t route) :
    Cause _ _ _ (t ++ [⟨.delete .ingressRoute route.metadata.namespaceOrEmpty route.displayName,
      deadline, .error failure⟩]) failure

section Unfailing
variable {config : Config} {demand : Demand} {x : Exchange} {t t' rest rest' : List Exchange}

theorem Tolerated.append (h : Tolerated config demand x rest) (rest' : List Exchange) :
    Tolerated config demand x (rest ++ rest') := by
  cases h with
  | missing hm h => exact .missing hm h
  | conflict hm hi h => exact .conflict hm hi h
  | noSecret h => exact .noSecret h

theorem unfailing_append : Unfailing config demand (t ++ t') rest ↔
    Unfailing config demand t (t' ++ rest) ∧ Unfailing config demand t' rest := by
  induction t with
  | nil => simp [Unfailing]
  | cons x t ih => simp [Unfailing, ih, and_assoc]

theorem Unfailing.append (h : Unfailing config demand t rest) (rest' : List Exchange) :
    Unfailing config demand t (rest ++ rest') := by
  induction t with
  | nil => trivial
  | cons x t ih =>
    refine ⟨h.1.imp id fun hx => ?_, ih h.2⟩
    rw [← List.append_assoc]
    exact hx.append rest'

theorem unfailing_singleton (h : x.Succeeded) : Unfailing config demand [x] rest :=
  ⟨.inl h, trivial⟩

theorem failsLast_singleton {failure : Failure} (h : x.outcome = .error failure)
    (hx : ∀ rest, ¬ Tolerated config demand x rest) : FailsLast config demand [x] failure :=
  ⟨[], x, rfl, trivial, h, hx⟩

theorem FailsLast.after {failure : Failure} (h : FailsLast config demand t' failure)
    (ht : Unfailing config demand t []) : FailsLast config demand (t ++ t') failure := by
  obtain ⟨t₁, x, rfl, h₁, hx, hnot⟩ := h
  refine ⟨t ++ t₁, x, (List.append_assoc ..).symm, unfailing_append.2 ⟨?_, h₁⟩, hx, hnot⟩
  exact ht.append (t₁ ++ [x])

end Unfailing

section Failing
variable {config : Config} {deadline : Instant} {failure : Failure}

theorem not_tolerated_get {k : Kind} {ns name : String} (hf : failure.isNotFound = false)
    (demand : Demand) (rest : List Exchange) :
    ¬ Tolerated config demand ⟨.get k ns name, deadline, .error failure⟩ rest := by
  generalize hx : (⟨.get k ns name, deadline, .error failure⟩ : Exchange) = x
  intro h
  cases h with
  | missing hm h =>
    cases hx
    simp [h] at hf
  | noSecret h =>
    cases hx
    simp [h] at hf
  | conflict hm hi h => cases hx

theorem not_tolerated_of_kind {x : Exchange} (hm : x.call.kind ≠ .middleware)
    (hs : x.call.kind ≠ .secret) (demand : Demand) (rest : List Exchange) :
    ¬ Tolerated config demand x rest := by
  intro h
  cases h with
  | missing | conflict => exact hm rfl
  | noSecret => exact hs rfl

theorem not_tolerated_create {k : Kind} {r : Resource k} {outcome : Except Failure (Resource k)}
    (hr : ⟨r⟩ ∉ config.shared.resources) (demand : Demand) (rest : List Exchange) :
    ¬ Tolerated config demand ⟨.create r, deadline, outcome⟩ rest := by
  generalize hx : (⟨.create r, deadline, outcome⟩ : Exchange) = x
  intro h
  cases h with
  | missing hm h => cases hx
  | noSecret h => cases hx
  | conflict hm hi h =>
    cases hx
    exact hr (List.mem_map_of_mem hm)

end Failing

section Saga
variable {config : Config} {lookup : Lookup} {ns user : String} {body : CreateBody}
  {deadline : Instant} {t : List Exchange} {failure : Failure}

theorem child_not_shared {useBasicAuth : Bool} {route : IngressRoute} {owner : OwnerReference}
    {credentials : Credentials} (ho : ownerReference? route = some owner) {k : Kind}
    {r : Resource k} (hr : ⟨r⟩ ∈ children useBasicAuth route owner credentials) :
    ⟨r⟩ ∉ config.shared.resources := by
  intro hshared
  obtain ⟨m, hm, he⟩ := List.mem_map.1 hshared
  cases he
  obtain ⟨derive, hd, hname⟩ := (childOf_of_mem_children ho hr).name
  exact not_isDerived_shared hm ⟨derive, hd, _, hname⟩

/-- Looking for a shared middleware, or for what is there instead of creating it, is
tolerated or else the last call. -/
theorem reports_ensure {m : Middleware} {ended : Option Failure}
    (h : (Step.ensure m).Plays config.shared.ignoreConflicts deadline t ended)
    (hm : m ∈ config.shared.both) :
    (ended = none → Unfailing config (.create ns user body) t []) ∧
      ∀ failure, ended = some failure → FailsLast config (.create ns user body) t failure := by
  cases h with
  | found m m' => exact ⟨fun _ => unfailing_singleton ⟨m', rfl⟩, nofun⟩
  | unclear m failure hf =>
    refine ⟨nofun, ?_⟩
    rintro _ ⟨⟩
    exact failsLast_singleton rfl (not_tolerated_get hf _)
  | made m m' failure hf =>
    exact ⟨fun _ => ⟨.inr (.missing hm hf), .inl ⟨m', rfl⟩, trivial⟩, nofun⟩
  | ignored m failure conflict hf hi hc =>
    exact ⟨fun _ => ⟨.inr (.missing hm hf), .inr (.conflict hm hi hc), trivial⟩, nofun⟩
  | failed m failure refusal hf hr =>
    refine ⟨nofun, ?_⟩
    rintro _ ⟨⟩
    refine ⟨[_], _, rfl, ⟨.inr (.missing hm hf), trivial⟩, rfl, fun rest h => ?_⟩
    generalize hx : (⟨.create m, deadline, .error refusal⟩ : Exchange) = x at h
    cases h with
    | missing hm' h => cases hx
    | conflict hm' hi h =>
      cases hx
      exact hr ⟨hi, h⟩

theorem reports_submit {k : Kind} {r : Resource k} {ended : Option Failure}
    (h : (Step.submit r).Plays config.shared.ignoreConflicts deadline t ended)
    (hr : ⟨r⟩ ∉ config.shared.resources) :
    (ended = none → Unfailing config (.create ns user body) t []) ∧
      ∀ failure, ended = some failure → FailsLast config (.create ns user body) t failure := by
  cases h with
  | submitted r r' => exact ⟨fun _ => unfailing_singleton ⟨r', rfl⟩, nofun⟩
  | refused r failure =>
    refine ⟨nofun, ?_⟩
    rintro _ ⟨⟩
    exact failsLast_singleton rfl (not_tolerated_create hr _)

/-- The steps for a route are all passed, or else the last call is the first that fails. -/
theorem reports_taken (ns user : String) (body : CreateBody) {steps : List (Stage × Step)}
    {ended : Option (Stage × Failure)}
    (h : Taken config.shared.ignoreConflicts deadline steps t ended)
    (hsteps : ∀ stage step, (stage, step) ∈ steps →
      (∃ (k : Kind) (r : Resource k), step = .submit r ∧ ⟨r⟩ ∉ config.shared.resources) ∨
        ∃ m ∈ config.shared.both, step = .ensure m) :
    (ended = none → Unfailing config (.create ns user body) t []) ∧
      ∀ e, ended = some e → FailsLast config (.create ns user body) t e.2 := by
  have hstep {stage : Stage} {step : Step} {t : List Exchange} {ended : Option Failure}
      (hmem : (stage, step) ∈ steps)
      (h : step.Plays config.shared.ignoreConflicts deadline t ended) :
      (ended = none → Unfailing config (.create ns user body) t []) ∧
        ∀ failure, ended = some failure → FailsLast config (.create ns user body) t failure := by
    rcases hsteps stage step hmem with ⟨k, r, rfl, hr⟩ | ⟨m, hm, rfl⟩
    · exact reports_submit h hr
    · exact reports_ensure h hm
  induction h with
  | finished => exact ⟨fun _ => trivial, nofun⟩
  | passed hs _ ih =>
    have hfirst := (hstep List.mem_cons_self hs).1 rfl
    obtain ⟨hpassed, hstopped⟩ := ih (fun stage step hmem => hsteps stage step (.tail _ hmem))
      fun hmem => hstep (.tail _ hmem)
    refine ⟨fun hended => unfailing_append.2 ⟨?_, hpassed hended⟩, fun e he => ?_⟩
    · exact hfirst.append _
    · exact (hstopped e he).after hfirst
  | stopped steps hs =>
    refine ⟨nofun, ?_⟩
    rintro _ ⟨⟩
    exact (hstep List.mem_cons_self hs).2 _ rfl

/-- The steps for a route stop where they cannot refer to it, or else as steps do. -/
theorem stops_steps (ns user : String) (body : CreateBody) {useBasicAuth : Bool}
    {route : IngressRoute} {credentials : Credentials} {ended : Option (Stage × Failure)}
    (h : Taken config.shared.ignoreConflicts deadline
      (steps config useBasicAuth route credentials) t ended) :
    (ended = none → Unfailing config (.create ns user body) t []) ∧
      ∀ e, ended = some e → FailsLast config (.create ns user body) t e.2 ∨
        t = [] ∧ (route.metadata.name = none ∨ route.metadata.uid = none) ∧
          e.2 = .internal (.missingUid route.displayName) := by
  cases ho : ownerReference? route with
  | none =>
    simp only [steps, ho] at h
    cases h with
    | passed hs _ => cases hs
    | stopped _ hs =>
      cases hs
      refine ⟨fun he => (by cases he), ?_⟩
      rintro _ ⟨⟩
      exact .inr ⟨rfl, ownerReference?_eq_none.1 ho, rfl⟩
  | some owner =>
    have hsteps : ∀ stage step, (stage, step) ∈ steps config useBasicAuth route credentials →
        (∃ (k : Kind) (r : Resource k), step = .submit r ∧ ⟨r⟩ ∉ config.shared.resources) ∨
          ∃ m ∈ config.shared.both, step = .ensure m := by
      intro stage step hstep
      rcases step_of_mem_steps ho hstep with ⟨k, r, hsubmit, hr⟩ | hensure
      · exact .inl ⟨k, r, hsubmit, child_not_shared ho hr⟩
      · exact .inr hensure
    obtain ⟨hpassed, hstopped⟩ := reports_taken ns user body h hsteps
    exact ⟨hpassed, fun e he => .inl (hstopped e he)⟩

/-- A creation in front of a service that was found. -/
theorem cause_of_saga {useBasicAuth : Bool} {submitted : IngressRoute} {arrival : Instant}
    {service : Service} {r : Except Failure Created}
    (h : Saga config useBasicAuth submitted deadline t r) :
    let all := ⟨.get .service ns body.serviceName, arrival, .ok service⟩ :: t
    (∃ created, r = .ok created ∧ Unfailing config (.create ns user body) all []) ∨
      ∃ failure, r = .error failure ∧ Cause config lookup (.create ns user body) all failure := by
  intro all
  have hservice (rest : List Exchange) : Unfailing config (.create ns user body)
      [⟨.get .service ns body.serviceName, arrival, .ok service⟩] rest :=
    unfailing_singleton ⟨service, rfl⟩
  cases h with
  | refused failure =>
    have hlast : FailsLast config (.create ns user body)
        [⟨.create submitted, deadline, .error failure⟩] failure :=
      failsLast_singleton rfl (not_tolerated_of_kind (by simp [Call.kind]) (by simp [Call.kind]) _)
    exact .inr ⟨failure, rfl, .stopped (.inl (hlast.after (hservice [])))
      (by simp [Creates, all])⟩
  | completed route credentials ht =>
    obtain ⟨hpassed, _⟩ := stops_steps ns user body ht
    exact .inl ⟨_, rfl, .inl ⟨service, rfl⟩, .inl ⟨route, rfl⟩, hpassed rfl⟩
  | @takenBack route credentials t stage failure ht now deleted =>
    have hstops : Stops config lookup (.create ns user body)
        (⟨.get .service ns body.serviceName, arrival, .ok service⟩ ::
          ⟨.create submitted, deadline, .ok route⟩ :: t) failure := by
      obtain ⟨_, hstopped⟩ := stops_steps ns user body ht
      rcases hstopped _ rfl with hlast | ⟨rfl, hunreferable, rfl⟩
      · have hcreated : Unfailing config (.create ns user body)
            [⟨.get .service ns body.serviceName, arrival, .ok service⟩,
              ⟨.create submitted, deadline, .ok route⟩] [] :=
          ⟨.inl ⟨service, rfl⟩, .inl ⟨route, rfl⟩, trivial⟩
        exact .inl (hlast.after hcreated)
      · exact .inr (.unreferable hunreferable)
    have hroute : Creates (⟨.get .service ns body.serviceName, arrival, .ok service⟩ ::
        ⟨.create submitted, deadline, .ok route⟩ :: t) route :=
      ⟨submitted, deadline, by simp⟩
    refine .inr ⟨_, rfl, ?_⟩
    cases deleted with
    | ok _ => exact .takenBack _ hstops hroute
    | error reason => exact .leftBehind _ hstops hroute

end Saga

/-- A demand succeeds without a failed call that counts, or fails for the one cause there is. -/
def Reports (config : Config) (lookup : Lookup) (demand : Demand) (t : List Exchange) :
    Except Failure Response → Prop
  | .ok response => (200 ≤ response.status ∧ response.status < 300) ∧ Unfailing config demand t []
  | .error failure => Cause config lookup demand t failure

section Demands
variable {config : Config} {lookup : Lookup} {ns name user : String} {deadline : Instant}
  {t : List Exchange} {r : Except Failure Response}

/-- A demand for which nothing is created stops where it stops. -/
theorem Cause.of_reads {demand : Demand} {failure : Failure}
    (h : Stops config lookup demand t failure) (ht : ∀ x ∈ t, x.call.verb ≠ .create) :
    Cause config lookup demand t failure := by
  refine .stopped h ?_
  rintro route ⟨submitted, deadline, hmem⟩
  exact ht _ hmem rfl

/-- A demand that comes down to one list. -/
theorem reports_listed {demand : Demand} {selector : Selector}
    {listed : Except Failure (List IngressRoute)} {tell : List IngressRoute → Response}
    (hstatus : ∀ routes, (tell routes).status = 200) :
    Reports config lookup demand [⟨.list .ingressRoute ns selector, deadline, listed⟩]
      (listed.map tell) := by
  cases listed with
  | ok routes =>
    refine ⟨?_, unfailing_singleton ⟨routes, rfl⟩⟩
    simp [hstatus]
  | error failure =>
    refine Cause.of_reads (.inl (failsLast_singleton rfl ?_)) (by simp [Call.verb])
    exact not_tolerated_of_kind (by simp [Call.kind]) (by simp [Call.kind]) _

/-- A demand that starts by looking for the tenant's route. -/
theorem reports_looked_up {demand : Demand} {found : Except Failure IngressRoute}
    (hd : demand = .get ns name user ∨ demand = .delete ns name user) {failure : Failure}
    (h : visible name user found = .error failure) :
    Cause config lookup demand [⟨.get .ingressRoute ns name, deadline, found⟩] failure := by
  refine Cause.of_reads ?_ (by simp [Call.verb])
  cases found with
  | error failure' =>
    cases h
    exact .inl (failsLast_singleton rfl
      (not_tolerated_of_kind (by simp [Call.kind]) (by simp [Call.kind]) _))
  | ok route =>
    cases ho : isOwnedBy route user with
    | true => simp [visible, ho] at h
    | false =>
      obtain rfl : Failure.notFound Kind.ingressRoute.name name = failure := by
        simpa [visible, ho] using h
      exact .inr (.hidden hd ho)

theorem found_of_visible {found : Except Failure IngressRoute} {route : IngressRoute}
    (h : visible name user found = .ok route) : found = .ok route := by
  cases found with
  | error failure => cases h
  | ok route' =>
    cases ho : isOwnedBy route' user with
    | true => simpa [visible, ho] using h
    | false => simp [visible, ho] at h

theorem reports_get (h : (get ns name user deadline).run.Plays lookup t r) :
    Reports config lookup (.get ns name user) t r := by
  obtain ⟨found, t', rfl, hrest⟩ := plays_get h
  cases hv : visible name user found with
  | error failure =>
    rw [hv] at hrest
    obtain ⟨rfl, rfl⟩ := hrest
    exact reports_looked_up (.inl rfl) hv
  | ok route =>
    rw [hv] at hrest
    obtain ⟨secret, rfl, rfl⟩ := hrest
    obtain rfl := found_of_visible hv
    have hroute (rest : List Exchange) : Unfailing config (.get ns name user)
        [⟨.get .ingressRoute ns name, deadline, .ok route⟩] rest := unfailing_singleton ⟨route, rfl⟩
    have hreads : ∀ x ∈ ([⟨.get .ingressRoute ns name, deadline, .ok route⟩,
        ⟨.get .secret ns (secretName name), deadline, secret⟩] : List Exchange),
        x.call.verb ≠ .create := by
      simp [Call.verb]
    cases secret with
    | ok secret =>
      cases hs : Credentials.ofSecret secret with
      | ok credentials =>
        simp only [credentialsIn, hs]
        exact ⟨by simp, .inl ⟨route, rfl⟩, .inl ⟨secret, rfl⟩, trivial⟩
      | error breakdown =>
        simp only [credentialsIn, hs]
        exact Cause.of_reads (.inr (.unreadable hs)) hreads
    | error failure =>
      cases hf : failure.isNotFound with
      | true =>
        simp only [credentialsIn, hf]
        exact ⟨by simp, .inl ⟨route, rfl⟩, .inr (.noSecret hf), trivial⟩
      | false =>
        simp only [credentialsIn, hf]
        have hlast : FailsLast config (.get ns name user)
            [⟨.get .secret ns (secretName name), deadline, .error failure⟩] failure :=
          failsLast_singleton rfl (not_tolerated_get hf _)
        exact Cause.of_reads (.inl (hlast.after (hroute []))) hreads

theorem reports_delete (h : (delete ns name user deadline).run.Plays lookup t r) :
    Reports config lookup (.delete ns name user) t r := by
  obtain ⟨found, t', rfl, hrest⟩ := plays_delete h
  cases hv : visible name user found with
  | error failure =>
    rw [hv] at hrest
    obtain ⟨rfl, rfl⟩ := hrest
    exact reports_looked_up (.inr rfl) hv
  | ok route =>
    rw [hv] at hrest
    obtain ⟨deleted, rfl, rfl⟩ := hrest
    obtain rfl := found_of_visible hv
    cases deleted with
    | ok _ => exact ⟨by simp, .inl ⟨route, rfl⟩, .inl ⟨(), rfl⟩, trivial⟩
    | error failure =>
      have hlast : FailsLast config (.delete ns name user)
          [⟨.delete .ingressRoute ns name, deadline, .error failure⟩] failure :=
        failsLast_singleton rfl
          (not_tolerated_of_kind (by simp [Call.kind]) (by simp [Call.kind]) _)
      have hroute : Unfailing config (.delete ns name user)
          [⟨.get .ingressRoute ns name, deadline, .ok route⟩] [] := unfailing_singleton ⟨route, rfl⟩
      exact Cause.of_reads (.inl (hlast.after hroute)) (by simp [Call.verb])

theorem reports_create {body : CreateBody}
    (hvalid : (requestOf ns user body).validate = .ok ())
    (h : (create config ns user body deadline).run.Plays lookup t r) :
    Reports config lookup (.create ns user body) t r := by
  have hrest := plays_create h
  rw [hvalid] at hrest
  obtain ⟨found, t', rfl, hrest⟩ := hrest
  cases found with
  | error failure =>
    obtain ⟨rfl, rfl⟩ := hrest
    refine Cause.of_reads (.inl (failsLast_singleton rfl ?_)) (by simp [Call.verb])
    exact not_tolerated_of_kind (by simp [Call.kind]) (by simp [Call.kind]) _
  | ok service =>
    obtain ⟨created, hcreate, rfl⟩ := hrest
    rcases Endpoint.plays_create hcreate with
      ⟨failure, rfl, rfl, hrefusal | ⟨_, hdomain⟩⟩ | ⟨domain, ids, _, _, hsaga⟩
    · refine Cause.of_reads (.inr ?_) (by simp [Call.verb])
      unfold refusal? at hrefusal
      rw [hvalid] at hrefusal
      cases hports : config.ports.eligible service with
      | nil =>
        simp only [hports, List.isEmpty_nil, if_true, Option.some.injEq] at hrefusal
        rw [← hrefusal]
        exact .noPorts hports
      | cons port ports => simp [hports] at hrefusal
    · exact Cause.of_reads (.inr (.noDomain hdomain)) (by simp [Call.verb])
    · rcases cause_of_saga hsaga with ⟨created, rfl, hunfailing⟩ | ⟨failure, rfl, hcause⟩
      · exact ⟨by simp [shown], hunfailing⟩
      · exact hcause

end Demands

/-- What a failure is told with: its status, and its text alone. -/
def Tells (failure : Failure) (response : Response) : Prop :=
  response.status = statusOf failure.class ∧
    response.body = some (.object [("error", .string failure.message)])

/-- Whoever answers the calls and the domain lookup: a request that has been read, and whose name
is accepted if something is to be created, is answered with a success, and then no call failed
but for what is tolerated, or with the one failure that all of its exchanges come to. -/
theorem no_failure_swallowed (config : Config) (timeoutMs : Nat) (request : Request)
    {demand : Demand} (hdemand : Demand.ofRequest request = .ok demand)
    (hvalid : ∀ ns user body, demand = .create ns user body →
      (requestOf ns user body).validate = .ok ())
    {σ : Type u} (answerer : Answerer σ) (s : σ) :
    let play := (serve config timeoutMs request).play answerer s
    let lookup : Lookup := fun outcome => ∃ s', (answerer s' .baseUrl).1 = outcome
    ∃ response, play.value = .ok response ∧
      ((200 ≤ response.status ∧ response.status < 300) ∧
          Unfailing config demand play.exchanges [] ∨
        ∃ failure, Cause config lookup demand play.exchanges failure ∧ Tells failure response) := by
  intro play lookup
  have hplays : (serve config timeoutMs request).Plays lookup play.exchanges play.value :=
    Program.plays_play answerer (fun s' => ⟨s', rfl⟩) (serve config timeoutMs request) s
  replace hplays := plays_serve hplays
  rw [hdemand] at hplays
  obtain ⟨deadline, outcome, hplays, hvalue⟩ := hplays
  have hreports : Reports config lookup demand play.exchanges outcome := by
    cases demand with
    | create ns user body => exact reports_create (hvalid ns user body rfl) hplays
    | list ns user query =>
      obtain ⟨listed, ht, rfl⟩ := plays_list hplays
      rw [ht]
      exact reports_listed fun _ => rfl
    | count ns user =>
      obtain ⟨listed, ht, rfl⟩ := plays_count hplays
      rw [ht]
      exact reports_listed fun _ => rfl
    | get ns name user => exact reports_get hplays
    | delete ns name user => exact reports_delete hplays
  refine ⟨_, hvalue, ?_⟩
  cases outcome with
  | ok response => exact .inl hreports
  | error failure => exact .inr ⟨failure, hreports, rfl, rfl⟩

/-- The secret of an endpoint cannot be created, and its route cannot be deleted after that. -/
theorem failed_deletion_told :
    let config := Specimen.config
    let taken : Failure := .taken .secret "default" "one-secret"
    let late : Failure := .internal (.timedOut .ingressRoute "default" "one")
    let w : World :=
      { Specimen.world with
        rules := [Specimen.failing .create .secret taken,
          Specimen.failing .delete .ingressRoute late] }
    let request := Specimen.request "POST" "" "alice" (Specimen.guardedBody "one")
    let body : CreateBody := ⟨"one", "node", true⟩
    let answerer := World.answerer Specimen.plain
    let play := (serve config 1000 request).play answerer w
    Demand.ofRequest request = .ok (.create "default" "alice" body) ∧
      (requestOf "default" "alice" body).validate = .ok () ∧
      ∃ response failure, play.value = .ok response ∧ response.status = 500 ∧
        Cause config (fun outcome => ∃ s, (answerer s .baseUrl).1 = outcome)
          (.create "default" "alice" body) play.exchanges failure ∧ Tells failure response := by
  intro config taken late w request body answerer play
  have hdemand : Demand.ofRequest request = .ok (.create "default" "alice" body) :=
    Demand.ofRequest_eq_create (by decide +kernel) (by decide +kernel) rfl
      (eq_ok_of_toOption (by decide +kernel))
  have hvalid : (requestOf "default" "alice" body).validate = .ok () :=
    eq_ok_of_toOption (by decide +kernel)
  have hanswer : play.value.toOption.map Response.status = some 500 := by decide +kernel
  obtain ⟨response, hvalue, houtcome⟩ := no_failure_swallowed config 1000 request hdemand
    (fun ns user body he => by cases he; exact hvalid) answerer w
  have hstatus : response.status = 500 := by
    have hsame : play.value = .ok response := hvalue
    rw [hsame] at hanswer
    exact Option.some.inj hanswer
  refine ⟨hdemand, hvalid, response, ?_⟩
  rcases houtcome with ⟨hsuccess, _⟩ | ⟨failure, hcause, htells⟩
  · omega
  · exact ⟨failure, hvalue, hstatus, hcause, htells⟩

end TenantEndpoints.Http
