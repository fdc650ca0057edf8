import TenantEndpoints.Endpoint.Provision
import TenantEndpoints.Proofs.Program.Play

/-!
# The saga of a creation

A creation submits a route and then takes the steps that the route needs, each
after the one before has succeeded. A step that fails ends it: the route is
deleted, and nothing else is done. This holds whoever answers the calls.
-/
namespace TenantEndpoints.Endpoint

/-- What is done for a route after it has been created. -/
inductive Step
  /-- Fails before it makes a call. -/
  | hopeless (failure : Failure)
  | submit {k : Kind} (r : Resource k)
  /-- Looks for a shared middleware, and submits it if there is none. -/
  | ensure (m : Middleware)

namespace Step

/-- The exchanges of a step and the failure that ends it, if it fails. -/
inductive Plays (ignoreConflicts : Bool) (deadline : Instant) :
    Step → List Exchange → Option Failure → Prop
  | hopeless (failure : Failure) : Plays _ _ (.hopeless failure) [] (some failure)
  | submitted {k : Kind} (r r' : Resource k) :
    Plays _ _ (.submit r) [⟨.create r, deadline, .ok r'⟩] none
  | refused {k : Kind} (r : Resource k) (failure : Failure) :
    Plays _ _ (.submit r) [⟨.create r, deadline, .error failure⟩] (some failure)
  | found (m m' : Middleware) :
    Plays _ _ (.ensure m) [⟨.get .middleware m.key.ns m.key.name, deadline, .ok m'⟩] none
  | unclear (m : Middleware) (failure : Failure) (h : failure.isNotFound = false) :
    Plays _ _ (.ensure m)
      [⟨.get .middleware m.key.ns m.key.name, deadline, .error failure⟩] (some failure)
  | made (m m' : Middleware) (failure : Failure) (h : failure.isNotFound = true) :
    Plays _ _ (.ensure m)
      [⟨.get .middleware m.key.ns m.key.name, deadline, .error failure⟩,
        ⟨.create m, deadline, .ok m'⟩] none
  | ignored (m : Middleware) (failure conflict : Failure) (h : failure.isNotFound = true)
      (hi : ignoreConflicts = true) (hc : conflict.isConflict = true) :
    Plays _ _ (.ensure m)
      [⟨.get .middleware m.key.ns m.key.name, deadline, .error failure⟩,
        ⟨.create m, deadline, .error conflict⟩] none
  | failed (m : Middleware) (failure refusal : Failure) (h : failure.isNotFound = true)
      (hr : ¬ (ignoreConflicts = true ∧ refusal.isConflict = true)) :
    Plays _ _ (.ensure m)
      [⟨.get .middleware m.key.ns m.key.name, deadline, .error failure⟩,
        ⟨.create m, deadline, .error refusal⟩] (some refusal)

end Step

/-- Steps are taken one after the other. The first that fails is the last, and
its failure is told with its stage. -/
inductive Taken (ignoreConflicts : Bool) (deadline : Instant) :
    List (Stage × Step) → List Exchange → Option (Stage × Failure) → Prop
  | finished : Taken _ _ [] [] none
  | passed {stage : Stage} {step : Step} {steps : List (Stage × Step)} {t t' : List Exchange}
      {ended : Option (Stage × Failure)} (h : step.Plays ignoreConflicts deadline t none)
      (ht : Taken ignoreConflicts deadline steps t' ended) :
    Taken _ _ ((stage, step) :: steps) (t ++ t') ended
  | stopped {stage : Stage} {step : Step} (steps : List (Stage × Step)) {t : List Exchange}
      {failure : Failure} (h : step.Plays ignoreConflicts deadline t (some failure)) :
    Taken _ _ ((stage, step) :: steps) t (some (stage, failure))

/-- The steps for a route, given the credentials to use if it asks for them. -/
def steps (config : Config) (useBasicAuth : Bool) (route : IngressRoute)
    (credentials : Credentials) : List (Stage × Step) :=
  match ownerReference? route with
  | none => [(.stripPrefix, .hopeless (.internal (.missingUid route.displayName)))]
  | some owner =>
    [(.stripPrefix, .submit (stripPrefix route owner))] ++
    (if useBasicAuth then
      [(.secret, .submit (basicAuthSecret route owner credentials)),
        (.basicAuth, .submit (basicAuth route owner))]
    else []) ++
    [(.activity, .ensure config.shared.activityMiddleware),
      (.cache, .ensure config.shared.cacheMiddleware)]

/-- A created route can be referred to unless it has no name or no uid. -/
theorem ownerReference?_eq_none {route : IngressRoute} :
    ownerReference? route = none ↔ route.metadata.name = none ∨ route.metadata.uid = none := by
  unfold ownerReference?
  cases route.metadata.name <;> cases route.metadata.uid <;> simp

/-- What is reported after a route was to be deleted because of a failure. -/
def reported (failure : Failure) : Except Failure Unit → Failure
  | .ok () => failure
  | .error deleteFailure => deleteFailure

/-- The exchanges from the submission of a route on, and how the creation ends. -/
inductive Saga (config : Config) (useBasicAuth : Bool) (submitted : IngressRoute)
    (deadline : Instant) : List Exchange → Except Failure Created → Prop
  | refused (failure : Failure) :
    Saga _ _ _ _ [⟨.create submitted, deadline, .error failure⟩] (.error failure)
  | completed (route : IngressRoute) (credentials : Credentials) {t : List Exchange}
      (h : Taken config.shared.ignoreConflicts deadline
        (steps config useBasicAuth route credentials) t none) :
    Saga _ _ _ _ (⟨.create submitted, deadline, .ok route⟩ :: t)
      (.ok ⟨route, if useBasicAuth then some credentials else none⟩)
  | takenBack (route : IngressRoute) (credentials : Credentials) {t : List Exchange}
      {stage : Stage} {failure : Failure}
      (h : Taken config.shared.ignoreConflicts deadline
        (steps config useBasicAuth route credentials) t (some (stage, failure)))
      (now : Instant) (deleted : Except Failure Unit) :
    Saga _ _ _ _
      (⟨.create submitted, deadline, .ok route⟩ :: t ++
        [⟨.delete .ingressRoute route.metadata.namespaceOrEmpty route.displayName,
          max deadline (now + compensationTimeout), deleted⟩])
      (.error (reported failure deleted))

/-- Why a creation is refused before it asks for anything. -/
def refusal? (config : Config) (request : EndpointRequest) (service : Service) :
    Option Failure :=
  match request.validate with
  | .error reason => some (.invalid reason)
  | .ok () =>
    if (config.ports.eligible service).isEmpty then
      some (.invalid (.noEligiblePorts service.displayName))
    else none

theorem refusal?_eq_none_iff {config : Config} {request : EndpointRequest} {service : Service}
    (hvalid : request.validate = .ok ()) :
    refusal? config request service = none ↔ config.ports.eligible service ≠ [] := by
  unfold refusal?
  rw [hvalid]
  dsimp only
  split
  · next he => simpa using he
  · next he => simpa using he

/-- The route that is submitted under a domain, with its public ids. -/
def submission (config : Config) (request : EndpointRequest) (service : Service)
    (domain : String) (ids : List String) : IngressRoute :=
  (plan config request service domain
    (List.zipWith ExposedPort.mk ids (config.ports.eligible service))).route

/-- A creation once the domain and the public ids are known. -/
def createWith (config : Config) (request : EndpointRequest) (service : Service)
    (domain : String) (ids : List String) (deadline : Instant) : Attempt Created := do
  let ports := List.zipWith ExposedPort.mk ids (config.ports.eligible service)
  let route ← Attempt.call (.create (submission config request service domain ids)) deadline
  logInfo "Created IngressRoute" [("ports", toString ports.length)]
  match ← (provision config request.useBasicAuth route deadline).run with
  | .ok credentials => return { route, credentials }
  | .error (stage, failure) => throw (← compensate route stage failure deadline)

/-- A creation once the domain is known. -/
def createUnder (config : Config) (request : EndpointRequest) (service : Service)
    (domain : String) (deadline : Instant) : Attempt Created := do
  let names := config.ports.eligible service
  let ids ← PublicId.allocate config.idLength names.length request.userId
  createWith config request service domain ids deadline

theorem run_createUnder_eq (config : Config) (request : EndpointRequest) (service : Service)
    (domain : String) (deadline : Instant) :
    (createUnder config request service domain deadline).run =
      PublicId.allocate config.idLength (config.ports.eligible service).length request.userId >>=
        fun ids => (createWith config request service domain ids deadline).run :=
  Attempt.run_lift_bind

/-- A refusal comes before everything else, and then the domain is asked for. -/
theorem run_create_eq (config : Config) (request : EndpointRequest) (service : Service)
    (deadline : Instant) :
    (create config request service deadline).run =
      match refusal? config request service with
      | some failure => .done (.error failure)
      | none => .step .baseUrl fun
        | .ok domain => (createUnder config request service domain deadline).run
        | .error failure => .done (.error failure) := by
  unfold create refusal?
  rw [ExceptT.run_bind]
  cases hv : request.validate with
  | error reason => rfl
  | ok _ =>
    by_cases hn : (config.ports.eligible service).isEmpty
    · simp only [hn, if_true]
      rfl
    · simp only [hn]
      change Program.step .baseUrl _ = _
      congr 1
      funext domain
      cases domain with
      | error failure => rfl
      | ok domain => rfl

theorem plays_ensureExists {m : Middleware} {ignoreConflicts : Bool} {deadline : Instant}
    {t : List Exchange} {r : Except Failure Unit}
    (h : (SharedMiddlewares.ensureExists m.key.name m.key.ns (.ok m) ignoreConflicts
      deadline).run.Plays lookup t r) :
    ∃ ended, (Step.ensure m).Plays ignoreConflicts deadline t ended ∧
      r = match ended with | none => .ok () | some failure => .error failure := by
  unfold SharedMiddlewares.ensureExists at h
  obtain ⟨found, t₁, rfl, h₁⟩ := Attempt.plays_outcome_bind.1 h
  rcases found with failure | m'
  · cases hf : failure.isNotFound with
    | false =>
      simp only [hf] at h₁
      obtain ⟨rfl, rfl⟩ := h₁
      exact ⟨some failure, .unclear m failure hf, rfl⟩
    | true =>
      simp only [hf] at h₁
      obtain ⟨made, t₂, rfl, h₂⟩ := Attempt.plays_outcome_bind.1 h₁
      rcases made with conflict | m'
      · cases hi : ignoreConflicts && conflict.isConflict with
        | true =>
          simp only [hi] at h₂
          obtain ⟨_, rfl, h₃⟩ := Attempt.plays_lift.1 h₂
          cases Program.plays_log.1 h₃
          obtain ⟨hi, hc⟩ := Bool.and_eq_true_iff.1 hi
          exact ⟨none, .ignored m failure conflict hf hi hc, rfl⟩
        | false =>
          simp only [hi] at h₂
          obtain ⟨rfl, rfl⟩ := h₂
          exact ⟨some conflict, .failed m failure conflict hf (by simpa using hi), rfl⟩
      · obtain ⟨_, rfl, h₃⟩ := Attempt.plays_lift.1 h₂
        cases Program.plays_log.1 h₃
        exact ⟨none, .made m m' failure hf, rfl⟩
  · obtain ⟨rfl, rfl⟩ := h₁
    exact ⟨none, .found m m', rfl⟩

section Taken
variable {ignoreConflicts : Bool} {deadline : Instant} {xs ys : List (Stage × Step)}
  {t t' : List Exchange}

theorem Taken.append {ended : Option (Stage × Failure)}
    (h : Taken ignoreConflicts deadline xs t none)
    (h' : Taken ignoreConflicts deadline ys t' ended) :
    Taken ignoreConflicts deadline (xs ++ ys) (t ++ t') ended := by
  generalize hn : (none : Option (Stage × Failure)) = e at h
  induction h with
  | finished => exact h'
  | passed hs _ ih =>
    rw [List.append_assoc]
    exact .passed hs (ih hn)
  | stopped _ _ => cases hn

theorem Taken.append_stopped {e : Stage × Failure}
    (h : Taken ignoreConflicts deadline xs t (some e)) :
    Taken ignoreConflicts deadline (xs ++ ys) t (some e) := by
  generalize hn : some e = e' at h
  induction h with
  | finished => cases hn
  | passed hs _ ih => exact .passed hs (ih hn)
  | stopped _ hs => exact .stopped _ hs

/-- A single step is either passed or stops everything. -/
theorem Taken.single {stage : Stage} {step : Step} {ended : Option Failure}
    (h : step.Plays ignoreConflicts deadline t ended) :
    Taken ignoreConflicts deadline [(stage, step)] t (ended.map fun failure => (stage, failure)) := by
  cases ended with
  | none =>
    have hp : Taken ignoreConflicts deadline [(stage, step)] (t ++ []) none := .passed h .finished
    rwa [List.append_nil] at hp
  | some failure => exact .stopped [] h

end Taken

/-- What a chain of steps gives, given what it would give if none failed. -/
def ending (a : α) : Option ε → Except ε α
  | none => .ok a
  | some e => .error e

theorem plays_atStage {stage : Stage} {a : Attempt α} {t : List Exchange}
    {r : Except (Stage × Failure) α} :
    (atStage stage a).run.Plays lookup t r ↔
      ∃ r', r = r'.mapError (fun failure => (stage, failure)) ∧ a.run.Plays lookup t r' :=
  Attempt.plays_adapt

theorem plays_submit {k : Kind} {stage : Stage} {x : Resource k} {ignoreConflicts : Bool}
    {deadline : Instant} {t : List Exchange} {r : Except (Stage × Failure) (Resource k)}
    (h : (atStage stage (Attempt.call (.create x) deadline)).run.Plays lookup t r) :
    ∃ a ended, Taken ignoreConflicts deadline [(stage, .submit x)] t ended ∧ r = ending a ended := by
  obtain ⟨r', rfl, h₁⟩ := plays_atStage.1 h
  cases Attempt.plays_call.1 h₁
  cases r' with
  | ok a => exact ⟨a, none, Taken.single (.submitted x a), rfl⟩
  | error failure => exact ⟨x, _, Taken.single (.refused x failure), rfl⟩

theorem plays_ensure {stage : Stage} {m : Middleware} {ignoreConflicts : Bool}
    {deadline : Instant} {t : List Exchange} {r : Except (Stage × Failure) Unit}
    (h : (atStage stage (SharedMiddlewares.ensureExists m.key.name m.key.ns (.ok m)
      ignoreConflicts deadline)).run.Plays lookup t r) :
    ∃ ended, Taken ignoreConflicts deadline [(stage, .ensure m)] t ended ∧
      r = ending () ended := by
  obtain ⟨r', rfl, h₁⟩ := plays_atStage.1 h
  obtain ⟨ended, hs, rfl⟩ := plays_ensureExists h₁
  refine ⟨_, Taken.single hs, ?_⟩
  cases ended <;> rfl

/-- The rest of a chain is only reached without a failure. -/
theorem plays_bind_taken {x : ExceptT (Stage × Failure) Program α}
    {f : α → ExceptT (Stage × Failure) Program β} {ignoreConflicts : Bool} {deadline : Instant}
    {xs : List (Stage × Step)} {t : List Exchange} {r : Except (Stage × Failure) β}
    (h : (x >>= f).run.Plays lookup t r)
    (hx : ∀ {t r}, x.run.Plays lookup t r →
      ∃ a ended, Taken ignoreConflicts deadline xs t ended ∧ r = ending a ended) :
    (∃ e, Taken ignoreConflicts deadline xs t (some e) ∧ r = .error e) ∨
      ∃ a t₁ t₂, t = t₁ ++ t₂ ∧ Taken ignoreConflicts deadline xs t₁ none ∧
        x.run.Plays lookup t₁ (.ok a) ∧ (f a).run.Plays lookup t₂ r := by
  rcases Attempt.plays_bind.1 h with ⟨e, rfl, h₁⟩ | ⟨a, t₁, t₂, rfl, h₁, h₂⟩
  · obtain ⟨a, _ | e', ht, he⟩ := hx h₁
    · cases he
    · cases he
      exact .inl ⟨e, ht, rfl⟩
  · obtain ⟨a', _ | e', ht, he⟩ := hx h₁
    · exact .inr ⟨a, t₁, t₂, rfl, ht, h₁, h₂⟩
    · cases he

theorem plays_allocate {length count : Nat} {tenant : String} {t : List Exchange}
    {ids : List String} (h : (PublicId.allocate length count tenant).Plays lookup t ids) :
    t = [] ∧ ids.length = count := by
  induction count generalizing t ids with
  | zero =>
    obtain ⟨rfl, rfl⟩ := h
    exact ⟨rfl, rfl⟩
  | succ count ih =>
    unfold PublicId.allocate at h
    obtain ⟨token, t₁, t₂, rfl, h₁, h₂⟩ := Program.plays_bind.1 h
    obtain ⟨rest, t₃, t₄, rfl, h₃, h₄⟩ := Program.plays_bind.1 h₂
    obtain ⟨rfl, hlen⟩ := ih h₃
    obtain ⟨rfl, rfl⟩ := h₄
    rw [Program.plays_draw.1 h₁]
    exact ⟨rfl, by simp [hlen]⟩

theorem plays_generate {t : List Exchange} {credentials : Credentials}
    (h : Credentials.generate.Plays lookup t credentials) : t = [] := by
  unfold Credentials.generate PublicId.drawText at h
  simp only [Program.plays_bind] at h
  obtain ⟨_, _, _, rfl, ⟨_, _, _, rfl, h₁, h₂⟩, _, _, _, rfl, ⟨_, _, _, rfl, h₃, h₄⟩, h₅⟩ := h
  rw [Program.plays_draw] at h₁ h₃
  simp only [h₁, h₂.1, h₃, h₄.1, h₅.1, List.append_nil]

theorem plays_provisionBasicAuth {route : IngressRoute} {owner : OwnerReference}
    {ignoreConflicts : Bool} {deadline : Instant} {t : List Exchange}
    {r : Except (Stage × Failure) Credentials}
    (h : (provisionBasicAuth route owner deadline).run.Plays lookup t r) :
    ∃ credentials ended, Taken ignoreConflicts deadline
      [(.secret, .submit (basicAuthSecret route owner credentials)),
        (.basicAuth, .submit (basicAuth route owner))] t ended ∧
      r = ending credentials ended := by
  unfold provisionBasicAuth at h
  obtain ⟨credentials, t₁, t₂, rfl, h₁, h₂⟩ := Attempt.plays_lift_bind.1 h
  cases plays_generate h₁
  refine ⟨credentials, ?_⟩
  rcases plays_bind_taken h₂ plays_submit with ⟨e, ht, rfl⟩ | ⟨_, t₃, t₄, rfl, ht, _, h₃⟩
  · exact ⟨some e, ht.append_stopped, rfl⟩
  rcases plays_bind_taken h₃ plays_submit with ⟨e, ht', rfl⟩ | ⟨_, t₅, t₆, rfl, ht', _, h₄⟩
  · exact ⟨some e, ht.append ht', rfl⟩
  · obtain ⟨rfl, rfl⟩ := h₄
    exact ⟨none, by simpa using ht.append ht', rfl⟩

/-- The last two steps, which are the same for all endpoints. -/
theorem plays_ensureShared {shared : SharedMiddlewares} {deadline : Instant} {t : List Exchange}
    {a : α} {r : Except (Stage × Failure) α}
    (h : (do
      atStage .activity (shared.ensureActivity deadline)
      atStage .cache (shared.ensureCache deadline)
      return a : ExceptT (Stage × Failure) Program α).run.Plays lookup t r) :
    ∃ ended, Taken shared.ignoreConflicts deadline
      [(.activity, .ensure shared.activityMiddleware),
        (.cache, .ensure shared.cacheMiddleware)] t ended ∧
      r = ending a ended := by
  rcases plays_bind_taken h fun h => ⟨(), plays_ensure (m := shared.activityMiddleware) h⟩ with
    ⟨e, ht, rfl⟩ | ⟨_, t₁, t₂, rfl, ht, _, h₁⟩
  · exact ⟨some e, ht.append_stopped, rfl⟩
  rcases plays_bind_taken h₁ fun h => ⟨(), plays_ensure (m := shared.cacheMiddleware) h⟩ with
    ⟨e, ht', rfl⟩ | ⟨_, t₃, t₄, rfl, ht', _, h₂⟩
  · exact ⟨some e, ht.append ht', rfl⟩
  · obtain ⟨rfl, rfl⟩ := h₂
    exact ⟨none, by simpa using ht.append ht', rfl⟩

theorem plays_provision {config : Config} {useBasicAuth : Bool} {route : IngressRoute}
    {deadline : Instant} {t : List Exchange} {r : Except (Stage × Failure) (Option Credentials)}
    (h : (provision config useBasicAuth route deadline).run.Plays lookup t r) :
    ∃ credentials ended, Taken config.shared.ignoreConflicts deadline
      (steps config useBasicAuth route credentials) t ended ∧
      r = ending (if useBasicAuth then some credentials else none) ended := by
  unfold provision at h
  unfold steps
  cases ho : ownerReference? route with
  | none =>
    rw [ho] at h
    obtain ⟨rfl, rfl⟩ := h
    exact ⟨⟨"", ""⟩, _, Taken.single (.hopeless _), rfl⟩
  | some owner =>
    rw [ho] at h
    change (atStage .stripPrefix (Attempt.call (.create (stripPrefix route owner)) deadline) >>=
      _ : ExceptT (Stage × Failure) Program _).run.Plays lookup t r at h
    rcases plays_bind_taken h plays_submit with ⟨e, ht, rfl⟩ | ⟨_, t₁, t₂, rfl, ht, _, h₁⟩
    · exact ⟨⟨"", ""⟩, some e, by simpa only [List.append_assoc] using ht.append_stopped, rfl⟩
    cases useBasicAuth with
    | false =>
      obtain ⟨ended, ht', rfl⟩ := plays_ensureShared h₁
      exact ⟨⟨"", ""⟩, ended, by simpa using ht.append ht', rfl⟩
    | true =>
      rcases Attempt.plays_bind.1 h₁ with ⟨e, rfl, h₂⟩ | ⟨_, t₃, t₄, rfl, h₂, h₃⟩
      · obtain ⟨r', hr', h₃⟩ := Attempt.plays_map.1 h₂
        obtain ⟨credentials, ended, ht', rfl⟩ := plays_provisionBasicAuth h₃
        cases ended with
        | none => cases hr'
        | some e' =>
          cases hr'
          exact ⟨credentials, some _, (ht.append ht').append_stopped, rfl⟩
      · obtain ⟨r', hr', h₄⟩ := Attempt.plays_map.1 h₂
        obtain ⟨credentials, ended, ht', rfl⟩ := plays_provisionBasicAuth h₄
        cases ended with
        | some e' => cases hr'
        | none =>
          cases hr'
          obtain ⟨ended, ht'', rfl⟩ := plays_ensureShared h₃
          exact ⟨credentials, ended, by simpa using ht.append (ht'.append ht''), rfl⟩

/-- Taking a route back is one deletion, whose own failure is told in the place of the reason. -/
theorem plays_compensate {route : IngressRoute} {stage : Stage} {failure reason : Failure}
    {deadline : Instant} {t : List Exchange}
    (h : (compensate route stage failure deadline).Plays lookup t reason) :
    ∃ (now : Instant) (deleted : Except Failure Unit), t =
        [⟨.delete .ingressRoute route.metadata.namespaceOrEmpty route.displayName,
          max deadline (now + compensationTimeout), deleted⟩] ∧
      reason = reported failure deleted := by
  unfold compensate logWarn logError at h
  obtain ⟨_, _, t₁, rfl, hlog, h₁⟩ := Program.plays_bind.1 h
  obtain ⟨now, _, t₂, rfl, hnow, h₂⟩ := Program.plays_bind.1 h₁
  obtain ⟨deleted, _, t₃, rfl, hdel, h₃⟩ := Program.plays_bind.1 h₂
  cases Program.plays_log.1 hlog
  cases Program.plays_now.1 hnow
  cases Program.plays_call.1 hdel
  refine ⟨now, deleted, ?_⟩
  rcases deleted with deleteFailure | _
  · obtain ⟨_, _, _, rfl, hlog', h₄⟩ := Program.plays_bind.1 h₃
    cases Program.plays_log.1 hlog'
    obtain ⟨rfl, rfl⟩ := h₄
    exact ⟨rfl, rfl⟩
  · obtain ⟨rfl, rfl⟩ := h₃
    exact ⟨rfl, rfl⟩

theorem plays_createWith {config : Config} {request : EndpointRequest} {service : Service}
    {domain : String} {ids : List String} {deadline : Instant} {t : List Exchange}
    {r : Except Failure Created}
    (h : (createWith config request service domain ids deadline).run.Plays lookup t r) :
    Saga config request.useBasicAuth (submission config request service domain ids) deadline
      t r := by
  unfold createWith at h
  rcases Attempt.plays_call_bind.1 h with ⟨failure, rfl, rfl⟩ | ⟨route, t₂, rfl, h₂⟩
  · exact .refused failure
  obtain ⟨_, _, t₃, rfl, hlog, h₃⟩ := Attempt.plays_lift_bind.1 h₂
  cases Program.plays_log.1 hlog
  obtain ⟨provided, t₄, t₅, rfl, h₄, h₅⟩ := Attempt.plays_lift_bind.1 h₃
  obtain ⟨credentials, ended, ht, rfl⟩ := plays_provision h₄
  rcases ended with _ | ⟨stage, failure⟩
  · obtain ⟨rfl, rfl⟩ := h₅
    simpa using Saga.completed route credentials ht
  · obtain ⟨reason, t₆, t₇, rfl, h₆, h₇⟩ := Attempt.plays_lift_bind.1 h₅
    obtain ⟨now, deleted, rfl, rfl⟩ := plays_compensate h₆
    obtain ⟨rfl, rfl⟩ := h₇
    simpa using Saga.takenBack route credentials ht now deleted

theorem plays_createUnder {config : Config} {request : EndpointRequest} {service : Service}
    {domain : String} {deadline : Instant} {t : List Exchange} {r : Except Failure Created}
    (h : (createUnder config request service domain deadline).run.Plays lookup t r) :
    ∃ ids : List String, ids.length = (config.ports.eligible service).length ∧
      Saga config request.useBasicAuth (submission config request service domain ids) deadline
        t r := by
  rw [run_createUnder_eq] at h
  obtain ⟨ids, _, t₁, rfl, hids, h₁⟩ := Program.plays_bind.1 h
  obtain ⟨rfl, hlen⟩ := plays_allocate hids
  exact ⟨ids, hlen, plays_createWith h₁⟩

/-- A creation that is refused or has no domain makes no call. -/
theorem plays_create {config : Config} {request : EndpointRequest} {service : Service}
    {deadline : Instant} {t : List Exchange} {r : Except Failure Created}
    (h : (create config request service deadline).run.Plays lookup t r) :
    (∃ failure, t = [] ∧ r = .error failure ∧ (refusal? config request service = some failure ∨
        refusal? config request service = none ∧ lookup (.error failure))) ∨
      ∃ (domain : String) (ids : List String), refusal? config request service = none ∧
        ids.length = (config.ports.eligible service).length ∧
        Saga config request.useBasicAuth (submission config request service domain ids) deadline
          t r := by
  rw [run_create_eq] at h
  cases hr : refusal? config request service with
  | some failure =>
    rw [hr] at h
    exact .inl ⟨failure, h.1, h.2, .inl rfl⟩
  | none =>
    rw [hr] at h
    obtain ⟨failure | domain, hlookup, h⟩ := h
    · exact .inl ⟨failure, h.1, h.2, .inr ⟨rfl, hlookup⟩⟩
    · obtain ⟨ids, hlen, hs⟩ := plays_createUnder h
      exact .inr ⟨domain, ids, rfl, hlen, hs⟩

/-- Whoever answers the calls, and whatever the domain lookup says: a creation
that is refused or has no domain fails so without a call, and any other follows
the saga from the submission of its route to its end. -/
theorem create_saga (config : Config) (request : EndpointRequest) (service : Service)
    (deadline : Instant) {σ : Type u} (answerer : Answerer σ) (s : σ) :
    let play := (create config request service deadline).run.play answerer s
    match refusal? config request service, (answerer s .baseUrl).1 with
    | some failure, _ => play.value = .error failure ∧ play.exchanges = []
    | none, .error failure => play.value = .error failure ∧ play.exchanges = []
    | none, .ok domain =>
      ∃ ids : List String, ids.length = (config.ports.eligible service).length ∧
        Saga config request.useBasicAuth (submission config request service domain ids) deadline
          play.exchanges play.value := by
  rw [run_create_eq]
  cases refusal? config request service with
  | some failure => exact ⟨rfl, rfl⟩
  | none =>
    simp only [Program.play]
    obtain ⟨failure | domain, s'⟩ := answerer s .baseUrl
    · exact ⟨rfl, rfl⟩
    · exact plays_createUnder (Program.plays_play answerer Lookup.any_apply
        (createUnder config request service domain deadline).run s')

end TenantEndpoints.Endpoint
