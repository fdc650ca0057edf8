import TenantEndpoints.Proofs.Endpoint.AllOrNothing
import TenantEndpoints.Proofs.Endpoint.Routing
import TenantEndpoints.Proofs.Program.Timekeeping

/-!
# Deadlines of a creation

All calls of a creation have the deadline that the creation has. Only the deletion that
takes its route back has five seconds from when it is made, or what is left of the
deadline if that is more. So it does not time out for the time that was lost before it,
and a route does not stay behind for that.
-/
namespace TenantEndpoints.Endpoint

section Taken
variable {ignoreConflicts : Bool} {deadline : Instant} {t : List Exchange}

theorem Step.Plays.deadline_eq {step : Step} {ended : Option Failure}
    (h : step.Plays ignoreConflicts deadline t ended) : ∀ x ∈ t, x.deadline = deadline := by
  cases h <;> simp

theorem Taken.deadline_eq {steps : List (Stage × Step)} {ended : Option (Stage × Failure)}
    (h : Taken ignoreConflicts deadline steps t ended) : ∀ x ∈ t, x.deadline = deadline := by
  induction h with
  | finished => simp
  | passed hs _ ih => exact List.forall_mem_append.2 ⟨hs.deadline_eq, ih⟩
  | stopped _ hs => exact hs.deadline_eq

end Taken

/-- A call among those of a creation is due when the creation is, unless it takes back the
route that the creation has made. -/
inductive Due (k : Timekeeper σ) (deadline : Instant) (es : List (Encounter σ))
    (e : Encounter σ) : Prop
  | onTime (hverb : e.exchange.call.verb ≠ .delete) (hdeadline : e.exchange.deadline = deadline)
  | takingBack (submitted route : IngressRoute)
      (hmade : ⟨.create submitted, deadline, .ok route⟩ ∈ es.map (·.exchange))
      (hcall : e.exchange.call =
        .delete .ingressRoute route.metadata.namespaceOrEmpty route.displayName)
      (hdeadline : e.exchange.deadline = max deadline (k.clock e.state + 5000))

/-- Each of the calls of a creation is due when the creation is, or takes its route back. -/
def AllDue (k : Timekeeper σ) (deadline : Instant) (es : List (Encounter σ)) : Prop :=
  ∀ e ∈ es, Due k deadline es e

/-- A deletion is answered as if it had no deadline, unless it takes more than five seconds. -/
def Unhurried (k : Timekeeper σ) (e : Encounter σ) : Prop :=
  e.exchange.call.verb = .delete → ∀ d, k.duration e.state e.exchange.call = some d → d ≤ 5000 →
    e.exchange.outcome = k.reply e.state e.exchange.call

section Play
variable {k : Timekeeper σ} {s : σ} {config : Config} {request : EndpointRequest}
  {service : Service} {deadline : Instant} {e : Encounter σ} {es es' : List (Encounter σ)}

theorem Due.mono (h : Due k deadline es e) (hes : ∀ e ∈ es, e ∈ es') : Due k deadline es' e := by
  cases h with
  | onTime hverb hdeadline => exact .onTime hverb hdeadline
  | takingBack submitted route hmade hcall hdeadline =>
    obtain ⟨e', he', hexchange⟩ := List.mem_map.1 hmade
    exact .takingBack submitted route (List.mem_map.2 ⟨e', hes e' he', hexchange⟩) hcall hdeadline

theorem AllDue.cons (hverb : e.exchange.call.verb ≠ .delete)
    (hdeadline : e.exchange.deadline = deadline) (h : AllDue k deadline es) :
    AllDue k deadline (e :: es) :=
  List.forall_mem_cons.2 ⟨.onTime hverb hdeadline,
    fun e' he' => (h e' he').mono fun _ => List.mem_cons_of_mem e⟩

/-- What takes a route back has at least five seconds. -/
theorem Due.unhurried (h : Due k deadline es e) {p : Program α}
    (he : e ∈ (p.play k.answerer s).encounters) : Unhurried k e := by
  intro hverb d hduration hd
  cases h with
  | onTime hne _ => exact absurd hverb hne
  | takingBack _ _ _ _ hdeadline =>
    have hlong : k.clock e.state + 5000 ≤ e.exchange.deadline := hdeadline ▸ Nat.le_max_right _ _
    rw [p.outcome_of_mem_play he]
    exact k.answer_call hduration
      (Nat.lt_of_lt_of_le (Nat.lt_add_of_pos_right (by decide)) hlong)
      (Nat.le_trans (Nat.add_le_add_left hd _) hlong)

/-- A provision does without deletions and has one deadline. -/
theorem onTime_of_mem_provision {useBasicAuth : Bool} {route : IngressRoute}
    (h : e ∈ ((provision config useBasicAuth route deadline).run.play k.answerer s).encounters) :
    Due k deadline es e := by
  obtain ⟨t, hmem, hplays⟩ := Program.exists_plays_of_mem_play _ h
  obtain ⟨_, _, ht, _⟩ := plays_provision hplays
  exact .onTime (ht.verb_ne_delete _ hmem) (ht.deadline_eq _ hmem)

/-- The clock is looked at right before the deletion. -/
theorem mem_compensate {route : IngressRoute} {stage : Stage} {failure : Failure}
    (h : e ∈ ((compensate route stage failure deadline).play k.answerer s).encounters) :
    e.exchange.call = .delete .ingressRoute route.metadata.namespaceOrEmpty route.displayName ∧
      e.exchange.deadline = max deadline (k.clock e.state + 5000) := by
  unfold compensate logWarn at h
  rcases Program.mem_encounters_bind.1 h with h | h
  · cases h
  rcases Program.mem_encounters_bind.1 h with h | h
  · cases h
  rcases Program.mem_encounters_bind.1 h with h | h
  · cases List.mem_singleton.1 h
    simp [Program.perform, Program.play, k.answer_now, compensationTimeout]
  · split at h
    · cases h
    · rcases Program.mem_encounters_bind.1 h with h | h <;> cases h

/-- The submission of a route, and what follows it. -/
theorem run_createWith_eq (config : Config) (request : EndpointRequest) (service : Service)
    (domain : String) (ids : List String) (deadline : Instant) :
    (createWith config request service domain ids deadline).run =
      .step (.call (.create (submission config request service domain ids)) deadline) fun
        | .error failure => .done (.error failure)
        | .ok route =>
          logInfo "Created IngressRoute" [("ports", toString
            (List.zipWith ExposedPort.mk ids (config.ports.eligible service)).length)] >>= fun _ =>
          (provision config request.useBasicAuth route deadline).run >>= fun
            | .ok credentials => .done (.ok ⟨route, credentials⟩)
            | .error (stage, failure) =>
              compensate route stage failure deadline >>= fun reason => .done (.error reason) := by
  unfold createWith
  change Program.step _ _ = _
  congr 1
  funext submitted
  cases submitted with
  | error failure => rfl
  | ok route =>
    refine Attempt.run_lift_bind.trans (congrArg _ (funext fun _ => ?_))
    refine Attempt.run_lift_bind.trans (congrArg _ (funext fun provided => ?_))
    cases provided with
    | ok credentials => rfl
    | error ended => exact Attempt.run_lift_bind

/-- The one call after the provision takes back the route that the first has made. -/
theorem allDue_createWith {domain : String} {ids : List String} : AllDue k deadline
    ((createWith config request service domain ids deadline).run.play k.answerer s).encounters := by
  rw [run_createWith_eq]
  simp only [Program.play, Encounter.ofEffect, List.singleton_append]
  generalize k.answerer s (.call (.create (submission config request service domain ids)) deadline) =
    answered
  obtain ⟨failure | route, s'⟩ := answered
  · intro e he
    cases List.mem_singleton.1 he
    exact .onTime (by rintro ⟨⟩) rfl
  intro e he
  rcases List.mem_cons.1 he with rfl | he
  · exact .onTime (by rintro ⟨⟩) rfl
  rcases Program.mem_encounters_bind.1 he with he | he
  · cases he
  rcases Program.mem_encounters_bind.1 he with he | he
  · exact onTime_of_mem_provision he
  split at he
  · cases he
  rcases Program.mem_encounters_bind.1 he with he | he
  · obtain ⟨hcall, hdeadline⟩ := mem_compensate he
    exact .takingBack _ route List.mem_cons_self hcall hdeadline
  · cases he

/-- All calls of a creation are due when it is, but for the one that takes its route back. -/
theorem allDue_create : AllDue k deadline
    ((create config request service deadline).run.play k.answerer s).encounters := by
  cases hr : refusal? config request service with
  | some failure =>
    rw [run_create_eq, hr]
    exact fun e he => absurd he List.not_mem_nil
  | none =>
    cases hdomain : (k.answerer s .baseUrl).1 with
    | error failure =>
      simp only [run_create_eq, hr, Program.play, hdomain]
      exact fun e he => absurd he List.not_mem_nil
    | ok domain =>
      rw [play_create hr hdomain]
      exact allDue_createWith

end Play

/-- What is to be deleted takes at most five seconds, and would be deleted if it had all the
time in the world. -/
def Deletable (es : List (Encounter World)) : Prop :=
  ∀ e ∈ es, e.exchange.call.verb = .delete → e.state.delay e.exchange.call ≤ 5000 ∧
    (e.state.reply e.exchange.call).isOk = true

/-- What is deletable is deleted, whenever that is due. -/
theorem succeeded_of_deletable {s : Surroundings} {w : World} {deadline : Instant} {p : Program α}
    (hdue : AllDue (World.timekeeper s) deadline (p.play (World.answerer s) w).encounters)
    (h : Deletable (p.play (World.answerer s) w).encounters) :
    ∀ x ∈ p.exchanges s w, x.call.verb = .delete → x.Succeeded := by
  intro x hx hverb
  obtain ⟨e, he, rfl⟩ := List.mem_map.1 hx
  obtain ⟨hdelay, hok⟩ := h e he hverb
  have houtcome : e.exchange.outcome = e.state.reply e.exchange.call :=
    (hdue e he).unhurried he hverb _ rfl hdelay
  unfold Exchange.Succeeded
  rw [houtcome]
  cases hreply : e.state.reply e.exchange.call with
  | ok answer => exact ⟨answer, rfl⟩
  | error failure =>
    rw [hreply] at hok
    cases hok

/-- A creation that fails leaves the routes as they are if what is to be deleted is deleted. -/
theorem routes_of_plays_create {config : Config} {request : EndpointRequest} {service : Service}
    {deadline : Instant} {t : List Exchange} {r : Except Failure Created} {c c' : Cluster}
    (h : (create config request service deadline).run.Plays Lookup.any t r)
    (hserves : c.Serves Interference.any t c') (hfails : ∀ created, r ≠ .ok created)
    (hdeleted : ∀ x ∈ t, x.call.verb = .delete → x.Succeeded) : c'.routes = c.routes := by
  rcases plays_create h with ⟨failure, rfl, _⟩ | ⟨domain, ids, _, _, hsaga⟩
  · exact congrArg Cluster.routes hserves
  · obtain ⟨left, houtcome, hleft⟩ :=
      outcome_of_saga hsaga hserves (Option.some_ne_none request.name)
    cases houtcome with
    | unmade failure => rfl
    | completed _ _ _ => exact absurd rfl (hfails _)
    | takenBack failure hbegun => exact hbegun.routes_without
    | leftBehind failure _ =>
      obtain ⟨_, deadline', deleteFailure, hmem⟩ := hleft _ rfl
      obtain ⟨_, hanswer⟩ := hdeleted _ hmem rfl
      cases hanswer

end TenantEndpoints.Endpoint
