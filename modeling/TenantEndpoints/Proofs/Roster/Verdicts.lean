import TenantEndpoints.Proofs.Roster.Orders

/-!
# Verdicts

What the creations and deletions of a scenario come to, over HTTP or not, as far
as it can be foretold: whether they succeed, and how they fail. Without rules the
verdicts of a scenario and its roster at the end follow from its roster at the
beginning.
-/
namespace TenantEndpoints

open Endpoint

/-- What is said of a creation or a deletion. -/
inductive Verdict
  | done
  | failed (failureClass : FailureClass)
  /-- A request got a response, with a status. -/
  | answered (status : Nat)
  /-- The body of a request broke off, and there was no response. -/
  | unanswered (fault : Http.ReadFault)
  deriving DecidableEq, Repr

namespace Verdict

def ofResult : Except FailureClass Unit → Verdict
  | .ok () => .done
  | .error failureClass => .failed failureClass

def ofReply : Except Http.ReadFault Http.Response → Verdict
  | .ok response => .answered response.status
  | .error fault => .unanswered fault

/-- Whether something was done. -/
def isSuccess : Verdict → Bool
  | .done => true
  | .answered status => 200 ≤ status && status < 300
  | .failed _ | .unanswered _ => false

end Verdict

namespace Task

/-- What a task is to do to an endpoint, if it is more than to read. -/
def order? : Task → Option Order
  | .create request service _ => some (.create request fun _ => .ok service)
  | .delete ns name _ => some (.delete ⟨ns, name⟩ none)
  | .serve _ request => match Http.Demand.ofRequest request with
    | .ok demand => demand.order?
    | .error _ => none
  | .get _ _ _ | .list _ _ _ | .count _ _ _ | .credentials _ _ _ | .ensureActivity _
  | .ensureCache _ => none

/-- The verdict that a reply is, unless the request only asked to read. -/
def verdictOn? (request : Http.Request) (reply : Except Http.ReadFault Http.Response) :
    Option Verdict :=
  match Http.Demand.ofRequest request with
  | .ok demand => demand.order?.map fun _ => .ofReply reply
  | .error _ => some (.ofReply reply)

/-- Does a task and gives the verdict on it. -/
def judged (config : Config) : Task → Program (Option Verdict)
  | .create request service deadline =>
    (fun r => some (.ofResult (resultOf r))) <$> (Endpoint.create config request service deadline).run
  | .delete ns name deadline =>
    (fun r => some (.ofResult (resultOf r))) <$> (Endpoint.delete ns name deadline).run
  | .serve timeoutMs request => verdictOn? request <$> Http.serve config timeoutMs request
  | task => (fun _ => none) <$> task.program config

theorem program_eq (config : Config) (task : Task) :
    task.program config = (fun _ => ()) <$> task.judged config := by
  cases task <;> simp only [program, judged, Functor.map_map]

/-- The verdict on a task that follows from a roster. -/
def foretold? (config : Config) (services : Store .service) (domain : Except Failure String)
    (roster : Roster) : Task → Option Verdict
  | .serve _ request => match Http.Demand.ofRequest request with
    | .ok demand => demand.order?.map fun order =>
      .answered (order.status (order.settle config services domain (roster order.key)))
    | .error response => some (.ofReply response)
  | task => task.order?.map fun order =>
    .ofResult ((order.settle config services domain (roster order.key)).map fun _ => ())

end Task

/-- The roster after what is to be done to an endpoint, if anything is. -/
def Roster.follow (config : Config) (services : Store .service) (domain : Except Failure String)
    (roster : Roster) : Option Order → Roster
  | some order => roster.enter order.key (order.settle config services domain (roster order.key))
  | none => roster

section Tasks
variable {config : Config} {services : Store .service} {domain : Except Failure String}
  {roster : Roster} {c c' : Cluster} {t : List Exchange} {task : Task} {verdict? : Option Verdict}

theorem Settles.verdict {key : Key} {settled : Except FailureClass (Option Enrolment)}
    {r : Except Failure α} (h : Settles services roster key settled r c') :
    Verdict.ofResult (resultOf r) = .ofResult (settled.map fun _ => ()) :=
  congrArg Verdict.ofResult h.result

theorem foretold_serve {timeoutMs : Nat} {request : Http.Request}
    (h : Enrols services roster c)
    (hplays : ((Task.serve timeoutMs request).judged config).Plays (· = domain) t verdict?)
    (hs : c.Serves .none t c') :
    verdict? = (Task.serve timeoutMs request).foretold? config services domain roster ∧
      Enrols services (roster.follow config services domain (Task.serve timeoutMs request).order?)
        c' := by
  obtain ⟨reply, rfl, hserve⟩ := Program.plays_map.1 hplays
  replace hserve := Http.plays_serve hserve
  simp only [Task.foretold?, Task.order?, Task.verdictOn?]
  cases hd : Http.Demand.ofRequest request with
  | error response =>
    rw [hd] at hserve
    obtain ⟨rfl, rfl⟩ := hserve
    obtain rfl : c' = c := hs
    exact ⟨rfl, h⟩
  | ok demand =>
    rw [hd] at hserve
    obtain ⟨deadline, r, hattempt, rfl⟩ := hserve
    dsimp only
    cases ho : demand.order? with
    | none =>
      rw [(reads_of_demand ho hattempt).cluster_eq hs]
      exact ⟨rfl, h⟩
    | some order =>
      obtain ⟨hsettles, hstatus⟩ := settles_demand h ho hattempt hs
      exact ⟨congrArg (fun status => some (Verdict.answered status)) hstatus, hsettles.enrols⟩

/-- The verdict on a task and the roster after it follow from the roster before it. -/
theorem foretold_task (h : Enrols services roster c)
    (hplays : (task.judged config).Plays (· = domain) t verdict?) (hs : c.Serves .none t c') :
    verdict? = task.foretold? config services domain roster ∧
      Enrols services (roster.follow config services domain task.order?) c' := by
  cases task with
  | create request service deadline =>
    obtain ⟨r, rfl, hrun⟩ := Program.plays_map.1 hplays
    have hsettles : Settles services roster ⟨request.ns, request.name⟩
        ((Order.create request fun _ => .ok service).settle config services domain
          (roster ⟨request.ns, request.name⟩)) r c' := settles_create h rfl hrun hs
    exact ⟨congrArg some hsettles.verdict, hsettles.enrols⟩
  | delete ns name deadline =>
    obtain ⟨r, rfl, hrun⟩ := Program.plays_map.1 hplays
    have hsettles : Settles services roster ⟨ns, name⟩
        ((Order.delete ⟨ns, name⟩ none).settle config services domain (roster ⟨ns, name⟩)) r c' :=
      settles_delete h hrun hs
    exact ⟨congrArg some hsettles.verdict, hsettles.enrols⟩
  | serve timeoutMs request => exact foretold_serve h hplays hs
  | get | list | count | credentials =>
    obtain ⟨_, rfl, hrun⟩ := Program.plays_map.1 hplays
    rw [(reads_task rfl hrun).cluster_eq hs]
    exact ⟨rfl, h⟩
  | ensureActivity deadline =>
    obtain ⟨_, rfl, hrun⟩ := Program.plays_map.1 hplays
    obtain ⟨r, _, hrun⟩ := Program.plays_map.1 hrun
    obtain ⟨ended, hstep, _⟩ := plays_ensureExists (m := config.shared.activityMiddleware) hrun
    exact ⟨rfl, h.ensured List.mem_cons_self hstep hs⟩
  | ensureCache deadline =>
    obtain ⟨_, rfl, hrun⟩ := Program.plays_map.1 hplays
    obtain ⟨r, _, hrun⟩ := Program.plays_map.1 hrun
    obtain ⟨ended, hstep, _⟩ := plays_ensureExists (m := config.shared.cacheMiddleware) hrun
    exact ⟨rfl, h.ensured (List.mem_cons_of_mem _ List.mem_cons_self) hstep hs⟩

end Tasks

theorem Program.state_play_map (answerer : Answerer σ) (f : α → β) (p : Program α) (s : σ) :
    ((f <$> p).play answerer s).state = (p.play answerer s).state := by
  rw [Program.map_eq_bind, Program.play_bind]
  rfl

namespace Event

/-- What is to be done to an endpoint, if anything is. -/
def order? : Event → Option Order
  | .task _ job => job.order?
  | .wait _ | .rules _ => none

/-- The verdict on what happens in a world. -/
def verdict? (config : Config) (w : World) : Event → Option Verdict
  | .task s job => ((job.judged config).run s w).value
  | .wait _ | .rules _ => none

/-- The verdicts on all that happens, one event after the other. -/
def verdicts (config : Config) : List Event → World → List (Option Verdict)
  | [], _ => []
  | e :: es, w => e.verdict? config w :: verdicts config es (e.play config w).state

def foretold? (config : Config) (services : Store .service) (roster : Roster) :
    Event → Option Verdict
  | .task s job => job.foretold? config services s.domain roster
  | .wait _ | .rules _ => none

/-- The roster after an event. -/
def follow (config : Config) (services : Store .service) (roster : Roster) : Event → Roster
  | .task s job => roster.follow config services s.domain job.order?
  | .wait _ | .rules _ => roster

/-- The verdicts that follow from a roster. -/
def foretoldAll (config : Config) (services : Store .service) :
    List Event → Roster → List (Option Verdict)
  | [], _ => []
  | e :: es, roster => e.foretold? config services roster ::
    foretoldAll config services es (e.follow config services roster)

/-- The roster after all that happens. -/
def followAll (config : Config) (services : Store .service) : List Event → Roster → Roster
  | [], roster => roster
  | e :: es, roster => followAll config services es (e.follow config services roster)

end Event

/-- A world in which no call is disturbed, with the endpoints of a roster. -/
structure Foreseen (services : Store .service) (roster : Roster) (w : World) : Prop where
  enrols : Enrols services roster w.cluster
  rules : ∀ r ∈ w.rules, r.Keeps .none

section Scenarios
variable {config : Config} {services : Store .service} {roster : Roster} {w : World}

theorem Foreseen.event {e : Event} (h : Foreseen services roster w) (hnew : e.newRules = []) :
    e.verdict? config w = e.foretold? config services roster ∧
      Foreseen services (e.follow config services roster) (e.play config w).state := by
  cases e with
  | task s job =>
    obtain ⟨hplays, hserves, hkeep⟩ :=
      World.serves_run (· = s.domain) rfl (job.judged config) h.rules
    have hstate : ((Event.task s job).play config w).state =
        ((job.judged config).run s w).world := by
      rw [Program.run_world_eq_play]
      change ((job.program config).play (World.answerer s) w).state = _
      rw [job.program_eq config, Program.state_play_map]
    obtain ⟨hverdict, henrols⟩ := foretold_task h.enrols hplays hserves
    rw [hstate]
    exact ⟨hverdict, henrols, hkeep⟩
  | wait ms => exact ⟨rfl, h.enrols, h.rules⟩
  | rules rs =>
    obtain rfl : rs = [] := hnew
    exact ⟨rfl, h.enrols, fun _ hr => nomatch hr⟩

/-- The verdicts on a scenario without rules, and its roster at the end, follow from
its roster at the beginning. -/
theorem Foreseen.scenario {events : List Event} (h : Foreseen services roster w)
    (hnew : ∀ e ∈ events, e.newRules = []) :
    Event.verdicts config events w = Event.foretoldAll config services events roster ∧
      Foreseen services (Event.followAll config services events roster)
        (Event.after config events w) := by
  induction events generalizing roster w with
  | nil => exact ⟨rfl, h⟩
  | cons e events ih =>
    obtain ⟨hnew, hnews⟩ := List.forall_mem_cons.1 hnew
    obtain ⟨hverdict, hnext⟩ : e.verdict? config w = _ ∧ _ := h.event hnew
    obtain ⟨hverdicts, hend⟩ := ih hnext hnews
    refine ⟨?_, hend⟩
    simp only [Event.verdicts, Event.foretoldAll, hverdict, hverdicts]

end Scenarios

end TenantEndpoints
