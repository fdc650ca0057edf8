import TenantEndpoints.Proofs.Likeness.Http
import TenantEndpoints.Proofs.Specimen

/-!
# Scenarios under different random text

A scenario is run twice with different random text. Step by step the two runs
make the same calls, draw equally much, keep resources under the same keys, log
the same, and fail alike. What they show and what they store differs in public ids
and in credentials, and in nothing else.
-/
namespace TenantEndpoints.Scenario

/-- What may be asked of endpoints, or of the cluster directly. -/
inductive Job
  | create (request : EndpointRequest) (service : Service)
  | get (ns name : String)
  | list (ns : String) (selector : Selector)
  | count (ns : String) (selector : Selector)
  | delete (ns name : String)
  | credentials (ns name : String)
  | ensureActivity
  | ensureCache
  | ensureExists (name ns : String) (build : Except Failure Middleware) (ignoreConflicts : Bool)
  | remove (k : Kind) (ns name : String)

/-- What comes of a step that does not fail. -/
inductive Result
  | nothing
  | created (c : Endpoint.Created)
  | route (r : IngressRoute)
  | resources {k : Kind} (rs : List (Resource k))
  | credentials (c : Option Credentials)
  | number (n : Nat)
  | served (outcome : Except Http.ReadFault Http.Response)

def Job.attempt (config : Endpoint.Config) (deadline : Instant) : Job → Attempt Result
  | .create request service => .created <$> Endpoint.create config request service deadline
  | .get ns name => .route <$> Endpoint.get ns name deadline
  | .list ns selector => .resources <$> Endpoint.list ns selector deadline
  | .count ns selector => .number <$> Endpoint.count ns selector deadline
  | .delete ns name => (fun _ => .nothing) <$> Endpoint.delete ns name deadline
  | .credentials ns name => .credentials <$> Endpoint.credentials ns name deadline
  | .ensureActivity => (fun _ => .nothing) <$> config.shared.ensureActivity deadline
  | .ensureCache => (fun _ => .nothing) <$> config.shared.ensureCache deadline
  | .ensureExists name ns build ignoreConflicts => (fun _ => .nothing) <$>
    SharedMiddlewares.ensureExists name ns build ignoreConflicts deadline
  | .remove k ns name => (fun _ => .nothing) <$> Attempt.call (.delete k ns name) deadline

/-- What happens in a scenario: something is asked for, over HTTP or not, or the
world is changed from outside, or it is looked at. -/
inductive Step
  | ask (timeoutMs : Nat) (job : Job)
  | serve (timeoutMs : Nat) (request : Http.Request)
  | seed {k : Kind} (r : Resource k)
  | addRule (rule : Cluster.Rule)
  | clearRules
  | advance (ms : Nat)
  | dump (k : Kind)

def Step.run (config : Endpoint.Config) (s : Surroundings) :
    Step → World → Run (Except Failure Result)
  | .ask timeoutMs job, w => (job.attempt config (w.clock + timeoutMs)).run.run s w
  | .serve timeoutMs request, w =>
    ((fun outcome => .ok (.served outcome)) <$> Http.serve config timeoutMs request).run s w
  | .seed r, w => ⟨.ok .nothing, { w with cluster := w.cluster.seed r }, []⟩
  | .addRule rule, w => ⟨.ok .nothing, { w with rules := w.rules ++ [rule] }, []⟩
  | .clearRules, w => ⟨.ok .nothing, { w with rules := [] }, []⟩
  | .advance ms, w => ⟨.ok .nothing, { w with clock := w.clock + ms }, []⟩
  | .dump k, w => ⟨.ok (.resources (w.cluster.store k).values), w, []⟩

/-- The runs of all steps, one after the other. -/
def runs (config : Endpoint.Config) (s : Surroundings) :
    List Step → World → List (Run (Except Failure Result))
  | [], _ => []
  | step :: steps, w =>
    step.run config s w :: runs config s steps (step.run config s w).world

/-- Results that differ only in ids and credentials that were drawn. -/
inductive Result.Alike : Result → Result → Prop
  | same (r : Result) : Result.Alike r r
  | created {c c' : Endpoint.Created} (h : c.Alike c') : Result.Alike (.created c) (.created c')
  | route {r r' : IngressRoute} (h : r.Alike r') : Result.Alike (.route r) (.route r')
  | resources {k : Kind} {rs rs' : List (Resource k)} (h : List.Forall₂ Resource.Alike rs rs') :
    Result.Alike (.resources rs) (.resources rs')
  | credentials {c c' : Option Credentials} (h : Option.Rel Credentials.Alike c c') :
    Result.Alike (.credentials c) (.credentials c')
  | served {r r' : Http.Response} (h : r.Alike r') :
    Result.Alike (.served (.ok r)) (.served (.ok r'))

section Steps
variable (config : Endpoint.Config) {s s' : Surroundings} {w w' : World}

theorem attempt_alike (deadline : Instant) (job : Job) :
    Attempt.Alike Result.Alike (job.attempt config deadline) (job.attempt config deadline) := by
  cases job with
  | create request service =>
    exact (Endpoint.create_alike config request service deadline).map fun _ _ => .created
  | get ns name => exact (Endpoint.get_alike ns name deadline).map fun _ _ => .route
  | list ns selector => exact (Endpoint.list_alike ns selector deadline).map fun _ _ => .resources
  | count ns selector =>
    refine (Endpoint.count_alike ns selector deadline).map fun n _ hn => ?_
    rw [hn]
    exact .same _
  | delete ns name => exact (Endpoint.delete_alike ns name deadline).map fun _ _ _ => .same _
  | credentials ns name =>
    exact (Endpoint.credentials_alike ns name deadline).map fun _ _ => .credentials
  | ensureActivity | ensureCache | ensureExists =>
    exact (SharedMiddlewares.ensureExists_alike ..).map fun _ _ _ => .same _
  | remove k ns name =>
    exact (Attempt.call_alike (.delete k ns name) deadline).map fun _ _ _ => .same _

theorem run_alike (hs : s.Alike s') (hw : w.Alike w') (step : Step) :
    Run.Alike (OutcomeAlike Result.Alike) (step.run config s w) (step.run config s' w') := by
  cases step with
  | ask timeoutMs job =>
    rw [Step.run, Step.run, hw.clock_eq]
    exact Program.Alike.run hs (attempt_alike config (w'.clock + timeoutMs) job) hw
  | serve timeoutMs request =>
    refine Program.Alike.run hs ((Http.serve_alike config timeoutMs request).map ?_) hw
    rintro _ _ (fault | hresponse)
    · exact .ok (.same _)
    · exact .ok (.served hresponse)
  | seed r =>
    have hcluster := hw.cluster.seed r
    exact ⟨.ok (.same _), ⟨hcluster, hw.rules_eq, hw.clock_eq, hw.drawn_eq⟩, .nil⟩
  | addRule rule =>
    have hrules := congrArg (· ++ [rule]) hw.rules_eq
    exact ⟨.ok (.same _), ⟨hw.cluster, hrules, hw.clock_eq, hw.drawn_eq⟩, .nil⟩
  | clearRules => exact ⟨.ok (.same _), ⟨hw.cluster, rfl, hw.clock_eq, hw.drawn_eq⟩, .nil⟩
  | advance ms =>
    have hclock := congrArg (· + ms) hw.clock_eq
    exact ⟨.ok (.same _), ⟨hw.cluster, hw.rules_eq, hclock, hw.drawn_eq⟩, .nil⟩
  | dump k => exact ⟨.ok (.resources (hw.cluster.store k).values), hw, .nil⟩

theorem runs_alike (hs : s.Alike s') (hw : w.Alike w') (steps : List Step) :
    List.Forall₂ (Run.Alike (OutcomeAlike Result.Alike)) (runs config s steps w)
      (runs config s' steps w') := by
  induction steps generalizing w w' with
  | nil => exact .nil
  | cons step steps ih =>
    have hstep := run_alike config hs hw step
    exact .cons hstep (ih hstep.world)

end Steps

/-- What shows of a call beside a resource that is submitted. -/
structure CallOutline where
  verb : Verb
  kind : Kind
  ns : String
  name : String
  selector : Option Selector
  /-- Milliseconds from the call to its deadline. -/
  remaining : Int
  deriving DecidableEq

def selector? : Call → Option Selector
  | .list _ _ selector => some selector
  | _ => none

def outline : Entry → CallOutline ⊕ LogEntry
  | .called c remaining => .inl ⟨c.verb, c.kind, c.ns, c.name, selector? c, remaining⟩
  | .logged entry => .inr entry

/-- The status of a response, if a step has one. -/
def status? : Except Failure Result → Option Nat
  | .ok (.served (.ok response)) => some response.status
  | _ => none

/-- How a step can fail. -/
inductive Refusal
  | failed (failure : Failure)
  | unread (fault : Http.ReadFault)
  | refused (response : Http.Response)

def refusal? : Except Failure Result → Option Refusal
  | .error failure => some (.failed failure)
  | .ok (.served (.error fault)) => some (.unread fault)
  | .ok (.served (.ok response)) => if 400 ≤ response.status then some (.refused response) else none
  | .ok _ => none

/-- Two runs cannot be told apart by what they do, but only by the ids and credentials in
what they show and store. -/
structure Indistinct (r r' : Run (Except Failure Result)) : Prop where
  /-- Both make the same calls and log the same, in one order. -/
  told_eq : r.entries.map outline = r'.entries.map outline
  drawn_eq : r.world.drawn = r'.world.drawn
  keys_eq : ∀ k, (r.world.cluster.store k).keys = (r'.world.cluster.store k).keys
  status_eq : status? r.value = status? r'.value
  refusal_eq : refusal? r.value = refusal? r'.value
  /-- What is shown, what was submitted, and what is stored differ only in what was drawn. -/
  alike : Run.Alike (OutcomeAlike Result.Alike) r r'

theorem outline_eq {x x' : Entry} (h : x.Alike x') : outline x = outline x' := by
  cases h with
  | @called c c' R h remaining =>
    have hselector : selector? c = selector? c' := by cases h <;> rfl
    simp only [outline, h.verb_eq, h.kind_eq, h.ns_eq, h.name_eq, hselector]
  | logged entry => rfl

section Values
variable {x x' : Except Failure Result}

theorem status?_eq (h : OutcomeAlike Result.Alike x x') : status? x = status? x' := by
  cases h with
  | error => rfl
  | ok h =>
    cases h with
    | served h => exact congrArg some h.status_eq
    | _ => rfl

theorem refusal?_eq (h : OutcomeAlike Result.Alike x x') : refusal? x = refusal? x' := by
  cases h with
  | error => rfl
  | ok h =>
    cases h with
    | served h =>
      simp only [refusal?, ← h.status_eq]
      split
      · next herror => rw [h.eq_of_error herror]
      · rfl
    | _ => rfl

end Values

theorem indistinct_of_alike {r r' : Run (Except Failure Result)}
    (h : Run.Alike (OutcomeAlike Result.Alike) r r') : Indistinct r r' := by
  have htold := List.rel_map (fun _ _ hx => outline_eq hx) h.entries
  rw [List.forall₂_eq_eq_eq] at htold
  exact ⟨htold, h.world.drawn_eq, fun k => (h.world.cluster.store k).keys_eq,
    status?_eq h.value, refusal?_eq h.value, h⟩

/-- Nothing that a scenario does, and nothing that it tells, depends on the random text:
with whatever letters and digits it is run, it shows them as ids and credentials, and it
stores them, but it cannot be told apart otherwise. -/
theorem randomness_noninterference (config : Endpoint.Config) (domain : Except Failure String)
    {random random' : RandomSource} (h : ∀ i, random i ∈ RandomSource.alphabet)
    (h' : ∀ i, random' i ∈ RandomSource.alphabet) (steps : List Step) (w : World) :
    List.Forall₂ Indistinct (runs config ⟨random, domain⟩ steps w)
      (runs config ⟨random', domain⟩ steps w) := by
  have hs : Surroundings.Alike ⟨random, domain⟩ ⟨random', domain⟩ := ⟨rfl, h, h'⟩
  exact (runs_alike config hs (.refl w) steps).imp fun _ _ => indistinct_of_alike

/-- An endpoint with basic authentication is created, its credentials are read, and it is
removed, with two texts that have no letter in common. -/
theorem two_texts_indistinct :
    let config := Specimen.config
    let steps : List Step :=
      [.ask 1000 (.create (Specimen.endpoint "one" "alice" true) Specimen.node),
        .ask 1000 (.credentials "default" "one"), .ask 1000 (.remove .ingressRoute "default" "one")]
    let s := Specimen.surroundings fun _ => 'a'
    let s' := Specimen.surroundings fun _ => 'b'
    let exposed (s : Surroundings) := (runs config s steps {}).map fun r =>
      r.world.cluster.routes.values.flatMap Endpoint.exposedPorts
    (∀ i, s.random i ∈ RandomSource.alphabet) ∧ (∀ i, s'.random i ∈ RandomSource.alphabet) ∧
      exposed s = [[⟨"aaaaaaaaaaaaaaaaalice", "rpc"⟩], [⟨"aaaaaaaaaaaaaaaaalice", "rpc"⟩], []] ∧
      exposed s' = [[⟨"bbbbbbbbbbbbbbbbalice", "rpc"⟩], [⟨"bbbbbbbbbbbbbbbbalice", "rpc"⟩], []] ∧
      List.Forall₂ Indistinct (runs config s steps {}) (runs config s' steps {}) := by
  intro config steps s s' exposed
  have ha : 'a' ∈ RandomSource.alphabet := by decide +kernel
  have hb : 'b' ∈ RandomSource.alphabet := by decide +kernel
  exact ⟨fun _ => ha, fun _ => hb, by decide +kernel, by decide +kernel,
    randomness_noninterference config (.ok "example.com") (fun _ => ha) (fun _ => hb) steps {}⟩

end TenantEndpoints.Scenario
