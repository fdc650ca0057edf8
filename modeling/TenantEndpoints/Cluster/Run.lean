import TenantEndpoints.Cluster.Basic

/-!
# Runs

A program runs on a cluster, effect by effect. Rules disturb its calls: they
delay them, fail them, or answer in the cluster's place. They are tried in their
order, and the first one that has not been used up applies. The clock moves only
when a rule delays a call, and a call that would end after its deadline fails at
the deadline without having had any effect. Every call and every log entry is told.
-/
namespace TenantEndpoints

namespace Cluster

/-- What a rule does with a call on resources of a kind. -/
inductive Disturbance (k : Kind)
  /-- Lets the cluster answer. -/
  | letPass
  | fail (failure : Failure)
  /-- Answers with a resource; a deletion just succeeds. -/
  | substitute (r : Resource k)

/-- What a disturbance answers to a call, unless it leaves that to the cluster. -/
def Disturbance.answer? : (c : Call) → Disturbance c.kind → Option (Except Failure c.Answer)
  | _, .letPass => none
  | _, .fail failure => some (.error failure)
  | .create _, .substitute r => some (.ok r)
  | .get _ _ _, .substitute r => some (.ok r)
  | .list _ _ _, .substitute r => some (.ok [r])
  | .delete _ _ _, .substitute _ => some (.ok ())

structure Rule where
  verb : Verb
  kind : Kind
  /-- The name that a call has to be about, if not any. -/
  name : Option String
  /-- How many calls are still passed over. -/
  skip : Nat
  /-- How many calls it still applies to, if not any number. -/
  times : Option Nat
  delayMs : Nat
  disturbance : Disturbance kind

namespace Rule

def concerns (r : Rule) (c : Call) : Bool :=
  r.verb = c.verb && r.kind = c.kind && r.name.all (· = c.name)

/-- The first rule that applies to a call, and the rules after it has been looked for. -/
def apply : List Rule → Call → Option Rule × List Rule
  | [], _ => (none, [])
  | r :: rs, c =>
    if !r.concerns c || r.times = some 0 && r.skip = 0 then
      let (found, rs') := apply rs c
      (found, r :: rs')
    else if 0 < r.skip then
      let (found, rs') := apply rs c
      (found, { r with skip := r.skip - 1 } :: rs')
    else (some r, { r with times := r.times.map (· - 1) } :: rs)

/-- What a rule answers to a call on its kind of resources. -/
def answer? (r : Rule) (c : Call) : Option (Except Failure c.Answer) :=
  if h : r.kind = c.kind then (h ▸ r.disturbance : Disturbance c.kind).answer? c else none

end Rule

end Cluster

/-- What stays the same during a run. -/
structure Surroundings where
  random : RandomSource
  domain : Except Failure String

/-- What a run changes. -/
structure World where
  cluster : Cluster := {}
  rules : List Cluster.Rule := []
  clock : Instant := 0
  /-- How many random characters have been drawn. -/
  drawn : Nat := 0

/-- What a run tells. -/
inductive Entry
  /-- A call that was made `remaining` milliseconds before its deadline. -/
  | called (c : Call) (remaining : Int)
  | logged (entry : LogEntry)

/-- The result of a run with the world after it and what it told. -/
structure Run (α : Type) where
  value : α
  world : World
  entries : List Entry

namespace World

/-- Answers a call after a rule has been looked for. -/
def answer (w : World) (rule? : Option Cluster.Rule) (c : Call) (deadline : Instant) :
    Except Failure c.Answer × World :=
  let delay := (rule?.map Cluster.Rule.delayMs).getD 0
  if 0 < delay ∧ deadline < w.clock + delay then
    (.error (.internal (.timedOut c.kind c.ns c.name)), { w with clock := max w.clock deadline })
  else
    let w := { w with clock := w.clock + delay }
    match rule?.bind (·.answer? c) with
    | some outcome => (outcome, w)
    | none =>
      let (outcome, cluster) := w.cluster.answer c
      (outcome, { w with cluster })

/-- Makes a call. -/
def call (w : World) (c : Call) (deadline : Instant) : Except Failure c.Answer × World :=
  let (rule?, rules) := Cluster.Rule.apply w.rules c
  { w with rules }.answer rule? c deadline

/-- Performs one effect. -/
def perform (s : Surroundings) (w : World) : (e : Effect) → Run e.Answer
  | .call c deadline =>
    let (outcome, w') := w.call c deadline
    ⟨outcome, w', [.called c (deadline - w.clock : Int)]⟩
  | .draw count => ⟨s.random.take w.drawn count, { w with drawn := w.drawn + count }, []⟩
  | .now => ⟨w.clock, w, []⟩
  | .baseUrl => ⟨s.domain, w, []⟩
  | .log entry => ⟨(), w, [.logged entry]⟩

end World

namespace Program

/-- Runs a program to its end. -/
def run (s : Surroundings) : Program α → World → Run α
  | .done a, w => ⟨a, w, []⟩
  | .step e next, w =>
    let first := w.perform s e
    let rest := (next first.value).run s first.world
    { rest with entries := first.entries ++ rest.entries }

@[simp] theorem run_done (s : Surroundings) (a : α) (w : World) :
    (done a).run s w = ⟨a, w, []⟩ := rfl

theorem run_bind (s : Surroundings) (p : Program α) (f : α → Program β) (w : World) :
    (p >>= f).run s w =
      let first := p.run s w
      let rest := (f first.value).run s first.world
      { rest with entries := first.entries ++ rest.entries } := by
  induction p generalizing w with
  | done a => simp
  | step e next ih => simp [run, ih, List.append_assoc]

end Program

end TenantEndpoints
