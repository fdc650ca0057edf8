import TenantEndpoints.Proofs.Program.Play

/-!
# Keeping time

Who answers calls may have a clock, and take some time for each of them. A call that is
made before its deadline and takes no longer than to it is answered as if it had none.
What becomes of the others is left open here, and so is how long anything takes and
what is answered. The world keeps time in this sense.
-/
namespace TenantEndpoints

/-- An answerer that keeps time. -/
structure Timekeeper (σ : Type u) where
  answerer : Answerer σ
  clock : σ → Instant
  /-- How long the answer to a call takes, if it ever comes. -/
  duration : σ → Call → Option Nat
  /-- What is answered when there is time enough. -/
  reply : σ → (c : Call) → Except Failure c.Answer
  answer_now (s : σ) : answerer s .now = (clock s, s)
  answer_call {s : σ} {c : Call} {deadline : Instant} {d : Nat} (hduration : duration s c = some d)
    (hbefore : clock s < deadline) (hends : clock s + d ≤ deadline) :
    (answerer s (.call c deadline)).1 = reply s c

namespace World

/-- How long the rules delay a call. -/
def delay (w : World) (c : Call) : Nat :=
  ((Cluster.Rule.apply w.rules c).1.map Cluster.Rule.delayMs).getD 0

/-- What a rule answers to a call, or else the cluster. -/
def reply (w : World) (c : Call) : Except Failure c.Answer :=
  ((Cluster.Rule.apply w.rules c).1.bind (·.answer? c)).getD (w.cluster.answer c).1

/-- A call is answered after its delay, or else has timed out. -/
theorem call_outcome (w : World) (c : Call) (deadline : Instant) :
    (w.call c deadline).1 = if 0 < w.delay c ∧ deadline < w.clock + w.delay c then
      .error (.internal (.timedOut c.kind c.ns c.name)) else w.reply c := by
  unfold call delay reply
  generalize Cluster.Rule.apply w.rules c = found
  obtain ⟨rule?, rules⟩ := found
  simp only [answer]
  split
  · rfl
  · cases rule?.bind (·.answer? c) <;> rfl

/-- The world keeps time. -/
def timekeeper (s : Surroundings) : Timekeeper World where
  answerer := answerer s
  clock := clock
  duration w c := some (w.delay c)
  reply := reply
  answer_now _ := rfl
  answer_call {w c deadline d} hduration _ hends := by
    obtain rfl : w.delay c = d := Option.some.inj hduration
    refine (w.call_outcome c deadline).trans (if_neg ?_)
    exact fun hlate => absurd hlate.2 (Nat.not_lt.2 hends)

end World

end TenantEndpoints
