import TenantEndpoints.Proofs.ApiServer.Signals
import TenantEndpoints.Proofs.Program.Timekeeping

/-!
# Sessions with the API server

A client talks to a server that may do with each action whatever it likes: answer it, answer
something else, or take its time. The client waits no longer than to the deadline of a call.
Programs run in such a session as they run on a world, and it keeps time as a world does.
-/
namespace TenantEndpoints.ApiServer

/-- What a server does with an action in a state of its own. -/
abbrev Server (σ : Type u) := σ → Action → Script × σ

/-- A server in some state, and how far a client has come with it. -/
structure Session (σ : Type u) where
  server : σ
  clock : Instant := 0
  /-- How many random characters have been drawn. -/
  drawn : Nat := 0

namespace Session
variable {σ : Type u} (serve : Server σ) (x : Session σ) (c : Call) (deadline : Instant)

/-- What comes of a call. -/
def exchange : Exchange c.Answer :=
  ApiServer.exchange (.call c) (deadline - x.clock) (serve x.server (.call c)).1

def outcome : Except Failure c.Answer := (x.exchange serve c deadline).outcome

/-- The session when a call has come to its end. -/
def after : Session σ :=
  { x with
    server := (serve x.server (.call c)).2
    clock := x.clock + (x.exchange serve c deadline).elapsed }

/-- A call is refused by the server with a code. -/
def Refused (code : UInt16) : Prop :=
  (Action.call c).RefusedWith (deadline - x.clock) (serve x.server (.call c)).1 code

/-- The session as an answerer. -/
def answerer (s : Surroundings) : Answerer (Session σ)
  | x, .call c deadline => (x.outcome serve c deadline, x.after serve c deadline)
  | x, .draw count => (s.random.take x.drawn count, { x with drawn := x.drawn + count })
  | x, .now => (x.clock, x)
  | x, .baseUrl => (s.domain, x)
  | x, .log _ => ((), x)

/-- A session keeps time. An action that cannot be sent takes none. -/
def timekeeper (s : Surroundings) : Timekeeper (Session σ) where
  answerer := answerer serve s
  clock := clock
  duration x c := match (Action.call c).request with
    | .ok _ => (serve x.server (.call c)).1.delay
    | .error _ => some 0
  reply x c := match (Action.call c).request with
    | .ok _ => (Action.call c).conclude (serve x.server (.call c)).1.reply
    | .error failure => .error failure
  answer_now _ := rfl
  answer_call {x c deadline d} hduration hbefore hends := by
    change (ApiServer.exchange (.call c) (deadline - x.clock) (serve x.server (.call c)).1).outcome = _
    unfold ApiServer.exchange
    cases hrequest : (Action.call c).request with
    | error failure => rfl
    | ok request =>
      simp only [hrequest] at hduration
      have hintime : (some d).filter (fun delay =>
          decide (0 < deadline - x.clock) && decide (delay ≤ deadline - x.clock)) = some d := by
        refine Option.filter_some_pos ?_
        simp only [Bool.and_eq_true, decide_eq_true_eq]
        exact ⟨Nat.sub_pos_of_lt hbefore, Nat.le_sub_of_add_le' hends⟩
      simp only [hduration, hintime]

section Refused
variable {serve : Server σ} {x : Session σ} {c : Call} {deadline : Instant} {failure : Failure}

theorem Refused.outcome_eq {code : UInt16} (h : x.Refused serve c deadline code) :
    ∃ failure, x.outcome serve c deadline = .error failure :=
  Action.RefusedWith.outcome_eq h

theorem tells (h : x.outcome serve c deadline = .error failure) :
    Tells (.call c) (x.Refused serve c deadline) failure := tells_exchange h

theorem isNotFound_iff (h : x.outcome serve c deadline = .error failure) :
    failure.isNotFound = true ↔ x.Refused serve c deadline 404 := by
  rw [← (tells h).notFound, Failure.isNotFound, decide_eq_true_eq]

theorem isConflict_iff (h : x.outcome serve c deadline = .error failure) :
    failure.isConflict = true ↔ x.Refused serve c deadline 409 := by
  rw [← (tells h).conflict, Failure.isConflict, decide_eq_true_eq]

end Refused

end Session

end TenantEndpoints.ApiServer
