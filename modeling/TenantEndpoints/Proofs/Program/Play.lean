import TenantEndpoints.Cluster.Run

/-!
# Plays

A program leaves open who answers its effects. A play is what comes of it when
somebody does: the calls made with their outcomes, and the value at the end.
`Program.Plays` allows every answer to every effect, so what holds of all plays
holds whoever answers; only the domain lookup, which is no call on a resource, can
be held to some outcomes. `Program.play` lets one answerer with a state of its own
answer all effects, and a run on a world is such a play.
-/
namespace TenantEndpoints

/-- A call that was made, with its outcome. -/
structure Exchange where
  call : Call
  deadline : Instant
  outcome : Except Failure call.Answer

namespace Exchange

def Succeeded (x : Exchange) : Prop := ∃ answer, x.outcome = .ok answer

end Exchange

/-- Which outcomes the domain lookup may have. -/
abbrev Lookup := Except Failure String → Prop

def Lookup.any : Lookup := fun _ => True

theorem Lookup.any_apply {outcome : σ → Except Failure String} (s : σ) :
    Lookup.any (outcome s) := trivial

namespace Program

/-- Some answers lead the program through these exchanges to this value. Calls
may have any outcome, and the domain lookup those that are allowed here. -/
def Plays (lookup : Lookup) : Program α → List Exchange → α → Prop
  | .done a, t, b => t = [] ∧ b = a
  | .step (.call c deadline) next, t, b =>
    ∃ outcome t', t = ⟨c, deadline, outcome⟩ :: t' ∧ (next outcome).Plays lookup t' b
  | .step (.draw _) next, t, b => ∃ x, (next x).Plays lookup t b
  | .step .now next, t, b => ∃ x, (next x).Plays lookup t b
  | .step .baseUrl next, t, b => ∃ x, lookup x ∧ (next x).Plays lookup t b
  | .step (.log _) next, t, b => ∃ x, (next x).Plays lookup t b

@[simp] theorem plays_call {c : Call} {deadline : Instant} {t : List Exchange}
    {outcome : Except Failure c.Answer} :
    (perform (.call c deadline)).Plays lookup t outcome ↔ t = [⟨c, deadline, outcome⟩] := by
  simp only [perform, Plays]
  constructor
  · rintro ⟨_, _, rfl, rfl, rfl⟩
    rfl
  · rintro rfl
    exact ⟨_, _, rfl, rfl, rfl⟩

@[simp] theorem plays_log {entry : LogEntry} {t : List Exchange} {x : Unit} :
    (perform (.log entry)).Plays lookup t x ↔ t = [] := by
  simp [perform, Plays]

@[simp] theorem plays_draw {count : Nat} {t : List Exchange} {x : List Char} :
    (perform (.draw count)).Plays lookup t x ↔ t = [] := by
  simp [perform, Plays]

@[simp] theorem plays_now {t : List Exchange} {x : Instant} :
    (perform .now).Plays lookup t x ↔ t = [] := by
  simp [perform, Plays]

/-- A program that ends with another plays the one, then the other. -/
theorem plays_bind {p : Program α} {f : α → Program β} {t : List Exchange} {b : β} :
    (p >>= f).Plays lookup t b ↔
      ∃ a t₁ t₂, t = t₁ ++ t₂ ∧ p.Plays lookup t₁ a ∧ (f a).Plays lookup t₂ b := by
  induction p generalizing t with
  | done a =>
    constructor
    · intro h
      exact ⟨a, [], t, rfl, ⟨rfl, rfl⟩, h⟩
    · rintro ⟨_, _, _, rfl, ⟨rfl, rfl⟩, h⟩
      exact h
  | step e next ih =>
    cases e with
    | call c deadline =>
      simp only [step_bind, Plays, ih]
      constructor
      · rintro ⟨outcome, _, rfl, a, t₁, t₂, rfl, h₁, h₂⟩
        exact ⟨a, ⟨c, deadline, outcome⟩ :: t₁, t₂, rfl, ⟨outcome, t₁, rfl, h₁⟩, h₂⟩
      · rintro ⟨a, _, t₂, rfl, ⟨outcome, t₁, rfl, h₁⟩, h₂⟩
        exact ⟨outcome, t₁ ++ t₂, rfl, a, t₁, t₂, rfl, h₁, h₂⟩
    | baseUrl =>
      simp only [step_bind, Plays, ih]
      constructor
      · rintro ⟨x, hx, a, t₁, t₂, rfl, h₁, h₂⟩
        exact ⟨a, t₁, t₂, rfl, ⟨x, hx, h₁⟩, h₂⟩
      · rintro ⟨a, t₁, t₂, rfl, ⟨x, hx, h₁⟩, h₂⟩
        exact ⟨x, hx, a, t₁, t₂, rfl, h₁, h₂⟩
    | _ =>
      simp only [step_bind, Plays, ih]
      constructor
      · rintro ⟨x, a, t₁, t₂, rfl, h₁, h₂⟩
        exact ⟨a, t₁, t₂, rfl, ⟨x, h₁⟩, h₂⟩
      · rintro ⟨a, t₁, t₂, rfl, ⟨x, h₁⟩, h₂⟩
        exact ⟨x, a, t₁, t₂, rfl, h₁, h₂⟩

theorem plays_map {p : Program α} {f : α → β} {t : List Exchange} {b : β} :
    (f <$> p).Plays lookup t b ↔ ∃ a, b = f a ∧ p.Plays lookup t a := by
  rw [map_eq_bind, plays_bind]
  constructor
  · rintro ⟨a, t₁, _, rfl, h, rfl, rfl⟩
    exact ⟨a, rfl, by simpa using h⟩
  · rintro ⟨a, rfl, h⟩
    exact ⟨a, t, [], by simp, h, rfl, rfl⟩

end Program

namespace Attempt
variable {ε α β : Type} {t : List Exchange}

@[simp] theorem plays_call {c : Call} {deadline : Instant} {r : Except Failure c.Answer} :
    (call c deadline).run.Plays lookup t r ↔ t = [⟨c, deadline, r⟩] := Program.plays_call

/-- What is done without a chance to fail plays as it does on its own. -/
theorem plays_lift {p : Program α} {r : Except ε α} :
    (liftM p : ExceptT ε Program α).run.Plays lookup t r ↔ ∃ a, r = .ok a ∧ p.Plays lookup t a := by
  change (p >>= fun a => Program.done (.ok a)).Plays lookup t r ↔ _
  rw [← Program.map_eq_bind, Program.plays_map]

theorem plays_outcome {c : Call} {deadline : Instant}
    {r : Except Failure (Except Failure c.Answer)} :
    (outcome c deadline).run.Plays lookup t r ↔ ∃ x, r = .ok x ∧ t = [⟨c, deadline, x⟩] := by
  change (liftM (Program.perform (.call c deadline)) : ExceptT Failure Program _).run.Plays
    lookup t r ↔ _
  rw [plays_lift]
  constructor
  · rintro ⟨x, rfl, h⟩
    exact ⟨x, rfl, Program.plays_call.1 h⟩
  · rintro ⟨x, rfl, h⟩
    exact ⟨x, rfl, Program.plays_call.2 h⟩

/-- An attempt that goes on with another stops where the first one fails. -/
theorem plays_bind {x : ExceptT ε Program α} {f : α → ExceptT ε Program β} {r : Except ε β} :
    (x >>= f).run.Plays lookup t r ↔
      (∃ e, r = .error e ∧ x.run.Plays lookup t (.error e)) ∨
        ∃ a t₁ t₂, t = t₁ ++ t₂ ∧ x.run.Plays lookup t₁ (.ok a) ∧ (f a).run.Plays lookup t₂ r := by
  rw [ExceptT.run_bind, Program.plays_bind]
  constructor
  · rintro ⟨_ | a, t₁, t₂, rfl, h₁, h₂⟩
    · obtain ⟨rfl, rfl⟩ := h₂
      exact .inl ⟨_, rfl, by simpa using h₁⟩
    · exact .inr ⟨a, t₁, t₂, rfl, h₁, h₂⟩
  · rintro (⟨e, rfl, h⟩ | ⟨a, t₁, t₂, rfl, h₁, h₂⟩)
    · exact ⟨.error e, t, [], by simp, h, rfl, rfl⟩
    · exact ⟨.ok a, t₁, t₂, rfl, h₁, h₂⟩

theorem plays_outcome_bind {c : Call} {deadline : Instant}
    {f : Except Failure c.Answer → Attempt β} {r : Except Failure β} :
    (outcome c deadline >>= f).run.Plays lookup t r ↔
      ∃ x t', t = ⟨c, deadline, x⟩ :: t' ∧ (f x).run.Plays lookup t' r := by
  rw [plays_bind]
  constructor
  · rintro (⟨_, _, h⟩ | ⟨x, t₁, t₂, rfl, h, h₂⟩)
    · obtain ⟨_, h, _⟩ := plays_outcome.1 h
      cases h
    · obtain ⟨x', hx, rfl⟩ := plays_outcome.1 h
      cases hx
      exact ⟨x, t₂, rfl, h₂⟩
  · rintro ⟨x, t', rfl, h⟩
    exact .inr ⟨x, [_], t', rfl, plays_outcome.2 ⟨x, rfl, rfl⟩, h⟩

theorem plays_call_bind {c : Call} {deadline : Instant} {f : c.Answer → Attempt β}
    {r : Except Failure β} :
    (call c deadline >>= f).run.Plays lookup t r ↔
      (∃ failure, r = .error failure ∧ t = [⟨c, deadline, .error failure⟩]) ∨
        ∃ answer t', t = ⟨c, deadline, .ok answer⟩ :: t' ∧ (f answer).run.Plays lookup t' r := by
  rw [plays_bind]
  simp only [plays_call]
  constructor
  · rintro (h | ⟨answer, _, t', rfl, rfl, h⟩)
    · exact .inl h
    · exact .inr ⟨answer, t', rfl, h⟩
  · rintro (h | ⟨answer, t', rfl, h⟩)
    · exact .inl h
    · exact .inr ⟨answer, _, t', rfl, rfl, h⟩

theorem plays_lift_bind {p : Program α} {f : α → ExceptT ε Program β} {r : Except ε β} :
    ((liftM p : ExceptT ε Program α) >>= f).run.Plays lookup t r ↔
      ∃ a t₁ t₂, t = t₁ ++ t₂ ∧ p.Plays lookup t₁ a ∧ (f a).run.Plays lookup t₂ r := by
  rw [plays_bind]
  simp only [plays_lift]
  constructor
  · rintro (⟨_, _, _, h, _⟩ | ⟨a, t₁, t₂, rfl, ⟨a', ha, h₁⟩, h₂⟩)
    · cases h
    · cases ha
      exact ⟨a, t₁, t₂, rfl, h₁, h₂⟩
  · rintro ⟨a, t₁, t₂, rfl, h₁, h₂⟩
    exact .inr ⟨a, t₁, t₂, rfl, ⟨a, rfl, h₁⟩, h₂⟩

theorem run_lift_bind {p : Program α} {f : α → ExceptT ε Program β} :
    ((liftM p : ExceptT ε Program α) >>= f).run = p >>= fun a => (f a).run := by
  change ((p >>= fun a => Program.done (.ok a)) >>= ExceptT.bindCont f) = _
  rw [Program.bind_assoc]
  rfl

/-- A call is made, and what follows has its outcome. -/
theorem run_outcome_bind (c : Call) (deadline : Instant)
    (f : Except Failure c.Answer → Attempt β) :
    (outcome c deadline >>= f).run = .step (.call c deadline) fun x => (f x).run := rfl

/-- Telling a failure in another way changes nothing else. -/
theorem plays_adapt {ε' : Type} {x : ExceptT ε Program α} {g : ε → ε'} {r : Except ε' α} :
    (x.adapt g).run.Plays lookup t r ↔ ∃ r', r = r'.mapError g ∧ x.run.Plays lookup t r' := by
  change (Except.mapError g <$> x.run).Plays lookup t r ↔ _
  rw [Program.plays_map]

theorem plays_map {x : ExceptT ε Program α} {f : α → β} {r : Except ε β} :
    (f <$> x).run.Plays lookup t r ↔ ∃ r', r = r'.map f ∧ x.run.Plays lookup t r' := by
  rw [ExceptT.run_map, Program.plays_map]

end Attempt

/-- Answers effects one after the other, from a state that it may change. -/
abbrev Answerer (σ : Type u) := σ → (e : Effect) → e.Answer × σ

/-- An exchange, with the state in which the call met the answerer. -/
structure Encounter (σ : Type u) where
  state : σ
  exchange : Exchange

/-- What comes of a program whose effects were all answered. -/
structure Play (σ : Type u) (α : Type) where
  value : α
  state : σ
  encounters : List (Encounter σ)

namespace Play

def exchanges (p : Play σ α) : List Exchange := p.encounters.map (·.exchange)

end Play

/-- The encounter that an effect makes, if it is a call. -/
def Encounter.ofEffect (s : σ) : (e : Effect) → e.Answer → List (Encounter σ)
  | .call c deadline, outcome => [⟨s, c, deadline, outcome⟩]
  | .draw _, _ | .now, _ | .baseUrl, _ | .log _, _ => []

namespace Program

/-- Lets an answerer answer all effects. -/
def play (answerer : Answerer σ) : Program α → σ → Play σ α
  | .done a, s => ⟨a, s, []⟩
  | .step e next, s =>
    let first := answerer s e
    let rest := (next first.1).play answerer first.2
    { rest with encounters := Encounter.ofEffect s e first.1 ++ rest.encounters }

/-- What comes of a program that ends with another is what comes of the one, then of the other. -/
theorem play_bind (answerer : Answerer σ) (p : Program α) (f : α → Program β) (s : σ) :
    (p >>= f).play answerer s =
      let first := p.play answerer s
      let rest := (f first.value).play answerer first.state
      { rest with encounters := first.encounters ++ rest.encounters } := by
  induction p generalizing s with
  | done a => rfl
  | step e next ih => simp only [step_bind, play, ih, List.append_assoc]

/-- Whoever answers, something comes of it, and it is one of the plays. -/
theorem plays_play (answerer : Answerer σ) (h : ∀ s, lookup (answerer s .baseUrl).1)
    (p : Program α) (s : σ) :
    p.Plays lookup (p.play answerer s).exchanges (p.play answerer s).value := by
  induction p generalizing s with
  | done a => exact ⟨rfl, rfl⟩
  | step e next ih =>
    have hrest := ih (answerer s e).1 (answerer s e).2
    cases e with
    | call c deadline => exact ⟨_, _, rfl, hrest⟩
    | baseUrl => exact ⟨_, h s, hrest⟩
    | _ => exact ⟨_, hrest⟩

section Encounters
variable {answerer : Answerer σ} {e : Encounter σ}

/-- A call has the outcome with which it was answered in the state that it met. -/
theorem outcome_of_mem_play (p : Program α) {s : σ} (h : e ∈ (p.play answerer s).encounters) :
    e.exchange.outcome = (answerer e.state (.call e.exchange.call e.exchange.deadline)).1 := by
  induction p generalizing s with
  | done a => cases h
  | step effect next ih =>
    rcases List.mem_append.1 h with h | h
    · cases effect with
      | call c deadline =>
        cases List.mem_singleton.1 h
        rfl
      | _ => cases h
    · exact ih _ h

theorem mem_encounters_bind {p : Program α} {f : α → Program β} {s : σ} :
    e ∈ ((p >>= f).play answerer s).encounters ↔ e ∈ (p.play answerer s).encounters ∨
      e ∈ ((f (p.play answerer s).value).play answerer (p.play answerer s).state).encounters := by
  rw [play_bind]
  exact List.mem_append

theorem encounters_map (f : α → β) (p : Program α) (s : σ) :
    ((f <$> p).play answerer s).encounters = (p.play answerer s).encounters := by
  simp [map_eq_bind, play_bind, play]

/-- What a program exchanges with whoever answers it is what it exchanges in one of its plays. -/
theorem exists_plays_of_mem_play (p : Program α) {s : σ}
    (h : e ∈ (p.play answerer s).encounters) :
    ∃ t, e.exchange ∈ t ∧ p.Plays Lookup.any t (p.play answerer s).value :=
  ⟨_, List.mem_map_of_mem h, plays_play answerer Lookup.any_apply p s⟩

end Encounters

end Program

/-- The world as an answerer. -/
def World.answerer (s : Surroundings) : Answerer World := fun w e =>
  ((w.perform s e).value, (w.perform s e).world)

/-- The exchanges of a run. -/
def Program.exchanges (s : Surroundings) (p : Program α) (w : World) : List Exchange :=
  (p.play (World.answerer s) w).exchanges

theorem Program.run_value_eq_play (s : Surroundings) (p : Program α) (w : World) :
    (p.run s w).value = (p.play (World.answerer s) w).value := by
  induction p generalizing w with
  | done a => rfl
  | step e next ih => exact ih _ _

theorem Program.run_world_eq_play (s : Surroundings) (p : Program α) (w : World) :
    (p.run s w).world = (p.play (World.answerer s) w).state := by
  induction p generalizing w with
  | done a => rfl
  | step e next ih => exact ih _ _

/-- A run is one of the plays, with the domain lookup that the surroundings have. -/
theorem Program.plays_run {s : Surroundings} (hlookup : lookup s.domain) (p : Program α)
    (w : World) : p.Plays lookup (p.exchanges s w) (p.run s w).value := by
  rw [run_value_eq_play]
  exact plays_play (World.answerer s) (fun _ => hlookup) p w

end TenantEndpoints
