import TenantEndpoints.Proofs.Cluster.Chronicle

/-!
# Interleavings

Several parties, each with a program of its own, share one world. A schedule
tells who has the next effect answered, and nothing else is said about it, so
that calls may meet in any order. Of what all encounter, the part of each party
is a play of its program, as if the others were whoever answers.
-/
namespace TenantEndpoints

/-- A world with what each party has still to do on it. -/
structure Joint (ι α : Type) where
  world : World
  rest : ι → Program α

/-- An encounter that a party had. -/
structure Turn (ι : Type) where
  party : ι
  encounter : Encounter World

namespace Turn
variable {ι : Type}

section Chronicle
variable {may : Interference} {c c' : Cluster} {turns before after : List (Turn ι)} {x : Turn ι}

/-- What comes before a turn leads to it, and what comes after it goes on from there. -/
theorem split_chronicle (h : Cluster.Chronicle may c (turns.map (·.encounter)) c')
    (hsplit : turns = before ++ x :: after) :
    Cluster.Chronicle may c (before.map (·.encounter)) x.encounter.state.cluster ∧
      x.encounter.Served may ∧
      Cluster.Chronicle may x.encounter.after.cluster (after.map (·.encounter)) c' := by
  rw [hsplit, List.map_append, List.map_cons] at h
  exact h.split_cons

variable {k : Kind} {key : Key} {r : Resource k}

/-- What is there stays unless it is removed in a turn. -/
theorem fate (h : Cluster.Chronicle may c (turns.map (·.encounter)) c')
    (hr : c.find? k key = some r) :
    c'.find? k key = some r ∨ ∃ x ∈ turns, x.encounter.Removes key r := by
  rcases h.fate hr with hkept | ⟨ys, e, zs, hmap, he, _⟩
  · exact .inl hkept
  · have hmem : e ∈ turns.map (·.encounter) := by
      rw [hmap]
      exact List.mem_append_right _ List.mem_cons_self
    obtain ⟨x, hx, rfl⟩ := List.mem_map.1 hmem
    exact .inr ⟨x, hx, he⟩

/-- What is there was there before or has been stored in a turn. -/
theorem origin (h : Cluster.Chronicle may c (turns.map (·.encounter)) c')
    (hr : c'.find? k key = some r) :
    c.find? k key = some r ∨ ∃ x ∈ turns, x.encounter.Stores key r := by
  rcases h.origin hr with hold | ⟨ys, e, zs, hmap, he⟩
  · exact .inl hold
  · have hmem : e ∈ turns.map (·.encounter) := by
      rw [hmap]
      exact List.mem_append_right _ List.mem_cons_self
    obtain ⟨x, hx, rfl⟩ := List.mem_map.1 hmem
    exact .inr ⟨x, hx, he⟩

/-- Resources with one uid were stored in one turn. -/
theorem eq_of_uid (h : Cluster.Chronicle may c (turns.map (·.encounter)) c') {y : Turn ι}
    (hx : x ∈ turns) (hy : y ∈ turns) {k' : Kind} {key' : Key} {r' : Resource k'}
    (hxs : x.encounter.Stores key r) (hys : y.encounter.Stores key' r')
    (huid : r.metadata.uid = r'.metadata.uid) : x = y := by
  obtain ⟨before, after, rfl⟩ := List.append_of_mem hx
  rcases List.mem_append.1 hy with hy | hy
  · obtain ⟨us, vs, rfl⟩ := List.append_of_mem hy
    rw [List.append_assoc, List.cons_append, List.map_append, List.map_cons] at h
    have hmem : x ∈ vs ++ x :: after := List.mem_append_right _ List.mem_cons_self
    exact absurd huid.symm (h.uid_ne hys (List.mem_map_of_mem hmem) hxs)
  rcases List.mem_cons.1 hy with rfl | hy
  · rfl
  · rw [List.map_append, List.map_cons] at h
    exact absurd huid (h.uid_ne hxs (List.mem_map_of_mem hy) hys)

/-- Who fails to create what was missing just now comes after another. -/
theorem stored_of_create
    (h : Cluster.Chronicle .none c (turns.map (·.encounter)) x.encounter.state.cluster)
    (hserved : x.encounter.Served .none) (hnone : c.find? k r.key = none)
    {deadline : Instant} {refusal : Failure}
    (he : x.encounter.exchange = ⟨.create r, deadline, .error refusal⟩) :
    refusal = .taken k r.key.ns r.key.name ∧
      ∃ y ∈ turns, ∃ r' : Resource k, y.encounter.Stores r.key r' := by
  have hmeets := hserved.meets
  rw [he] at hmeets
  rcases Cluster.meets_create hmeets with ⟨_, hf, _, hmay | ⟨hfound, rfl⟩⟩ | ⟨_, hne, _⟩
  · exact hmay.elim
  · cases hf
    obtain ⟨r', hr'⟩ := Option.ne_none_iff_exists'.1 hfound
    rcases origin h hr' with hold | ⟨y, hy, hs⟩
    · rw [hnone] at hold
      cases hold
    · exact ⟨rfl, y, hy, r', hs⟩
  · cases hne

end Chronicle

variable [DecidableEq ι]

/-- The exchanges of one party among those of all. -/
def exchangesOf (i : ι) (turns : List (Turn ι)) : List Exchange :=
  (turns.filter fun x => x.party = i).map (·.encounter.exchange)

variable {i : ι} {turns turns' : List (Turn ι)} {x : Turn ι}

theorem exchangesOf_append :
    exchangesOf i (turns ++ turns') = exchangesOf i turns ++ exchangesOf i turns' := by
  simp [exchangesOf]

theorem exchangesOf_cons_self (h : x.party = i) :
    exchangesOf i (x :: turns) = x.encounter.exchange :: exchangesOf i turns := by
  simp [exchangesOf, h]

theorem exchangesOf_cons_of_ne (h : x.party ≠ i) :
    exchangesOf i (x :: turns) = exchangesOf i turns := by
  simp [exchangesOf, h]

theorem mem_exchangesOf {e : Exchange} :
    e ∈ exchangesOf i turns ↔ ∃ x ∈ turns, x.party = i ∧ x.encounter.exchange = e := by
  simp [exchangesOf, and_assoc]

theorem exchangesOf_map_mk (p i : ι) (xs : List (Encounter World)) :
    exchangesOf i (xs.map (mk p)) = if p = i then xs.map (·.exchange) else [] := by
  have hfilter : xs.filter (fun _ => decide (p = i)) = if p = i then xs else [] := by
    by_cases h : p = i
    · rw [if_pos h, List.filter_eq_self]
      exact fun _ _ => decide_eq_true h
    · rw [if_neg h, List.filter_eq_nil_iff]
      exact fun _ _ => by simp [h]
  rw [exchangesOf, List.filter_map, List.map_map]
  exact (congrArg _ hfilter).trans (by split <;> rfl)

/-- Where an exchange stands among those of its party, it stands among those of all. -/
theorem split_of_exchangesOf {t t' : List Exchange} {e : Exchange}
    (h : exchangesOf i turns = t ++ e :: t') :
    ∃ xs x ys, turns = xs ++ x :: ys ∧ x.party = i ∧ x.encounter.exchange = e ∧
      exchangesOf i xs = t ∧ exchangesOf i ys = t' := by
  induction turns generalizing t with
  | nil => cases t <;> cases h
  | cons x turns ih =>
    by_cases hx : x.party = i
    · rw [exchangesOf_cons_self hx] at h
      cases t with
      | nil =>
        obtain ⟨he, ht⟩ := List.cons.inj h
        exact ⟨[], x, turns, rfl, hx, he, rfl, ht⟩
      | cons e' t =>
        obtain ⟨he, ht⟩ := List.cons.inj h
        obtain ⟨xs, y, ys, rfl, hy, hye, hxs, hys⟩ := ih ht
        refine ⟨x :: xs, y, ys, rfl, hy, hye, ?_, hys⟩
        rw [exchangesOf_cons_self hx, he, hxs]
    · rw [exchangesOf_cons_of_ne hx] at h
      obtain ⟨xs, y, ys, rfl, hy, hye, hxs, hys⟩ := ih h
      refine ⟨x :: xs, y, ys, rfl, hy, hye, ?_, hys⟩
      rw [exchangesOf_cons_of_ne hx, hxs]

/-- Two exchanges of a party come one after the other among those of all. -/
theorem split_pair_of_exchangesOf {t : List Exchange} {e e' : Exchange}
    (h : exchangesOf i turns = t ++ [e, e']) :
    ∃ xs x ys y zs, turns = xs ++ x :: (ys ++ y :: zs) ∧ x.encounter.exchange = e ∧
      y.encounter.exchange = e' := by
  obtain ⟨xs, x, rest, rfl, _, hx, _, hrest⟩ := split_of_exchangesOf h
  obtain ⟨ys, y, zs, rfl, _, hy, _, _⟩ := split_of_exchangesOf (t := []) hrest
  exact ⟨xs, x, ys, y, zs, rfl, hx, hy⟩

end Turn

namespace Program

/-- Whatever a program has still to do, it can be led to an end. -/
theorem exists_plays (p : Program α) : ∃ t a, p.Plays Lookup.any t a := by
  induction p with
  | done a => exact ⟨[], a, rfl, rfl⟩
  | step e next ih =>
    cases e with
    | call c deadline =>
      obtain ⟨t, a, h⟩ := ih (.error (.internal .unconfiguredDomain))
      exact ⟨_, a, _, t, rfl, h⟩
    | draw count =>
      obtain ⟨t, a, h⟩ := ih []
      exact ⟨t, a, [], h⟩
    | now =>
      obtain ⟨t, a, h⟩ := ih 0
      exact ⟨t, a, 0, h⟩
    | baseUrl =>
      obtain ⟨t, a, h⟩ := ih (.ok "")
      exact ⟨t, a, .ok "", trivial, h⟩
    | log entry =>
      obtain ⟨t, a, h⟩ := ih ()
      exact ⟨t, a, (), h⟩

/-- What a program has given that has come to its end. -/
def value? : Program α → Option α
  | .done a => some a
  | .step .. => none

theorem value?_eq_some {p : Program α} {a : α} : p.value? = some a ↔ p = .done a := by
  cases p <;> simp [value?]

end Program

namespace Joint
variable {ι : Type} [DecidableEq ι] (s : ι → Surroundings)

/-- A party has its next effect answered, if it has not come to its end. -/
def step (i : ι) (j : Joint ι α) : Joint ι α :=
  match j.rest i with
  | .done _ => j
  | .step e next =>
    let first := j.world.perform (s i) e
    ⟨first.world, fun p => if p = i then next first.value else j.rest p⟩

/-- The encounter that this makes, if the effect is a call. -/
def stepTurns (i : ι) (j : Joint ι α) : List (Turn ι) :=
  match j.rest i with
  | .done _ => []
  | .step e _ => (Encounter.ofEffect j.world e (j.world.perform (s i) e).value).map (Turn.mk i)

/-- What is left after a schedule. -/
def after : List ι → Joint ι α → Joint ι α
  | [], j => j
  | i :: is, j => after is (j.step s i)

/-- What all parties encounter under a schedule. -/
def turns : List ι → Joint ι α → List (Turn ι)
  | [], _ => []
  | i :: is, j => j.stepTurns s i ++ turns is (j.step s i)

variable {s} {may : Interference} {lookup : Lookup}

theorem step_of_done {i : ι} {j : Joint ι α} {a : α} (h : j.rest i = .done a) :
    j.step s i = j ∧ j.stepTurns s i = [] := by
  simp only [step, stepTurns, h, and_self]

theorem step_of_step {i : ι} {j : Joint ι α} {e : Effect} {next : e.Answer → Program α}
    (h : j.rest i = .step e next) :
    let first := j.world.perform (s i) e
    j.step s i = ⟨first.world, fun p => if p = i then next first.value else j.rest p⟩ ∧
      j.stepTurns s i = (Encounter.ofEffect j.world e first.value).map (Turn.mk i) := by
  simp only [step, stepTurns, h, and_self]

theorem chronicle_step {i : ι} {j : Joint ι α} (h : ∀ r ∈ j.world.rules, r.Keeps may)
    (hroutes : ∀ x ∈ j.stepTurns s i, x.encounter.exchange.call.verb = .delete →
      x.encounter.exchange.call.kind = .ingressRoute) :
    Cluster.Chronicle may j.world.cluster ((j.stepTurns s i).map (·.encounter))
        (j.step s i).world.cluster ∧
      ∀ r ∈ (j.step s i).world.rules, r.Keeps may := by
  cases hp : j.rest i with
  | done a =>
    obtain ⟨hstep, hturns⟩ := step_of_done (s := s) hp
    rw [hstep, hturns]
    exact ⟨.nil _, h⟩
  | step e next =>
    obtain ⟨hstep, hturns⟩ := step_of_step (s := s) hp
    rw [hturns] at hroutes ⊢
    rw [hstep]
    cases e with
    | call c deadline =>
      obtain ⟨hx, hrules⟩ := World.served_call h (hroutes _ List.mem_cons_self) deadline
      exact ⟨.cons hx (.nil _), hrules⟩
    | _ => exact ⟨.nil _, h⟩

/-- What all parties encounter is one chronicle. -/
theorem chronicle_turns {schedule : List ι} {j : Joint ι α}
    (h : ∀ r ∈ j.world.rules, r.Keeps may)
    (hroutes : ∀ x ∈ j.turns s schedule, x.encounter.exchange.call.verb = .delete →
      x.encounter.exchange.call.kind = .ingressRoute) :
    Cluster.Chronicle may j.world.cluster ((j.turns s schedule).map (·.encounter))
      (j.after s schedule).world.cluster := by
  induction schedule generalizing j with
  | nil => exact .nil j.world.cluster
  | cons i schedule ih =>
    obtain ⟨hfirst, hrest⟩ := List.forall_mem_append.1 hroutes
    obtain ⟨hstep, hrules⟩ := chronicle_step h hfirst
    rw [turns, List.map_append]
    exact hstep.append (ih hrules hrest)

/-- What a party exchanges in a step comes before what it exchanges afterwards. -/
theorem plays_step {i p : ι} {j : Joint ι α} {t : List Exchange} {a : α}
    (hlookup : lookup (s p).domain) (h : ((j.step s i).rest p).Plays lookup t a) :
    (j.rest p).Plays lookup (Turn.exchangesOf p (j.stepTurns s i) ++ t) a := by
  cases hp : j.rest i with
  | done b =>
    obtain ⟨hstep, hturns⟩ := step_of_done (s := s) hp
    rw [hstep] at h
    rw [hturns]
    exact h
  | step e next =>
    obtain ⟨hstep, hturns⟩ := step_of_step (s := s) hp
    rw [hstep] at h
    rw [hturns, Turn.exchangesOf_map_mk]
    by_cases hi : i = p
    · subst hi
      rw [if_pos rfl, hp]
      simp only [if_true] at h
      cases e with
      | call c deadline => exact ⟨_, _, rfl, h⟩
      | baseUrl => exact ⟨_, hlookup, h⟩
      | _ => exact ⟨_, h⟩
    · rw [if_neg hi]
      simp only [if_neg (Ne.symm hi)] at h
      exact h

/-- What a party exchanges under a schedule is the beginning of a play of its program. -/
theorem plays_turns {schedule : List ι} {p : ι} {j : Joint ι α} {t : List Exchange} {a : α}
    (hlookup : lookup (s p).domain) (h : ((j.after s schedule).rest p).Plays lookup t a) :
    (j.rest p).Plays lookup (Turn.exchangesOf p (j.turns s schedule) ++ t) a := by
  induction schedule generalizing j with
  | nil => exact h
  | cons i schedule ih =>
    rw [turns, Turn.exchangesOf_append, List.append_assoc]
    exact plays_step hlookup (ih h)

/-- What holds of every call in a play, given the calls before it, holds of every
turn, given the earlier ones of the same party. -/
theorem forall_turns {P : ι → List Exchange → Exchange → Prop} {j : Joint ι α}
    (h : ∀ {i t a t₁ x t₂}, (j.rest i).Plays Lookup.any t a → t = t₁ ++ x :: t₂ → P i t₁ x)
    {schedule : List ι} {before after : List (Turn ι)} {x : Turn ι}
    (hsplit : j.turns s schedule = before ++ x :: after) :
    P x.party (Turn.exchangesOf x.party before) x.encounter.exchange := by
  obtain ⟨t, a, hplays⟩ := ((j.after s schedule).rest x.party).exists_plays
  have hfull := plays_turns trivial hplays
  rw [hsplit, Turn.exchangesOf_append, Turn.exchangesOf_cons_self rfl, List.append_assoc] at hfull
  exact h hfull rfl

theorem after_append (schedule schedule' : List ι) (j : Joint ι α) :
    j.after s (schedule ++ schedule') = (j.after s schedule).after s schedule' := by
  induction schedule generalizing j with
  | nil => rfl
  | cons i schedule ih => exact ih (j.step s i)

theorem rest_step_of_done {p : ι} {j : Joint ι α} {a : α} (h : j.rest p = .done a) (i : ι) :
    (j.step s i).rest p = .done a := by
  cases hi : j.rest i with
  | done b =>
    rw [(step_of_done (s := s) hi).1]
    exact h
  | step e next =>
    have hne : p ≠ i := by
      rintro rfl
      cases h.symm.trans hi
    rw [(step_of_step (s := s) hi).1]
    exact (if_neg hne).trans h

/-- A party that has come to its end has nothing more to do. -/
theorem rest_after_of_done {schedule : List ι} {p : ι} {j : Joint ι α} {a : α}
    (h : j.rest p = .done a) : (j.after s schedule).rest p = .done a := by
  induction schedule generalizing j with
  | nil => exact h
  | cons i schedule ih => exact ih (rest_step_of_done h i)

theorem exists_done (i : ι) (j : Joint ι α) :
    ∃ n a, (j.after s (List.replicate n i)).rest i = .done a := by
  generalize hp : j.rest i = p
  induction p generalizing j with
  | done a => exact ⟨0, a, hp⟩
  | step e next ih =>
    have hrest : (j.step s i).rest i = next (j.world.perform (s i) e).value := by
      rw [(step_of_step (s := s) hp).1]
      exact if_pos rfl
    obtain ⟨n, a, h⟩ := ih _ (j.step s i) hrest
    exact ⟨n + 1, a, h⟩

/-- However far some parties have come, they can all come to their ends. -/
theorem exists_all_done (is : List ι) (j : Joint ι α) :
    ∃ schedule, ∀ i ∈ is, ∃ a, (j.after s schedule).rest i = .done a := by
  induction is generalizing j with
  | nil => exact ⟨[], fun _ hi => nomatch hi⟩
  | cons i is ih =>
    obtain ⟨n, a, hi⟩ := exists_done (s := s) i j
    obtain ⟨schedule, hrest⟩ := ih (j.after s (List.replicate n i))
    refine ⟨List.replicate n i ++ schedule, ?_⟩
    rw [after_append]
    exact List.forall_mem_cons.2 ⟨⟨a, rest_after_of_done hi⟩, hrest⟩

end Joint

end TenantEndpoints
