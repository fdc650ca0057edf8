import TenantEndpoints.Proofs.Program.Interleaving

/-!
# Annals

Annals tell the encounters with a cluster one after the other, as a chronicle
does, but under any rules. A rule that answers in the cluster's place keeps the
call from the cluster, so that even then a call does one of three things there:
nothing, a creation under a free key, or the deletion of a route. What nobody
owns and is no route is therefore there for good.
-/
namespace TenantEndpoints

namespace World

/-- The same world around another cluster. -/
def around (w : World) (c : Cluster) : World := { w with cluster := c }

theorem answer_around (w : World) (rule? : Option Cluster.Rule) (call : Call) (deadline : Instant) :
    ∃ w' : World,
      (∃ outcome, ∀ c, (w.around c).answer rule? call deadline = (outcome, w'.around c)) ∨
        ∀ c, (w.around c).answer rule? call deadline =
          ((c.answer call).1, w'.around (c.answer call).2) := by
  let delay := (rule?.map Cluster.Rule.delayMs).getD 0
  by_cases hlate : 0 < delay ∧ deadline < w.clock + delay
  · exact ⟨{ w with clock := max w.clock deadline }, .inl ⟨_, fun _ => if_pos hlate⟩⟩
  · refine ⟨{ w with clock := w.clock + delay }, ?_⟩
    cases hanswer : rule?.bind (·.answer? call) with
    | some outcome =>
      refine .inl ⟨outcome, fun c => (if_neg hlate).trans ?_⟩
      rw [hanswer]
      rfl
    | none =>
      refine .inr fun c => (if_neg hlate).trans ?_
      rw [hanswer]
      rfl

/-- Whether a call reaches the cluster, and what comes of the world around it, does
not depend on the cluster. -/
theorem call_around (w : World) (call : Call) (deadline : Instant) :
    ∃ w' : World,
      (∃ outcome, ∀ c, (w.around c).call call deadline = (outcome, w'.around c)) ∨
        ∀ c, (w.around c).call call deadline = ((c.answer call).1, w'.around (c.answer call).2) :=
  answer_around { w with rules := (Cluster.Rule.apply w.rules call).2 }
    (Cluster.Rule.apply w.rules call).1 call deadline

/-- Whatever the rules are, a call changes the cluster in a way that is possible. -/
theorem change_call (w : World) {call : Call}
    (hroutes : call.verb = .delete → call.kind = .ingressRoute) (deadline : Instant) :
    Encounter.Change ⟨w, call, deadline, (w.call call deadline).1⟩ := by
  obtain ⟨w', ⟨outcome, h⟩ | h⟩ := w.call_around call deadline
  · exact .kept (congrArg (·.2.cluster) (h w.cluster))
  · have hcall : w.call call deadline = _ := h w.cluster
    have hmeets : w.cluster.Meets .none call (w.call call deadline).1
        (w.call call deadline).2.cluster := by
      rw [hcall]
      exact .answered call
    have hserved : Encounter.Served .none ⟨w, call, deadline, (w.call call deadline).1⟩ :=
      ⟨hmeets, hroutes⟩
    exact hserved.change

end World

namespace Cluster

/-- Encounters one after the other, from one cluster to another. -/
inductive Annals : Cluster → List (Encounter World) → Cluster → Prop
  | nil (c : Cluster) : Annals c [] c
  | cons {x : Encounter World} {xs : List (Encounter World)} {c' : Cluster} (hx : x.Change)
      (h : Annals x.after.cluster xs c') : Annals x.state.cluster (x :: xs) c'

namespace Annals
variable {c c' : Cluster} {xs ys : List (Encounter World)} {x : Encounter World} {k : Kind}
  {key : Key} {r : Resource k}

theorem append {c₁ : Cluster} (h : Annals c xs c₁) (h' : Annals c₁ ys c') :
    Annals c (xs ++ ys) c' := by
  induction h with
  | nil => exact h'
  | cons hx _ ih => exact .cons hx (ih h')

/-- Annals go on after each of their encounters. -/
theorem of_append_cons (h : Annals c (xs ++ x :: ys) c') :
    x.Change ∧ Annals x.after.cluster ys c' := by
  induction xs generalizing c with
  | nil =>
    cases h with
    | cons hx h => exact ⟨hx, h⟩
  | cons y xs ih =>
    cases h with
    | cons _ h => exact ih h

theorem change (h : Annals c xs c') (hx : x ∈ xs) : x.Change := by
  obtain ⟨ys, zs, rfl⟩ := List.append_of_mem hx
  exact h.of_append_cons.1

end Annals

/-- A resource is in its place throughout some encounters and after them. -/
structure Stays {k : Kind} (key : Key) (r : Resource k) (xs : List (Encounter World))
    (c' : Cluster) : Prop where
  throughout : ∀ x ∈ xs,
    x.state.cluster.find? k key = some r ∧ x.after.cluster.find? k key = some r
  atLast : c'.find? k key = some r

/-- Only routes are deleted on their own, and only what has an owner goes with them. -/
theorem Annals.stays {c c' : Cluster} {xs : List (Encounter World)} (h : Annals c xs c')
    {k : Kind} {key : Key} {r : Resource k} (hk : k ≠ .ingressRoute)
    (hownerless : r.metadata.ownerReferences.getD [] = []) (hr : c.find? k key = some r) :
    Stays key r xs c' := by
  induction h with
  | nil => exact ⟨(fun _ hx => nomatch hx), hr⟩
  | @cons x xs c' hx _ ih =>
    have hafter : x.after.cluster.find? k key = some r := by
      cases hx.touch k key with
      | kept he => exact he.trans hr
      | stored _ _ _ hs => cases hs.1.symm.trans hr
      | removed _ _ hroute hremoves =>
        cases hremoves.1.symm.trans hr
        rcases hroute with ⟨he, _⟩ | ⟨_, hhangs⟩
        · exact absurd he hk
        · rw [hangsOn_of_ownerless hownerless] at hhangs
          cases hhangs
    obtain ⟨hxs, hlast⟩ := ih hafter
    exact ⟨List.forall_mem_cons.2 ⟨⟨hr, hafter⟩, hxs⟩, hlast⟩

end Cluster

/-- What a program encounters on a world are annals if it deletes routes only. -/
theorem World.annals_play (s : Surroundings) (p : Program α) {w : World}
    (hroutes : ∀ x ∈ (p.play (answerer s) w).exchanges,
      x.call.verb = .delete → x.call.kind = .ingressRoute) :
    Cluster.Annals w.cluster (p.play (answerer s) w).encounters
      (p.play (answerer s) w).state.cluster := by
  induction p generalizing w with
  | done a => exact .nil w.cluster
  | step e next ih =>
    cases e with
    | call c deadline =>
      obtain ⟨hc, hrest⟩ := List.forall_mem_cons.1 hroutes
      exact .cons (w.change_call hc deadline) (ih (w.call c deadline).1 hrest)
    | draw count =>
      exact ih (s.random.take w.drawn count) (w := { w with drawn := w.drawn + count }) hroutes
    | now => exact ih w.clock hroutes
    | baseUrl => exact ih s.domain hroutes
    | log entry => exact ih () hroutes

namespace Joint
variable {ι : Type} [DecidableEq ι] {s : ι → Surroundings}

theorem annals_step {i : ι} {j : Joint ι α}
    (hroutes : ∀ x ∈ j.stepTurns s i, x.encounter.exchange.call.verb = .delete →
      x.encounter.exchange.call.kind = .ingressRoute) :
    Cluster.Annals j.world.cluster ((j.stepTurns s i).map (·.encounter))
      (j.step s i).world.cluster := by
  cases hp : j.rest i with
  | done a =>
    obtain ⟨hstep, hturns⟩ := step_of_done (s := s) hp
    rw [hstep, hturns]
    exact .nil _
  | step e next =>
    obtain ⟨hstep, hturns⟩ := step_of_step (s := s) hp
    rw [hturns] at hroutes ⊢
    rw [hstep]
    cases e with
    | call c deadline =>
      exact .cons (j.world.change_call (hroutes _ List.mem_cons_self) deadline) (.nil _)
    | _ => exact .nil _

/-- What all parties encounter are annals of one cluster. -/
theorem annals_turns {schedule : List ι} {j : Joint ι α}
    (hroutes : ∀ x ∈ j.turns s schedule, x.encounter.exchange.call.verb = .delete →
      x.encounter.exchange.call.kind = .ingressRoute) :
    Cluster.Annals j.world.cluster ((j.turns s schedule).map (·.encounter))
      (j.after s schedule).world.cluster := by
  induction schedule generalizing j with
  | nil => exact .nil j.world.cluster
  | cons i schedule ih =>
    obtain ⟨hfirst, hrest⟩ := List.forall_mem_append.1 hroutes
    rw [turns, List.map_append]
    exact (annals_step hfirst).append (ih hrest)

end Joint

end TenantEndpoints
