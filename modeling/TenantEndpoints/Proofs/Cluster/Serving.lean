import TenantEndpoints.Proofs.Cluster.Growth
import TenantEndpoints.Proofs.Program.Play

/-!
# What a cluster serves

A call is either answered by the cluster or fails without having reached it.
Which failures may come in between is a parameter: none at all, any, or all but
some. Runs under rules that only delay and fail calls are served in this sense.
-/
namespace TenantEndpoints

/-- Which calls may fail how without reaching the cluster. -/
abbrev Interference := Call → Failure → Prop

namespace Interference

def none : Interference := fun _ _ => False

def any : Interference := fun _ _ => True

end Interference

namespace Exchange

/-- The resource that an exchange was to bring about. -/
def wanted? : Exchange → Option AnyResource
  | ⟨.create r, _, _⟩ => some ⟨r⟩
  | _ => none

/-- The resource that an exchange has brought about. -/
def made? : Exchange → Option AnyResource
  | ⟨.create r, _, .ok _⟩ => some ⟨r⟩
  | _ => none

theorem made?_eq_wanted? (x : Exchange) : x.made? = none ∨ x.made? = x.wanted? := by
  obtain ⟨call, deadline, outcome⟩ := x
  cases call with
  | create r =>
    cases outcome with
    | ok answer => exact .inr rfl
    | error failure => exact .inl rfl
  | _ => exact .inl rfl

theorem eq_of_made? {x : Exchange} {k : Kind} {r : Resource k} (h : x.made? = some ⟨r⟩) :
    ∃ deadline r', x = ⟨.create r, deadline, .ok r'⟩ := by
  obtain ⟨call, deadline, outcome⟩ := x
  cases call with
  | create r' =>
    cases outcome with
    | ok answer =>
      cases h
      exact ⟨deadline, answer, rfl⟩
    | error failure => cases h
  | _ => cases h

theorem made_sublist_wanted (t : List Exchange) :
    (t.filterMap made?).Sublist (t.filterMap wanted?) := by
  induction t with
  | nil => exact List.nil_sublist _
  | cons x t ih =>
    rcases x.made?_eq_wanted? with h | h
    · rw [List.filterMap_cons_none h, List.filterMap_cons]
      split
      · exact ih
      · exact ih.trans (List.sublist_cons_self _ _)
    · rw [List.filterMap_cons, List.filterMap_cons, h]
      split
      · exact ih
      · exact ih.cons_cons _

end Exchange

namespace Cluster

/-- What may come of a call, and the cluster after it. -/
inductive Meets (may : Interference) (c : Cluster) :
    (call : Call) → Except Failure call.Answer → Cluster → Prop
  | answered (call : Call) : Meets may c call (c.answer call).1 (c.answer call).2
  | disturbed (call : Call) (failure : Failure) (h : may call failure) :
    Meets may c call (.error failure) c

section Meets
variable {may : Interference} {c c' : Cluster} {k : Kind} {ns name : String}

/-- A creation fails and changes nothing, or finds its key free. -/
theorem meets_create {r : Resource k} {outcome : Except Failure (Call.create r).Answer}
    (h : c.Meets may (.create r) outcome c') :
    (∃ failure, outcome = .error failure ∧ c' = c ∧
      (may (.create r) failure ∨
        c.find? k r.key ≠ none ∧ failure = .taken k r.key.ns r.key.name)) ∨
      c.find? k r.key = none ∧ outcome = .ok (c.made r) ∧ c' = c.grown r := by
  cases h with
  | disturbed failure h => exact .inl ⟨failure, rfl, rfl, .inl h⟩
  | answered =>
    simp only [answer]
    cases hf : c.find? k r.key with
    | none => exact .inr ⟨rfl, by rw [create_of_free hf], by rw [create_of_free hf]⟩
    | some x =>
      rw [create_of_taken hf]
      exact .inl ⟨_, rfl, rfl, .inr ⟨Option.some_ne_none x, rfl⟩⟩

theorem meets_get {outcome : Except Failure (Call.get k ns name).Answer}
    (h : c.Meets may (.get k ns name) outcome c') :
    c' = c ∧ ((∃ r, outcome = .ok r ∧ c.find? k ⟨ns, name⟩ = some r) ∨
      ∃ failure, outcome = .error failure ∧
        (may (.get k ns name) failure ∨
          c.find? k ⟨ns, name⟩ = none ∧ failure = .absent k ns name)) := by
  cases h with
  | disturbed failure h => exact ⟨rfl, .inr ⟨failure, rfl, .inl h⟩⟩
  | answered =>
    refine ⟨rfl, ?_⟩
    simp only [answer, get]
    cases hf : c.find? k ⟨ns, name⟩ with
    | none => exact .inr ⟨_, rfl, .inr ⟨rfl, rfl⟩⟩
    | some r => exact .inl ⟨r, rfl, rfl⟩

theorem meets_list {selector : Selector}
    {outcome : Except Failure (Call.list k ns selector).Answer}
    (h : c.Meets may (.list k ns selector) outcome c') :
    c' = c ∧ (outcome = .ok (c.list k ns selector) ∨
      ∃ failure, outcome = .error failure ∧ may (.list k ns selector) failure) := by
  cases h with
  | disturbed failure h => exact ⟨rfl, .inr ⟨failure, rfl, h⟩⟩
  | answered => exact ⟨rfl, .inl rfl⟩

theorem meets_delete_route
    {outcome : Except Failure (Call.delete .ingressRoute ns name).Answer}
    (h : c.Meets may (.delete .ingressRoute ns name) outcome c') :
    (∃ failure, outcome = .error failure ∧ c' = c ∧
      (may (.delete .ingressRoute ns name) failure ∨
        c.find? .ingressRoute ⟨ns, name⟩ = none ∧
          failure = .absent .ingressRoute ns name)) ∨
      ∃ route, c.find? .ingressRoute ⟨ns, name⟩ = some route ∧ outcome = .ok () ∧
        c' = c.without ⟨ns, name⟩ route := by
  cases h with
  | disturbed failure h => exact .inl ⟨failure, rfl, rfl, .inl h⟩
  | answered =>
    simp only [answer]
    cases hf : c.find? .ingressRoute ⟨ns, name⟩ with
    | none =>
      rw [delete_route_of_absent hf]
      exact .inl ⟨_, rfl, rfl, .inr ⟨rfl, rfl⟩⟩
    | some route =>
      rw [delete_route hf]
      exact .inr ⟨route, rfl, rfl, rfl⟩

end Meets

/-- Exchanges that a cluster serves one after the other, and the cluster after them. -/
def Serves (may : Interference) : Cluster → List Exchange → Cluster → Prop
  | c, [], c' => c' = c
  | c, x :: t, c' => ∃ c₁, c.Meets may x.call x.outcome c₁ ∧ Serves may c₁ t c'

section Serves
variable {may : Interference} {c c' : Cluster}

theorem serves_append {t t' : List Exchange} :
    Serves may c (t ++ t') c' ↔ ∃ c₁, Serves may c t c₁ ∧ Serves may c₁ t' c' := by
  induction t generalizing c with
  | nil => simp [Serves]
  | cons x t ih =>
    simp only [List.cons_append, Serves, ih]
    constructor
    · rintro ⟨c₁, h₁, c₂, h₂, h₃⟩
      exact ⟨c₂, ⟨c₁, h₁, h₂⟩, h₃⟩
    · rintro ⟨c₂, ⟨c₁, h₁, h₂⟩, h₃⟩
      exact ⟨c₁, h₁, c₂, h₂, h₃⟩

/-- Without deletions a cluster only grows, by what has been brought about. -/
theorem grows_of_serves {t : List Exchange} (hs : Serves may c t c')
    (ht : ∀ x ∈ t, x.call.verb ≠ .delete) : Grows c (t.filterMap Exchange.made?) c' := by
  induction t generalizing c with
  | nil =>
    obtain rfl : c' = c := hs
    exact .refl c'
  | cons x t ih =>
    obtain ⟨c₁, hx, hs⟩ := hs
    have hrest := ih hs fun y hy => ht y (List.mem_cons_of_mem _ hy)
    obtain ⟨call, deadline, outcome⟩ := x
    cases call with
    | create r =>
      rcases meets_create hx with ⟨failure, rfl, rfl, _⟩ | ⟨hfree, rfl, rfl⟩
      · exact hrest
      · exact .create hfree hrest
    | get k ns name =>
      obtain ⟨rfl, _⟩ := meets_get hx
      exact hrest
    | list k ns selector =>
      obtain ⟨rfl, _⟩ := meets_list hx
      exact hrest
    | delete k ns name => exact absurd rfl (ht _ List.mem_cons_self)

end Serves

end Cluster

namespace Cluster.Rule
variable {may : Interference}

/-- Only fails and delays calls, and never answers with a resource in the cluster's place. -/
def OnlyDisturbs (r : Rule) : Prop := ∀ x, r.disturbance ≠ .substitute x

instance (r : Rule) : Decidable r.OnlyDisturbs :=
  match h : r.disturbance with
  | .letPass => isTrue fun _ hx => nomatch h.symm.trans hx
  | .fail _ => isTrue fun _ hx => nomatch h.symm.trans hx
  | .substitute x => isFalse fun hr => hr x h

/-- Moreover, fails calls only in ways that may be. -/
structure Keeps (may : Interference) (r : Rule) : Prop where
  onlyDisturbs : r.OnlyDisturbs
  failure : ∀ call failure, r.concerns call → r.disturbance = .fail failure → may call failure
  delay : ∀ call : Call, r.concerns call → 0 < r.delayMs →
    may call (.internal (.timedOut call.kind call.ns call.name))

theorem OnlyDisturbs.keeps {r : Rule} (h : r.OnlyDisturbs) : r.Keeps Interference.any :=
  ⟨h, fun _ _ _ _ => trivial, fun _ _ _ => trivial⟩

/-- Calls that concern the same rules find the same rule, and leave the same ones. -/
theorem apply_congr {call call' : Call} (h : ∀ r : Rule, r.concerns call = r.concerns call')
    (rules : List Rule) : apply rules call = apply rules call' := by
  induction rules with
  | nil => rfl
  | cons r rules ih => simp only [apply, h, ih]

/-- Counting down a rule does not change what it does. -/
theorem keeps_apply {rules : List Rule} (h : ∀ r ∈ rules, r.Keeps may) (call : Call) :
    (∀ r ∈ (apply rules call).2, r.Keeps may) ∧
      ∀ r, (apply rules call).1 = some r → r.Keeps may ∧ r.concerns call := by
  induction rules with
  | nil => exact ⟨h, fun _ hr => nomatch hr⟩
  | cons r rules ih =>
    have hr := h r List.mem_cons_self
    have hcount (skip : Nat) (times : Option Nat) : Keeps may { r with skip, times } :=
      ⟨hr.onlyDisturbs, hr.failure, hr.delay⟩
    obtain ⟨ih₁, ih₂⟩ := ih fun x hx => h x (List.mem_cons_of_mem _ hx)
    unfold apply
    split
    · exact ⟨List.forall_mem_cons.2 ⟨hr, ih₁⟩, ih₂⟩
    · next happlies =>
      split
      · exact ⟨List.forall_mem_cons.2 ⟨hcount _ _, ih₁⟩, ih₂⟩
      · refine ⟨List.forall_mem_cons.2
          ⟨hcount _ _, fun x hx => h x (List.mem_cons_of_mem _ hx)⟩, ?_⟩
        intro x hx
        cases hx
        simp only [Bool.or_eq_true, Bool.not_eq_true', not_or, Bool.not_eq_false] at happlies
        exact ⟨hr, happlies.1⟩

theorem answer?_of_keeps {r : Rule} (h : r.Keeps may) {call : Call} (hc : r.concerns call) :
    r.answer? call = none ∨ ∃ failure, r.answer? call = some (.error failure) ∧
      may call failure := by
  obtain ⟨h₁, h₂, _⟩ := h
  obtain ⟨verb, kind, name, skip, times, delayMs, disturbance⟩ := r
  unfold answer?
  split
  · next hk =>
    dsimp only at hk
    subst hk
    have hf := h₂ call
    cases disturbance with
    | letPass => exact .inl (by cases call <;> rfl)
    | fail failure =>
      exact .inr ⟨failure, by cases call <;> rfl, hf failure hc rfl⟩
    | substitute x => exact absurd rfl (h₁ x)
  · exact .inl rfl

end Cluster.Rule

namespace World
variable {may : Interference}

/-- A call on a world is served by its cluster. -/
theorem meets_call {w : World} (h : ∀ r ∈ w.rules, r.Keeps may) (call : Call)
    (deadline : Instant) :
    w.cluster.Meets may call (w.call call deadline).1 (w.call call deadline).2.cluster ∧
      ∀ r ∈ (w.call call deadline).2.rules, r.Keeps may := by
  obtain ⟨hrules, hfound⟩ := Cluster.Rule.keeps_apply h call
  unfold World.call
  generalize Cluster.Rule.apply w.rules call = applied at hrules hfound
  obtain ⟨rule?, rules⟩ := applied
  dsimp only at hrules hfound ⊢
  unfold World.answer
  dsimp only
  cases rule? with
  | none =>
    simp only [Option.map_none, Option.getD_none, Nat.lt_irrefl, false_and, if_false]
    exact ⟨.answered call, hrules⟩
  | some r =>
    obtain ⟨hr, hc⟩ := hfound r rfl
    simp only [Option.map_some, Option.getD_some]
    split
    · next hdelay => exact ⟨.disturbed call _ (hr.delay call hc hdelay.1), hrules⟩
    · rcases Cluster.Rule.answer?_of_keeps hr hc with ha | ⟨failure, ha, hm⟩
      · simp only [Option.bind_some, ha]
        exact ⟨.answered call, hrules⟩
      · simp only [Option.bind_some, ha]
        exact ⟨.disturbed call failure hm, hrules⟩

/-- Whatever a program does on a world is served by its cluster. -/
theorem serves_play (s : Surroundings) (p : Program α) {w : World}
    (h : ∀ r ∈ w.rules, r.Keeps may) :
    w.cluster.Serves may (p.play (answerer s) w).exchanges
        (p.play (answerer s) w).state.cluster ∧
      ∀ r ∈ (p.play (answerer s) w).state.rules, r.Keeps may := by
  induction p generalizing w with
  | done a => exact ⟨rfl, h⟩
  | step e next ih =>
    cases e with
    | call c deadline =>
      obtain ⟨hmeets, hrules⟩ := meets_call h c deadline
      obtain ⟨hserves, hrules'⟩ := ih (w.call c deadline).1 hrules
      exact ⟨⟨_, hmeets, hserves⟩, hrules'⟩
    | draw count =>
      exact ih (s.random.take w.drawn count) (w := { w with drawn := w.drawn + count }) h
    | now => exact ih w.clock h
    | baseUrl => exact ih s.domain h
    | log entry => exact ih () h

/-- A run is a play, and what it exchanges is served by the cluster of its world. -/
theorem serves_run (lookup : Lookup) {s : Surroundings} (hlookup : lookup s.domain)
    (p : Program α) {w : World} (h : ∀ r ∈ w.rules, r.Keeps may) :
    p.Plays lookup (p.exchanges s w) (p.run s w).value ∧
      w.cluster.Serves may (p.exchanges s w) (p.run s w).world.cluster ∧
      ∀ r ∈ (p.run s w).world.rules, r.Keeps may := by
  rw [Program.run_world_eq_play]
  exact ⟨Program.plays_run hlookup p w, serves_play s p h⟩

/-- The cluster that an encounter meets is the one that has served what came before. -/
theorem serves_until (s : Surroundings) (p : Program α) {w : World}
    (h : ∀ r ∈ w.rules, r.Keeps may) {e : Encounter World}
    (he : e ∈ (p.play (answerer s) w).encounters) :
    ∃ t₁ t₂, (p.play (answerer s) w).exchanges = t₁ ++ e.exchange :: t₂ ∧
      w.cluster.Serves may t₁ e.state.cluster := by
  induction p generalizing w with
  | done a => cases he
  | step effect next ih =>
    cases effect with
    | call c deadline =>
      obtain ⟨hmeets, hrules⟩ := meets_call h c deadline
      rcases List.mem_cons.1 he with rfl | he
      · exact ⟨[], _, rfl, rfl⟩
      · obtain ⟨t₁, t₂, hsplit, hserves⟩ := ih (w.call c deadline).1 hrules he
        refine ⟨⟨c, deadline, (w.call c deadline).1⟩ :: t₁, t₂, ?_, _, hmeets, hserves⟩
        exact congrArg (List.cons _) hsplit
    | draw count =>
      exact ih (s.random.take w.drawn count) (w := { w with drawn := w.drawn + count }) h he
    | now => exact ih w.clock h he
    | baseUrl => exact ih s.domain h he
    | log entry => exact ih () h he

end World

end TenantEndpoints
