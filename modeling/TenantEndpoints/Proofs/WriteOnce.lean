import TenantEndpoints.Proofs.Cluster.Annals
import TenantEndpoints.Proofs.Endpoint.Routes
import TenantEndpoints.Proofs.Scenario

/-!
# Shared middlewares are written once

Operations submit a shared middleware only in the form that the configuration
gives it, and it has no owner. So it cannot go with a route, not even with one
in its own namespace, and where it is it keeps every later one out. This does not
depend on who answers: rules may fail calls, delay them, or answer in the cluster's
place, and operations may come one after the other or at the same time.
-/
namespace TenantEndpoints

open Endpoint

/-- The call deletes nothing but a route, and submits no middleware but a shared one
or one with a derived name. -/
structure Exchange.MindsShared (shared : SharedMiddlewares) (x : Exchange) : Prop where
  routesOnly : x.call.verb = .delete → x.call.kind = .ingressRoute
  submitted : ∀ {m : Middleware}, x.wanted? = some ⟨m⟩ → m ∈ shared.both ∨ IsDerived m.key.name

section MindsShared
variable {config : Config} {t : List Exchange} {x : Exchange}

theorem mindsShared_of_wanted {shared : SharedMiddlewares} (hverb : x.call.verb ≠ .delete)
    (hwanted : x.wanted? = none) : x.MindsShared shared :=
  ⟨fun hv => absurd hv hverb, fun hm => nomatch hwanted.symm.trans hm⟩

theorem Endpoint.Reads.mindsShared {shared : SharedMiddlewares} (h : Reads t) :
    ∀ x ∈ t, x.MindsShared shared := by
  intro x hx
  have hverb := h x hx
  obtain ⟨call, deadline, outcome⟩ := x
  cases call with
  | get k ns name => exact mindsShared_of_wanted (fun hv => nomatch hv) rfl
  | list k ns selector => exact mindsShared_of_wanted (fun hv => nomatch hv) rfl
  | create r => rcases hverb with hv | hv <;> cases hv
  | delete k ns name => rcases hverb with hv | hv <;> cases hv

theorem mem_both_of_mem_resources {shared : SharedMiddlewares} {m : Middleware}
    (h : ⟨m⟩ ∈ shared.resources) : m ∈ shared.both := by
  obtain ⟨m', hm', he⟩ := List.mem_map.1 h
  cases he
  exact hm'

/-- The middlewares that an endpoint needs are its own, under derived names, or shared. -/
theorem shared_or_derived_of_steps {useBasicAuth : Bool} {route : IngressRoute}
    {credentials : Credentials} {m : Middleware}
    (h : ⟨m⟩ ∈ resources (steps config useBasicAuth route credentials)) :
    m ∈ config.shared.both ∨ IsDerived m.key.name := by
  cases ho : ownerReference? route with
  | none =>
    simp only [resources, steps, ho] at h
    cases h
  | some owner =>
    rw [resources_steps ho] at h
    rcases List.mem_append.1 h with h | h
    · obtain ⟨derive, hd, hname⟩ := (childOf_of_mem_children ho h).name
      exact .inr ⟨derive, hd, _, hname⟩
    · exact .inl (mem_both_of_mem_resources h)

theorem Endpoint.Saga.mindsShared {useBasicAuth : Bool} {submitted : IngressRoute}
    {deadline : Instant} {r : Except Failure Created}
    (h : Saga config useBasicAuth submitted deadline t r) :
    ∀ x ∈ t, x.MindsShared config.shared := by
  intro x hx
  obtain ⟨t₁, t₂, hsplit⟩ := List.append_of_mem hx
  cases h.place hsplit with
  | first outcome => exact ⟨(fun hv => nomatch hv), fun hm => nomatch hm⟩
  | between route credentials _ hspares hwanted =>
    refine ⟨fun hv => absurd hv hspares.verb_ne_delete, fun hm => ?_⟩
    rw [hm] at hwanted
    exact shared_or_derived_of_steps
      (hwanted.subset (List.mem_append_right _ List.mem_cons_self))
  | last => exact ⟨fun _ => rfl, fun hm => nomatch hm⟩

theorem Endpoint.Course.mindsShared (h : Course config t) :
    ∀ x ∈ t, x.MindsShared config.shared := by
  cases h with
  | reading h => exact h.mindsShared
  | ensuring hm h =>
    intro x hx
    refine ⟨fun hv => absurd hv (h.verb_ne_delete x hx), fun {m} hwanted => ?_⟩
    have hresource := shared_of_plays hm h ⟨m⟩ (List.mem_filterMap.2 ⟨x, hx, hwanted⟩)
    exact .inl (mem_both_of_mem_resources hresource)
  | creating hbefore _ h => exact List.forall_mem_append.2 ⟨hbefore.mindsShared, h.mindsShared⟩
  | deleting hbefore ns name deadline outcome =>
    refine List.forall_mem_append.2 ⟨hbefore.mindsShared, List.forall_mem_singleton.2 ?_⟩
    exact ⟨fun _ => rfl, fun hm => nomatch hm⟩

end MindsShared

/-- What becomes of the shared middlewares in encounters that lead from one cluster to
another. -/
structure WrittenOnce (shared : SharedMiddlewares) (c : Cluster) (xs : List (Encounter World))
    (c' : Cluster) : Prop where
  /-- What is submitted under a shared key comes from the configuration alone. -/
  submitted : ∀ m ∈ shared.both, ∀ x ∈ xs, ∀ {m' : Middleware},
    x.exchange.wanted? = some ⟨m'⟩ → m'.key = m.key → m' = m
  /-- So does what is stored there, but for its uid, and nobody owns it. -/
  stored : ∀ m ∈ shared.both, ∀ x ∈ xs, ∀ {m' : Middleware}, x.Stores m.key m' →
    m'.metadata.ownerReferences = none ∧ ∃ uid, m' = m.withUid uid
  /-- Nothing is stored twice. -/
  once : ∀ m ∈ shared.both, xs.Pairwise fun x y =>
    ∀ m₁ m₂ : Middleware, x.Stores m.key m₁ → ¬ y.Stores m.key m₂
  /-- What nobody owns stays as it is, from the start or from any encounter on. -/
  kept : ∀ m ∈ shared.both, ∀ {m' : Middleware}, m'.metadata.ownerReferences.getD [] = [] →
    (c.find? .middleware m.key = some m' → Cluster.Stays m.key m' xs c') ∧
      ∀ before x after, xs = before ++ x :: after →
        x.after.cluster.find? .middleware m.key = some m' → Cluster.Stays m.key m' after c'

section WrittenOnce
variable {shared : SharedMiddlewares} {c c' : Cluster} {xs : List (Encounter World)}
  {x : Encounter World} {m m' : Middleware}

theorem Exchange.MindsShared.eq_of_key {x : Exchange} (hx : x.MindsShared shared)
    (hm : m ∈ shared.both) (hwanted : x.wanted? = some ⟨m'⟩) (hkey : m'.key = m.key) :
    m' = m := by
  rcases hx.submitted hwanted with hm' | hderived
  · exact eq_of_shared_key hm' hm hkey
  · rw [hkey] at hderived
    exact absurd hderived (not_isDerived_shared hm)

theorem made_of_stores (hx : x.exchange.MindsShared shared) (hchange : x.Change)
    (hm : m ∈ shared.both) (hs : x.Stores m.key m') : m' = x.state.cluster.made m := by
  obtain ⟨submitted, deadline, hkey, he, rfl, _⟩ := hs.exchange hchange
  rw [hx.eq_of_key hm (by rw [he]; rfl) hkey]

theorem ownerless_of_mem_both (hm : m ∈ shared.both) : m.metadata.ownerReferences = none :=
  (kind_of_mem_shared (List.mem_map_of_mem hm)).2

theorem ownerless_of_stores (hx : x.exchange.MindsShared shared) (hchange : x.Change)
    (hm : m ∈ shared.both) (hs : x.Stores m.key m') : m'.metadata.ownerReferences = none := by
  have hownerless : m.metadata.ownerReferences = none := ownerless_of_mem_both hm
  rw [made_of_stores hx hchange hm hs]
  exact hownerless

/-- Where one has been stored, it is in the way of every other. -/
theorem pairwise_stores (h : Cluster.Annals c xs c')
    (hxs : ∀ x ∈ xs, x.exchange.MindsShared shared) (hm : m ∈ shared.both) :
    xs.Pairwise fun x y => ∀ m₁ m₂ : Middleware, x.Stores m.key m₁ → ¬ y.Stores m.key m₂ := by
  induction h with
  | nil => exact .nil
  | @cons x xs c' hx h ih =>
    obtain ⟨hminds, hrest⟩ := List.forall_mem_cons.1 hxs
    refine List.pairwise_cons.2 ⟨fun y hy m₁ m₂ hs₁ hs₂ => ?_, ih hrest⟩
    have hownerless : m₁.metadata.ownerReferences.getD [] = [] := by
      rw [ownerless_of_stores hminds hx hm hs₁]
      rfl
    have hstays := h.stays (k := .middleware) (fun hk => nomatch hk) hownerless hs₁.2
    cases hs₂.1.symm.trans (hstays.throughout y hy).1

theorem writtenOnce_of_annals (h : Cluster.Annals c xs c')
    (hxs : ∀ x ∈ xs, x.exchange.MindsShared shared) : WrittenOnce shared c xs c' where
  submitted m hm x hx _ hwanted hkey := (hxs x hx).eq_of_key hm hwanted hkey
  stored m hm x hx m' hs :=
    ⟨ownerless_of_stores (hxs x hx) (h.change hx) hm hs, _,
      made_of_stores (hxs x hx) (h.change hx) hm hs⟩
  once m hm := pairwise_stores h hxs hm
  kept m hm m' hownerless := by
    refine ⟨h.stays (fun hk => nomatch hk) hownerless, ?_⟩
    rintro before x after rfl hthere
    exact h.of_append_cons.2.stays (fun hk => nomatch hk) hownerless hthere

end WrittenOnce

theorem Task.mindsShared (config : Config) (s : Surroundings) (job : Task) (w : World) :
    ∀ x ∈ ((job.program config).play (World.answerer s) w).exchanges,
      x.MindsShared config.shared :=
  (course_task (Program.plays_play (World.answerer s) Lookup.any_apply
    (job.program config) w)).mindsShared

theorem Event.annals (config : Config) (e : Event) (w : World) :
    Cluster.Annals w.cluster (e.play config w).encounters (e.play config w).state.cluster ∧
      ∀ x ∈ (e.play config w).encounters, x.exchange.MindsShared config.shared := by
  cases e with
  | task s job =>
    have hminds := Task.mindsShared config s job w
    exact ⟨World.annals_play s (job.program config) fun x hx => (hminds x hx).routesOnly,
      List.forall_mem_map.1 hminds⟩
  | wait ms => exact ⟨.nil _, fun _ hx => nomatch hx⟩
  | rules rs => exact ⟨.nil _, fun _ hx => nomatch hx⟩

theorem Event.annals_history (config : Config) (events : List Event) (w : World) :
    let xs := (Event.history config events w).flatMap Play.encounters
    Cluster.Annals w.cluster xs (Event.after config events w).cluster ∧
      ∀ x ∈ xs, x.exchange.MindsShared config.shared := by
  induction events generalizing w with
  | nil => exact ⟨.nil _, fun _ hx => nomatch hx⟩
  | cons e events ih =>
    obtain ⟨hevent, hminds⟩ := e.annals config w
    obtain ⟨hrest, hminds'⟩ := ih (e.play config w).state
    dsimp only [Event.history, Event.after]
    rw [List.flatMap_cons]
    exact ⟨hevent.append hrest, List.forall_mem_append.2 ⟨hminds, hminds'⟩⟩

/-- Whatever the rules are, and whether operations come one after the other or their
calls meet in any order: a shared middleware is stored at most once, as the configuration
has it and without an owner, and stays as it is from then on. -/
theorem shared_written_once (config : Config) :
    (∀ (events : List Event) (w : World), WrittenOnce config.shared w.cluster
      ((Event.history config events w).flatMap Play.encounters)
      (Event.after config events w).cluster) ∧
    ∀ {ι : Type} [DecidableEq ι] (s : ι → Surroundings) (tasks : ι → Task) (schedule : List ι)
      (w : World),
      let j : Joint ι Unit := ⟨w, fun i => (tasks i).program config⟩
      WrittenOnce config.shared w.cluster ((j.turns s schedule).map (·.encounter))
        (j.after s schedule).world.cluster := by
  constructor
  · intro events w
    obtain ⟨hannals, hminds⟩ := Event.annals_history config events w
    exact writtenOnce_of_annals hannals hminds
  · intro ι _ s tasks schedule w j
    have hminds : ∀ x ∈ j.turns s schedule, x.encounter.exchange.MindsShared config.shared := by
      intro x hx
      obtain ⟨before, after, hsplit⟩ := List.append_of_mem hx
      refine Joint.forall_turns (P := fun _ _ x => x.MindsShared config.shared) ?_ hsplit
      rintro i t a t₁ x t₂ hplays rfl
      exact (course_task hplays).mindsShared x (List.mem_append_right _ List.mem_cons_self)
    exact writtenOnce_of_annals (Joint.annals_turns fun x hx => (hminds x hx).routesOnly)
      (List.forall_mem_map.2 hminds)

end TenantEndpoints
