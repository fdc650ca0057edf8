import TenantEndpoints.Proofs.Cluster.Serving

/-!
# Chronicles

A chronicle tells the encounters with a cluster one after the other, whoever
had them: each meets the cluster that the one before has left. So long as only
routes are deleted, a resource is never modified. It comes with a creation under a
free key, and goes when a route is deleted: that route itself, or what hangs on it.
-/
namespace TenantEndpoints

namespace Encounter

/-- The world after an encounter. -/
def after (x : Encounter World) : World := (x.state.call x.exchange.call x.exchange.deadline).2

/-- A resource was not there before an encounter and is there after it. -/
def Stores (x : Encounter World) {k : Kind} (key : Key) (r : Resource k) : Prop :=
  x.state.cluster.find? k key = none ∧ x.after.cluster.find? k key = some r

/-- A resource was there before an encounter and nothing is there after it. -/
def Removes (x : Encounter World) {k : Kind} (key : Key) (r : Resource k) : Prop :=
  x.state.cluster.find? k key = some r ∧ x.after.cluster.find? k key = none

/-- The cluster has answered the call, unless that failed in a way it may, and what
was deleted, if anything, is a route. -/
structure Served (may : Interference) (x : Encounter World) : Prop where
  meets : x.state.cluster.Meets may x.exchange.call x.exchange.outcome x.after.cluster
  routesOnly : x.exchange.call.verb = .delete → x.exchange.call.kind = .ingressRoute

/-- What an encounter makes of the cluster. -/
inductive Change (x : Encounter World) : Prop
  | kept (h : x.after.cluster = x.state.cluster)
  | grown {k : Kind} {r : Resource k} {deadline : Instant}
      (hx : x.exchange = ⟨.create r, deadline, .ok (x.state.cluster.made r)⟩)
      (hfree : x.state.cluster.find? k r.key = none)
      (h : x.after.cluster = x.state.cluster.grown r)
  | shrunk {ns name : String} {deadline : Instant} {route : IngressRoute}
      (hx : x.exchange = ⟨.delete .ingressRoute ns name, deadline, .ok ()⟩)
      (hroute : x.state.cluster.find? .ingressRoute ⟨ns, name⟩ = some route)
      (h : x.after.cluster = x.state.cluster.without ⟨ns, name⟩ route)

section Served
variable {may : Interference} {x : Encounter World}

theorem Served.change (hx : x.Served may) : x.Change := by
  obtain ⟨w, call, deadline, outcome⟩ := x
  obtain ⟨h, hroutes⟩ := hx
  change w.cluster.Meets may call outcome (after ⟨w, call, deadline, outcome⟩).cluster at h
  cases call with
  | create r =>
    rcases Cluster.meets_create h with ⟨_, _, hc, _⟩ | ⟨hfree, he, hc⟩
    · exact .kept hc
    · exact .grown (congrArg (Exchange.mk (.create r) deadline) he) hfree hc
  | get k ns name => exact .kept (Cluster.meets_get h).1
  | list k ns selector => exact .kept (Cluster.meets_list h).1
  | delete k ns name =>
    obtain rfl : k = .ingressRoute := hroutes rfl
    rcases Cluster.meets_delete_route h with ⟨_, _, hc, _⟩ | ⟨route, hroute, he, hc⟩
    · exact .kept hc
    · exact .shrunk (congrArg (Exchange.mk (.delete .ingressRoute ns name) deadline) he) hroute hc

/-- What an encounter does to what is under a key. -/
inductive Touch (x : Encounter World) (k : Kind) (key : Key) : Prop
  | kept (h : x.after.cluster.find? k key = x.state.cluster.find? k key)
  | stored {r : Resource k} {deadline : Instant} (hkey : r.key = key)
      (hx : x.exchange = ⟨.create r, deadline, .ok (x.state.cluster.made r)⟩)
      (hgrown : x.after.cluster = x.state.cluster.grown r)
      (h : x.Stores key (x.state.cluster.made r))
  | removed {r : Resource k} {ns name : String} {deadline : Instant} {route : IngressRoute}
      (hx : x.exchange = ⟨.delete .ingressRoute ns name, deadline, .ok ()⟩)
      (hroute : x.state.cluster.find? .ingressRoute ⟨ns, name⟩ = some route)
      (hr : k = .ingressRoute ∧ key = ⟨ns, name⟩ ∨
        k ≠ .ingressRoute ∧ Cluster.hangsOn r route = true)
      (h : x.Removes key r)

/-- A resource may come and go, but is never modified. -/
theorem Change.touch (h : x.Change) (k : Kind) (key : Key) : x.Touch k key := by
  cases h with
  | kept h => exact .kept (by rw [h])
  | @grown k' r deadline hx hfree h =>
    by_cases hkey : k' = k ∧ r.key = key
    · obtain ⟨rfl, rfl⟩ := hkey
      refine .stored rfl hx h ⟨hfree, ?_⟩
      rw [h, Cluster.find?_grown_self]
    · refine .kept ?_
      rw [h, Cluster.find?_grown_of_ne]
      rintro rfl rfl
      exact hkey ⟨rfl, rfl⟩
  | @shrunk ns name deadline route hx hroute h =>
    by_cases hservice : k = .service
    · subst hservice
      exact .kept (by rw [h]; rfl)
    by_cases hkind : k = .ingressRoute
    · subst hkind
      have hfound := Cluster.find?_route_without x.state.cluster ⟨ns, name⟩ route key
      by_cases hkey : key = ⟨ns, name⟩
      · subst hkey
        rw [if_pos rfl] at hfound
        exact .removed hx hroute (.inl ⟨rfl, rfl⟩) ⟨hroute, by rw [h, hfound]⟩
      · rw [if_neg hkey] at hfound
        exact .kept (by rw [h, hfound])
    · have hfound := Cluster.find?_without x.state.cluster ⟨ns, name⟩ route hkind hservice key
      rw [← h] at hfound
      cases hold : x.state.cluster.find? k key with
      | none =>
        rw [hold] at hfound
        exact .kept (hfound.trans hold.symm)
      | some r =>
        cases hhangs : Cluster.hangsOn r route with
        | false =>
          rw [hold, Option.filter_some_pos (by simp [hhangs])] at hfound
          exact .kept (hfound.trans hold.symm)
        | true =>
          rw [hold, Option.filter_some_neg (by simp [hhangs])] at hfound
          exact .removed hx hroute (.inr ⟨hkind, hhangs⟩) ⟨hold, hfound⟩

theorem Change.created_le (h : x.Change) : x.state.cluster.created ≤ x.after.cluster.created := by
  cases h with
  | kept h => exact Nat.le_of_eq (congrArg Cluster.created h.symm)
  | grown _ _ h =>
    rw [h, Cluster.created_grown]
    exact Nat.le_succ _
  | shrunk _ _ h =>
    rw [h]
    exact Nat.le_refl _

variable {k : Kind} {key : Key} {r : Resource k}

/-- What is stored was submitted under its key and has the next uid. -/
theorem Stores.exchange (hs : x.Stores key r) (h : x.Change) :
    ∃ (submitted : Resource k) (deadline : Instant), submitted.key = key ∧
      x.exchange = ⟨.create submitted, deadline, .ok r⟩ ∧ r = x.state.cluster.made submitted ∧
      x.after.cluster.created = x.state.cluster.created + 1 := by
  obtain ⟨hbefore, hafter⟩ := hs
  cases h.touch k key with
  | kept he =>
    rw [he, hbefore] at hafter
    cases hafter
  | @stored submitted deadline hkey hx hgrown hs =>
    cases hafter.symm.trans hs.2
    exact ⟨submitted, deadline, hkey, hx, rfl, congrArg Cluster.created hgrown⟩
  | removed _ _ _ hr =>
    rw [hr.2] at hafter
    cases hafter

/-- What is removed is the route that is deleted or hangs on it. -/
theorem Removes.exchange (hr : x.Removes key r) (h : x.Change) :
    ∃ (ns name : String) (deadline : Instant) (route : IngressRoute),
      x.exchange = ⟨.delete .ingressRoute ns name, deadline, .ok ()⟩ ∧
      x.state.cluster.find? .ingressRoute ⟨ns, name⟩ = some route ∧
      (k = .ingressRoute ∧ key = ⟨ns, name⟩ ∨
        k ≠ .ingressRoute ∧ Cluster.hangsOn r route = true) := by
  obtain ⟨hbefore, hafter⟩ := hr
  cases h.touch k key with
  | kept he =>
    rw [he, hbefore] at hafter
    cases hafter
  | stored _ _ _ hs =>
    rw [hs.1] at hbefore
    cases hbefore
  | @removed _ ns name deadline route hx hroute hkey hr =>
    cases hbefore.symm.trans hr.1
    exact ⟨ns, name, deadline, route, hx, hroute, hkey⟩

/-- A creation that succeeded has stored what it gave. -/
theorem Served.stores (h : x.Served may) {submitted : Resource k} {deadline : Instant}
    (hx : x.exchange = ⟨.create submitted, deadline, .ok r⟩) :
    x.Stores submitted.key r ∧ r = x.state.cluster.made submitted := by
  obtain ⟨w, call, deadline', outcome⟩ := x
  cases hx
  rcases Cluster.meets_create h.meets with ⟨_, hne, _⟩ | ⟨hfree, he, hc⟩
  · cases hne
  have hr : r = w.cluster.made submitted := Except.ok.inj he
  refine ⟨⟨hfree, ?_⟩, hr⟩
  rw [hc, hr]
  exact Cluster.find?_grown_self w.cluster submitted

/-- A lookup that succeeded has given what was there, and changed nothing. -/
theorem Served.found (h : x.Served may) {ns name : String} {deadline : Instant}
    (hx : x.exchange = ⟨.get k ns name, deadline, .ok r⟩) :
    x.state.cluster.find? k ⟨ns, name⟩ = some r ∧ x.after.cluster = x.state.cluster := by
  obtain ⟨w, call, deadline', outcome⟩ := x
  cases hx
  obtain ⟨hc, ⟨r', he, hfound⟩ | ⟨_, hne, _⟩⟩ := Cluster.meets_get h.meets
  · cases he
    exact ⟨hfound, hc⟩
  · cases hne

end Served

end Encounter

namespace Cluster

/-- Encounters one after the other, from one cluster to another. -/
inductive Chronicle (may : Interference) : Cluster → List (Encounter World) → Cluster → Prop
  | nil (c : Cluster) : Chronicle may c [] c
  | cons {x : Encounter World} {xs : List (Encounter World)} {c' : Cluster} (hx : x.Served may)
      (h : Chronicle may x.after.cluster xs c') : Chronicle may x.state.cluster (x :: xs) c'

namespace Chronicle
variable {may : Interference} {c c' : Cluster} {xs ys : List (Encounter World)}
  {x : Encounter World} {k : Kind} {key : Key} {r r' : Resource k}

theorem eq_of_nil (h : Chronicle may c [] c') : c' = c := by
  cases h
  rfl

theorem append {c₁ : Cluster} (h : Chronicle may c xs c₁) (h' : Chronicle may c₁ ys c') :
    Chronicle may c (xs ++ ys) c' := by
  induction h with
  | nil => exact h'
  | cons hx _ ih => exact .cons hx (ih h')

theorem split (h : Chronicle may c (xs ++ ys) c') :
    ∃ c₁, Chronicle may c xs c₁ ∧ Chronicle may c₁ ys c' := by
  induction xs generalizing c with
  | nil => exact ⟨c, .nil c, h⟩
  | cons x xs ih =>
    cases h with
    | cons hx h =>
      obtain ⟨c₁, h₁, h₂⟩ := ih h
      exact ⟨c₁, .cons hx h₁, h₂⟩

/-- What comes before an encounter leads to it, and what comes after it goes on from there. -/
theorem split_cons (h : Chronicle may c (xs ++ x :: ys) c') :
    Chronicle may c xs x.state.cluster ∧ x.Served may ∧ Chronicle may x.after.cluster ys c' := by
  obtain ⟨c₁, h₁, h₂⟩ := h.split
  cases h₂ with
  | cons hx h₂ => exact ⟨h₁, hx, h₂⟩

theorem created_le (h : Chronicle may c xs c') : c.created ≤ c'.created := by
  induction h with
  | nil => exact Nat.le_refl _
  | cons hx _ ih => exact Nat.le_trans hx.change.created_le ih

/-- What is there stays as it is until it is removed. -/
theorem fate (h : Chronicle may c xs c') (hr : c.find? k key = some r) :
    c'.find? k key = some r ∨ ∃ ys x zs, xs = ys ++ x :: zs ∧ x.Removes key r ∧
      ∀ y ∈ ys, y.state.cluster.find? k key = some r := by
  induction h with
  | nil => exact .inl hr
  | @cons x xs c' hx _ ih =>
    cases hx.change.touch k key with
    | kept he =>
      rcases ih (he.trans hr) with hr' | ⟨ys, y, zs, rfl, hy, hys⟩
      · exact .inl hr'
      · exact .inr ⟨x :: ys, y, zs, rfl, hy, List.forall_mem_cons.2 ⟨hr, hys⟩⟩
    | stored _ _ _ hs =>
      rw [hs.1] at hr
      cases hr
    | removed _ _ _ hremoves =>
      cases hr.symm.trans hremoves.1
      exact .inr ⟨[], x, xs, rfl, hremoves, fun _ hy => nomatch hy⟩

/-- What is there was there before or has been stored since. -/
theorem origin (h : Chronicle may c xs c') (hr : c'.find? k key = some r) :
    c.find? k key = some r ∨ ∃ ys x zs, xs = ys ++ x :: zs ∧ x.Stores key r := by
  induction h with
  | nil => exact .inl hr
  | @cons x xs c' hx _ ih =>
    rcases ih hr with hr' | ⟨ys, y, zs, rfl, hy⟩
    · cases hx.change.touch k key with
      | kept he => exact .inl (he.symm.trans hr')
      | stored _ _ _ hs =>
        cases hr'.symm.trans hs.2
        exact .inr ⟨[], x, xs, rfl, hs⟩
      | removed _ _ _ hremoves =>
        rw [hremoves.2] at hr'
        cases hr'
    · exact .inr ⟨x :: ys, y, zs, rfl, hy⟩

/-- Where there is something else than before, the one was removed and then the
other stored. -/
theorem replaced (h : Chronicle may c xs c') (hr : c.find? k key = some r)
    (hr' : c'.find? k key = some r') (hne : r' ≠ r) :
    ∃ ys x zs, xs = ys ++ x :: zs ∧ x.Removes key r ∧ ∃ y ∈ zs, y.Stores key r' := by
  rcases h.fate hr with he | ⟨ys, x, zs, rfl, hx, _⟩
  · cases hr'.symm.trans he
    exact absurd rfl hne
  · rcases h.split_cons.2.2.origin hr' with hold | ⟨zs₁, y, zs₂, rfl, hy⟩
    · rw [hx.2] at hold
      cases hold
    · exact ⟨ys, x, _, rfl, hx, y, List.mem_append_right _ List.mem_cons_self, hy⟩

/-- No two resources are stored with one uid. -/
theorem uid_ne (h : Chronicle may c (xs ++ x :: ys) c') (hx : x.Stores key r)
    {y : Encounter World} (hy : y ∈ ys) {k' : Kind} {key' : Key} {r' : Resource k'}
    (hs : y.Stores key' r') : r.metadata.uid ≠ r'.metadata.uid := by
  obtain ⟨_, hserved, hrest⟩ := h.split_cons
  obtain ⟨zs, zs', rfl⟩ := List.append_of_mem hy
  obtain ⟨hbetween, hserved', _⟩ := hrest.split_cons
  obtain ⟨_, _, _, _, rfl, hcreated⟩ := hx.exchange hserved.change
  obtain ⟨_, _, _, _, rfl, _⟩ := hs.exchange hserved'.change
  intro he
  have hle := hbetween.created_le
  have heq := uid_injective (Option.some.inj he)
  omega

end Chronicle

end Cluster

namespace World
variable {may : Interference}

/-- A call on a world is served, and no other rules come of it. -/
theorem served_call {w : World} (h : ∀ r ∈ w.rules, r.Keeps may) {call : Call}
    (hroutes : call.verb = .delete → call.kind = .ingressRoute) (deadline : Instant) :
    let x : Encounter World := ⟨w, call, deadline, (w.call call deadline).1⟩
    x.Served may ∧ ∀ r ∈ x.after.rules, r.Keeps may := by
  obtain ⟨hmeets, hrules⟩ := meets_call h call deadline
  exact ⟨⟨hmeets, hroutes⟩, hrules⟩

/-- What a program encounters on a world is a chronicle if it deletes routes only. -/
theorem chronicle_play (s : Surroundings) (p : Program α) {w : World}
    (h : ∀ r ∈ w.rules, r.Keeps may)
    (hroutes : ∀ x ∈ (p.play (answerer s) w).exchanges,
      x.call.verb = .delete → x.call.kind = .ingressRoute) :
    Cluster.Chronicle may w.cluster (p.play (answerer s) w).encounters
      (p.play (answerer s) w).state.cluster := by
  induction p generalizing w with
  | done a => exact .nil w.cluster
  | step e next ih =>
    cases e with
    | call c deadline =>
      obtain ⟨hc, hrest⟩ := List.forall_mem_cons.1 hroutes
      obtain ⟨hx, hrules⟩ := served_call h hc deadline
      exact .cons hx (ih (w.call c deadline).1 hrules hrest)
    | draw count =>
      exact ih (s.random.take w.drawn count) (w := { w with drawn := w.drawn + count }) h hroutes
    | now => exact ih w.clock h hroutes
    | baseUrl => exact ih s.domain h hroutes
    | log entry => exact ih () h hroutes

end World

end TenantEndpoints
