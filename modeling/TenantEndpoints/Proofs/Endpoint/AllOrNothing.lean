import TenantEndpoints.Proofs.Endpoint.Ownership
import TenantEndpoints.Proofs.Specimen

/-!
# All or nothing

A creation has made everything, or its route has been taken back with all that
hangs on it, so that at most shared middlewares remain of it. Taking back is one
deletion by name; it takes what belongs to the route and nothing else because
nothing else refers to a uid that was still to be assigned.
-/
namespace TenantEndpoints

namespace Cluster

/-- No resource refers to an owner that has yet to be created. -/
def NoOwnerToCome (c : Cluster) : Prop :=
  ∀ {k : Kind} {key : Key} {r : Resource k} {n : Nat}, c.find? k key = some r → c.created < n →
    r.metadata.isOwnedBy (uid n) = false

/-- One cluster has all that another has, and beyond it at most shared
middlewares under keys that were free. -/
structure SameUpTo (shared : SharedMiddlewares) (c c' : Cluster) : Prop where
  routes : c'.routes = c.routes
  secrets : c'.secrets = c.secrets
  services : c'.services = c.services
  middlewares : ∀ key, c'.find? .middleware key = c.find? .middleware key ∨
    c.find? .middleware key = none ∧ ∃ m ∈ shared.both, m.key = key ∧
      ∃ uid, c'.find? .middleware key = some (m.withUid uid)

theorem SameUpTo.refl (shared : SharedMiddlewares) (c : Cluster) : SameUpTo shared c c :=
  ⟨rfl, rfl, rfl, fun _ => .inl rfl⟩

end Cluster

namespace Endpoint

namespace Begun
variable {config : Config} {useBasicAuth : Bool} {submitted : IngressRoute} {c c' : Cluster}
  {owner : OwnerReference} {credentials : Credentials} {rs : List AnyResource}

/-- Deleting the route leaves of its children nothing, and of the rest everything. -/
theorem find?_without (h : Begun config useBasicAuth submitted c owner credentials rs c')
    (howners : c.NoOwnerToCome) {k : Kind} (hk : k = .middleware ∨ k = .secret) (key : Key) :
    let after := c'.without submitted.key (c.made submitted)
    after.find? k key = c.find? k key ∨
      c.find? k key = none ∧ ∃ r : Resource k, ⟨r⟩ ∈ config.shared.resources ∧ r.key = key ∧
        ∃ uid, after.find? k key = some (r.stored.withUid uid) := by
  have hroute : k ≠ .ingressRoute := by rcases hk with rfl | rfl <;> nofun
  have hservice : k ≠ .service := by rcases hk with rfl | rfl <;> nofun
  have hgrown : (c.grown submitted).find? k key = c.find? k key :=
    Cluster.find?_grown_of_ne c submitted fun he => absurd he hroute
  intro after
  have hafter : after.find? k key =
      (c'.find? k key).filter fun r => !Cluster.hangsOn r (c.made submitted) :=
    Cluster.find?_without c' submitted.key (c.made submitted) hroute hservice key
  have huid : (c.made submitted).metadata.uid = some (Cluster.uid (c.created + 1)) := rfl
  cases hx : c'.find? k key with
  | none =>
    cases hy : c.find? k key with
    | none => exact .inl (by rw [hafter, hx]; rfl)
    | some y =>
      rw [h.grows.find?_of_some (hgrown.trans hy)] at hx
      cases hx
  | some x =>
    rcases h.grows.eq_or_mem_of_find? hx with hold | ⟨r, hr, rfl, hfree, n, _, _, rfl⟩
    · rw [hgrown] at hold
      have hx' : Cluster.hangsOn x (c.made submitted) = false := by
        simp only [Cluster.hangsOn, huid, Option.any_some]
        exact howners hold (Nat.lt_succ_self c.created)
      refine .inl ?_
      rw [hafter, hx, hold, Option.filter_some_pos (by simp [hx'])]
    · rw [hgrown] at hfree
      rcases h.childOf_or_shared hr with hr | hr
      · have hx' := (hr.made (Cluster.uid n)).hangsOn_iff.2 (rfl : (c.made submitted).metadata.uid = _)
        refine .inl ?_
        rw [hafter, hx, hfree, Option.filter_some_neg (by simp [hx'])]
      · have hx' : Cluster.hangsOn (r.stored.withUid (Cluster.uid n)) (c.made submitted) = false := by
          apply Cluster.hangsOn_of_ownerless
          have hnone := (kind_of_mem_shared hr).2
          cases k <;> exact congrArg (Option.getD · []) hnone
        refine .inr ⟨hfree, r, hr, rfl, Cluster.uid n, ?_⟩
        rw [hafter, hx, Option.filter_some_pos (by simp [hx'])]

/-- A route that is taken back leaves the other routes. -/
theorem routes_without (h : Begun config useBasicAuth submitted c owner credentials rs c') :
    (c'.without submitted.key (c.made submitted)).routes = c.routes := by
  refine SortedMap.ext_find? fun key => ?_
  have hafter := Cluster.find?_route_without c' submitted.key (c.made submitted) key
  by_cases hkey : key = submitted.key
  · rw [if_pos hkey] at hafter
    rw [hkey] at hafter ⊢
    exact hafter.trans h.free.symm
  · rw [if_neg hkey] at hafter
    have hsame : c'.find? .ingressRoute key = c.find? .ingressRoute key :=
      h.find?_of_ne (by decide) (by decide) fun _ => hkey
    exact hafter.trans hsame

/-- A route that is taken back leaves at most shared middlewares. -/
theorem sameUpTo_without (h : Begun config useBasicAuth submitted c owner credentials rs c')
    (howners : c.NoOwnerToCome) :
    Cluster.SameUpTo config.shared c (c'.without submitted.key (c.made submitted)) := by
  refine ⟨h.routes_without, SortedMap.ext_find? fun key => ?_,
    SortedMap.ext_find? fun key => ?_, fun key => ?_⟩
  · rcases h.find?_without howners (.inr rfl) key with hs | ⟨_, r, hr, _⟩
    · exact hs
    · cases (kind_of_mem_shared hr).1
  · have hsame : c'.find? .service key = c.find? .service key :=
      h.find?_of_ne (by decide) (by decide) fun he => nomatch he
    exact hsame
  · rcases h.find?_without howners (.inl rfl) key with hm | ⟨hfree, r, hr, hkey, huid⟩
    · exact .inl hm
    · obtain ⟨m, hm, he⟩ := List.mem_map.1 hr
      cases he
      exact .inr ⟨hfree, r, hm, hkey, huid⟩

end Begun

/-- What a creation may have changed, by what it gives: at most shared middlewares
if it failed, and otherwise exactly the resources of a new endpoint as well. -/
inductive AllOrNothing (config : Config) (request : EndpointRequest) (service : Service)
    (c c' : Cluster) : Except Failure Created → Prop
  | nothing (failure : Failure) (h : Cluster.SameUpTo config.shared c c') :
    AllOrNothing _ _ _ _ _ (.error failure)
  | all {submitted : IngressRoute} {owner : OwnerReference} {credentials : Credentials}
      {rs : List AnyResource}
      (hsubmitted : ∃ domain ids, submitted = submission config request service domain ids)
      (hkey : submitted.key = ⟨request.ns, request.name⟩)
      (hfree : c.find? .ingressRoute submitted.key = none)
      (howner : ownerReference? (c.made submitted) = some owner)
      (hchildren : (children request.useBasicAuth (c.made submitted) owner credentials).Sublist rs)
      (hrs : rs.Sublist (children request.useBasicAuth (c.made submitted) owner credentials ++
        config.shared.resources))
      (hgrows : c.Grows (⟨submitted⟩ :: rs) c') :
    AllOrNothing _ _ _ _ _
      (.ok ⟨c.made submitted, if request.useBasicAuth then some credentials else none⟩)

/-- A creation makes everything or leaves nothing behind, unless its route could
not be taken back. -/
theorem create_all_or_nothing (config : Config) (request : EndpointRequest) (service : Service)
    (deadline : Instant) (s : Surroundings) (w : World) (hrules : ∀ r ∈ w.rules, r.OnlyDisturbs)
    (howners : w.cluster.NoOwnerToCome) :
    let creation := (create config request service deadline).run
    let run := creation.run s w
    (∀ failure, run.value = .error failure →
      ∀ x ∈ creation.exchanges s w, x.call.verb = .delete → x.Succeeded) →
    AllOrNothing config request service w.cluster run.world.cluster run.value := by
  intro creation run hdeleted
  have hkeeps : ∀ r ∈ w.rules, r.Keeps Interference.any := fun r hr => (hrules r hr).keeps
  obtain ⟨hplays, hserves, _⟩ := World.serves_run Lookup.any trivial creation hkeeps
  change creation.Plays Lookup.any (creation.exchanges s w) run.value at hplays
  change w.cluster.Serves Interference.any (creation.exchanges s w) run.world.cluster at hserves
  rcases plays_create hplays with ⟨failure, ht, hr, _⟩ | ⟨domain, ids, _, _, hsaga⟩
  · rw [ht] at hserves
    have hsame : run.world.cluster = w.cluster := hserves
    rw [hr, hsame]
    exact .nothing failure (.refl config.shared w.cluster)
  · obtain ⟨left, houtcome, hleft⟩ := outcome_of_saga hsaga hserves (Option.some_ne_none request.name)
    generalize run.value = r, run.world.cluster = c' at *
    cases houtcome with
    | unmade failure => exact .nothing failure (.refl config.shared w.cluster)
    | completed h hchildren _ =>
      exact .all ⟨domain, ids, rfl⟩ rfl h.free h.ownerReference hchildren h.part (.create h.free h.grows)
    | takenBack failure h => exact .nothing failure (h.sameUpTo_without howners)
    | leftBehind failure h =>
      obtain ⟨_, deadline', deleteFailure, hmem⟩ := hleft _ rfl
      obtain ⟨answer, hanswer⟩ := hdeleted failure rfl _ hmem rfl
      cases hanswer

/-- A cluster that is empty, under a rule that fails the creation of secrets. -/
theorem create_nothing_without_secret :
    let request := Specimen.endpoint "node" "alice" true
    let w : World :=
      { rules := [Specimen.failing .create .secret (.internal .unconfiguredDomain)] }
    let run := (create Specimen.config request Specimen.node 1000).run.run Specimen.plain w
    (∀ r ∈ w.rules, r.OnlyDisturbs) ∧ w.cluster.NoOwnerToCome ∧
      AllOrNothing Specimen.config request Specimen.node w.cluster run.world.cluster run.value := by
  intro request w run
  have hrules : ∀ r ∈ w.rules, r.OnlyDisturbs := by decide +kernel
  have howners : w.cluster.NoOwnerToCome := by
    intro k key r n hr
    cases k <;> cases hr
  refine ⟨hrules, howners, create_all_or_nothing Specimen.config request Specimen.node 1000
    Specimen.plain w hrules howners ?_⟩
  have hdeleted : (((create Specimen.config request Specimen.node 1000).run.exchanges
      Specimen.plain w).all fun x => x.call.verb ≠ .delete || x.outcome.isOk) = true := by
    decide +kernel
  intro _ _ x hx hverb
  have hok := List.all_eq_true.1 hdeleted x hx
  simp only [hverb, ne_eq, not_true_eq_false, decide_false, Bool.false_or] at hok
  cases houtcome : x.outcome with
  | ok answer => exact ⟨answer, houtcome⟩
  | error failure =>
    rw [houtcome] at hok
    cases hok

end Endpoint

end TenantEndpoints
