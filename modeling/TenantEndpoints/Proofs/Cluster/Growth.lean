import TenantEndpoints.Cluster.Basic
import TenantEndpoints.Endpoint.Children

/-!
# How a cluster grows

A cluster grows by creations, each under a key that is free, and shrinks when a
route is deleted together with what hangs on it. Both are told by their effect
on lookups, so that nothing later has to look at the stores themselves.
-/
namespace TenantEndpoints

/-- A resource of any kind. -/
structure AnyResource where
  {kind : Kind}
  resource : Resource kind

namespace Cluster

theorem uid_injective {m n : Nat} (h : uid m = uid n) : m = n := by
  have hrepr : Nat.repr m = Nat.repr n := (String.append_right_inj "uid-").1 h
  have hdigits : Nat.toDigits 10 m = Nat.toDigits 10 n := by
    simpa [Nat.repr] using congrArg String.toList hrepr
  have hm := Nat.ofDigitChars_ten_toDigits (n := m)
  rw [hdigits, Nat.ofDigitChars_ten_toDigits] at hm
  exact hm.symm

/-- The form in which a resource is created here next. -/
def made (c : Cluster) (r : Resource k) : Resource k := r.stored.withUid (uid (c.created + 1))

/-- The cluster after a resource has been created. -/
def grown (c : Cluster) (r : Resource k) : Cluster :=
  { c.withStore k ((c.store k).insert r.key (c.made r)) with created := c.created + 1 }

theorem create_of_free {c : Cluster} {r : Resource k} (h : c.find? k r.key = none) :
    c.create r = (.ok (c.made r), c.grown r) := by
  simp only [create, h]
  rfl

theorem create_of_taken {c : Cluster} {r x : Resource k} (h : c.find? k r.key = some x) :
    c.create r = (.error (.taken k r.key.ns r.key.name), c) := by
  simp only [create, h]

@[simp] theorem key_made (c : Cluster) (r : Resource k) : (c.made r).key = r.key := by
  cases k <;> rfl

@[simp] theorem created_grown (c : Cluster) (r : Resource k) :
    (c.grown r).created = c.created + 1 := rfl

theorem find?_grown_self (c : Cluster) (r : Resource k) :
    (c.grown r).find? k r.key = some (c.made r) := by
  cases k <;> exact SortedMap.find?_insert_self _ _ _

theorem find?_put_of_ne (c : Cluster) (r : Resource k) {k' : Kind} {key : Key}
    (h : k' = k → key ≠ r.key) : (c.put r).find? k' key = c.find? k' key := by
  by_cases hk : k' = k
  · subst hk
    cases k' <;> exact SortedMap.find?_insert_of_ne _ _ (h rfl)
  · cases k <;> cases k' <;> first | rfl | exact absurd rfl hk

theorem find?_grown (c : Cluster) (r : Resource k) (k' : Kind) (key : Key) :
    (c.grown r).find? k' key = (c.put (c.made r)).find? k' key := by
  rw [put, key_made]
  cases k <;> cases k' <;> rfl

theorem find?_grown_of_ne (c : Cluster) (r : Resource k) {k' : Kind} {key : Key}
    (h : k' = k → key ≠ r.key) : (c.grown r).find? k' key = c.find? k' key := by
  rw [find?_grown, find?_put_of_ne]
  rwa [key_made]

/-- One cluster comes from another by creating resources, one after the other. -/
inductive Grows : Cluster → List AnyResource → Cluster → Prop
  | refl (c : Cluster) : Grows c [] c
  | create {c c' : Cluster} {r : Resource k} {rs : List AnyResource}
      (hfree : c.find? k r.key = none) (h : Grows (c.grown r) rs c') : Grows c (⟨r⟩ :: rs) c'

namespace Grows
variable {c c' : Cluster} {rs : List AnyResource}

theorem created_eq (h : Grows c rs c') : c'.created = c.created + rs.length := by
  induction h with
  | refl => rfl
  | create _ _ ih =>
    rw [created_grown] at ih
    rw [ih, List.length_cons]
    omega

/-- Nothing changes under a key that none of the new resources has. -/
theorem find?_of_forall_ne (h : Grows c rs c') {k : Kind} {key : Key}
    (hne : ∀ r : Resource k, ⟨r⟩ ∈ rs → r.key ≠ key) : c'.find? k key = c.find? k key := by
  induction h with
  | refl => rfl
  | @create k' c c' r rs hfree _ ih =>
    rw [ih fun x hx => hne x (List.mem_cons_of_mem _ hx)]
    refine find?_grown_of_ne c r fun hk => ?_
    subst hk
    exact (hne r List.mem_cons_self).symm

/-- What is there stays as it is. -/
theorem find?_of_some (h : Grows c rs c') {k : Kind} {key : Key} {x : Resource k}
    (hx : c.find? k key = some x) : c'.find? k key = some x := by
  induction h with
  | refl => exact hx
  | @create k' c c' r rs hfree _ ih =>
    apply ih
    rw [find?_grown_of_ne c r, hx]
    rintro rfl rfl
    rw [hfree] at hx
    cases hx

/-- Every new resource is found under its key, which was free, with a fresh uid. -/
theorem find?_of_mem (h : Grows c rs c') {k : Kind} {r : Resource k} (hr : ⟨r⟩ ∈ rs) :
    c.find? k r.key = none ∧ ∃ n, c.created < n ∧ n ≤ c'.created ∧
      c'.find? k r.key = some (r.stored.withUid (uid n)) := by
  induction h with
  | refl => cases hr
  | @create k' c c' x rs hfree h ih =>
    rcases List.mem_cons.1 hr with he | hr
    · cases he
      have hc := h.created_eq
      rw [created_grown] at hc
      exact ⟨hfree, c.created + 1, by omega, by omega, h.find?_of_some (find?_grown_self c r)⟩
    · obtain ⟨hnone, n, hn, hn', hfound⟩ := ih hr
      rw [created_grown] at hn
      refine ⟨?_, n, by omega, hn', hfound⟩
      rw [← hnone, find?_grown_of_ne]
      rintro rfl he
      rw [he, find?_grown_self] at hnone
      cases hnone

/-- What is found is either what was there before or one of the new resources. -/
theorem eq_or_mem_of_find? (h : Grows c rs c') {k : Kind} {key : Key} {x : Resource k}
    (hx : c'.find? k key = some x) :
    c.find? k key = some x ∨ ∃ r : Resource k, ⟨r⟩ ∈ rs ∧ r.key = key ∧
      c.find? k key = none ∧ ∃ n, c.created < n ∧ n ≤ c'.created ∧ x = r.stored.withUid (uid n) := by
  by_cases hnew : ∃ r : Resource k, ⟨r⟩ ∈ rs ∧ r.key = key
  · obtain ⟨r, hr, rfl⟩ := hnew
    obtain ⟨hnone, n, hn, hn', hfound⟩ := h.find?_of_mem hr
    rw [hfound] at hx
    exact .inr ⟨r, hr, rfl, hnone, n, hn, hn', (Option.some.inj hx).symm⟩
  · rw [h.find?_of_forall_ne fun r hr he => hnew ⟨r, hr, he⟩] at hx
    exact .inl hx

end Grows

/-- Whether a resource goes when a route is deleted. -/
def hangsOn (r : Resource k) (route : IngressRoute) : Bool :=
  route.metadata.uid.any r.metadata.isOwnedBy

theorem hangsOn_of_ownerless {r : Resource k} (h : r.metadata.ownerReferences.getD [] = [])
    (route : IngressRoute) : hangsOn r route = false := by
  cases hu : route.metadata.uid with
  | none => simp [hangsOn, hu]
  | some uid => simp [hangsOn, hu, Metadata.isOwnedBy, h]

/-- The cluster after a route that is kept under a key has been deleted. -/
def without (c : Cluster) (key : Key) (route : IngressRoute) : Cluster :=
  { c with
    routes := c.routes.erase key
    middlewares := c.middlewares.filter fun _ m => !hangsOn m route
    secrets := c.secrets.filter fun _ s => !hangsOn s route }

theorem delete_route_of_absent {c : Cluster} {ns name : String}
    (h : c.routes.find? ⟨ns, name⟩ = none) :
    c.delete .ingressRoute ns name = (.error (.absent .ingressRoute ns name), c) := by
  have hf : c.find? .ingressRoute ⟨ns, name⟩ = none := h
  simp only [delete, hf]

theorem delete_route {c : Cluster} {ns name : String} {route : IngressRoute}
    (h : c.routes.find? ⟨ns, name⟩ = some route) :
    c.delete .ingressRoute ns name = (.ok (), c.without ⟨ns, name⟩ route) := by
  have hf : c.find? .ingressRoute ⟨ns, name⟩ = some route := h
  simp only [delete, hf]
  cases hu : route.metadata.uid with
  | some uid => simp [without, collect, withStore, hangsOn, hu, store]
  | none => simp [without, withStore, hangsOn, hu, store]

section Without
variable (c : Cluster) (key : Key) (route : IngressRoute)

theorem find?_route_without (key' : Key) :
    (c.without key route).find? .ingressRoute key' =
      if key' = key then none else c.find? .ingressRoute key' := by
  change (c.routes.erase key).find? key' = _
  by_cases h : key' = key
  · subst h
    simp
  · rw [SortedMap.find?_erase_of_ne _ h, if_neg h]
    rfl

/-- Middlewares and secrets stay unless they hang on the route. -/
theorem find?_without {k : Kind} (hr : k ≠ .ingressRoute) (hs : k ≠ .service) (key' : Key) :
    (c.without key route).find? k key' =
      (c.find? k key').filter fun r => !hangsOn r route := by
  cases k with
  | ingressRoute => exact absurd rfl hr
  | middleware => exact SortedMap.find?_filter c.middlewares (fun _ m => !hangsOn m route) key'
  | secret => exact SortedMap.find?_filter c.secrets (fun _ s => !hangsOn s route) key'
  | service => exact absurd rfl hs

end Without

end Cluster

end TenantEndpoints
