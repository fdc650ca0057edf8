import TenantEndpoints.Proofs.Endpoint.Course

/-!
# What holds between operations

Between operations all is owned, nobody owns what is shared, and every route is
sound: it has its children, and the shared middlewares that it refers to are
there. Routes that a failed deletion left behind are excused from being sound.
-/
namespace TenantEndpoints.Endpoint

def IsShared (shared : SharedMiddlewares) (key : Key) : Prop := ∃ m ∈ shared.both, key = m.key

theorem exempts_isShared (shared : SharedMiddlewares) : Exempts shared (IsShared shared) := by
  refine ⟨fun m hm => ⟨m, hm, rfl⟩, ?_⟩
  rintro _ ⟨m, hm, rfl⟩
  exact not_isDerived_shared hm

/-- A route is as it was planned and has everything that it refers to. -/
structure Sound (may : Interference) (config : Config) (c : Cluster) (route : IngressRoute) :
    Prop where
  whole : ∃ useBasicAuth owner credentials, Planned config useBasicAuth route ∧
    Whole c route useBasicAuth owner credentials
  shared : Spares may config.shared →
    ∀ m ∈ config.shared.both, c.find? .middleware m.key ≠ none

/-- What holds of a cluster between operations. -/
structure Held (may : Interference) (config : Config) (excused : IngressRoute → Prop)
    (c : Cluster) : Prop where
  owned : Owned (IsShared config.shared) c
  ownerless : ∀ m ∈ config.shared.both, ∀ x : Middleware,
    c.find? .middleware m.key = some x → x.metadata.ownerReferences.getD [] = []
  sound : ∀ {key : Key} {route : IngressRoute}, c.find? .ingressRoute key = some route →
    ¬ excused route → Sound may config c route

section Held
variable {may : Interference} {config : Config} {excused excused' : IngressRoute → Prop}
  {c c' : Cluster} {rs : List AnyResource} {route : IngressRoute}

theorem Sound.grows (h : Sound may config c route) (hg : c.Grows rs c') (hrs : Avoid route rs) :
    Sound may config c' route := by
  obtain ⟨⟨useBasicAuth, owner, credentials, hplanned, hwhole⟩, hshared⟩ := h
  refine ⟨⟨useBasicAuth, owner, credentials, hplanned, hwhole.grows hg hrs⟩, ?_⟩
  intro hspares m hm
  obtain ⟨x, hx⟩ := Option.ne_none_iff_exists'.1 (hshared hspares m hm)
  rw [hg.find?_of_some hx]
  exact Option.some_ne_none x

theorem Held.mono (h : Held may config excused c)
    (he : ∀ {key : Key} {route : IngressRoute}, c.find? .ingressRoute key = some route →
      excused route → excused' route) : Held may config excused' c := by
  refine ⟨h.owned, h.ownerless, fun hroute hne => ?_⟩
  exact h.sound hroute fun hx => hne (he hroute hx)

theorem Held.shared (h : Held may config excused c)
    (hrs : ∀ r ∈ rs, r ∈ config.shared.resources) (hg : c.Grows rs c') :
    Held may config excused c' := by
  have hnew {k : Kind} {r : Resource k} (hr : ⟨r⟩ ∈ rs) := kind_of_mem_shared (hrs _ hr)
  refine ⟨?_, ?_, ?_⟩
  · refine h.owned.grows hg (fun r r' hr _ => ?_) fun {k r} hr => ?_
    · cases (hnew hr).1
    · obtain ⟨m, hm, he⟩ := List.mem_map.1 (hrs _ hr)
      cases he
      exact .inl ⟨m, hm, rfl⟩
  · intro m hm x hx
    rcases hg.eq_or_mem_of_find? hx with hold | ⟨r, hr, _, _, n, _, _, rfl⟩
    · exact h.ownerless m hm x hold
    · change (r.metadata.ownerReferences).getD [] = []
      rw [(hnew hr).2]
      rfl
  · intro key route hroute hne
    rcases hg.eq_or_mem_of_find? hroute with hold | ⟨r, hr, _⟩
    · exact (h.sound hold hne).grows hg (avoid_shared hrs)
    · cases (hnew hr).1

/-- While a saga goes on, everything holds but perhaps the soundness of its route. -/
theorem Held.begun {useBasicAuth : Bool} {submitted : IngressRoute} {owner : OwnerReference}
    {credentials : Credentials} (h : Held may config excused c)
    (hbegun : Begun config useBasicAuth submitted c owner credentials rs c')
    (hroute : excused (c.made submitted) ∨ Sound may config c' (c.made submitted)) :
    Held may config excused c' := by
  have hg := hbegun.grows_all
  refine ⟨hbegun.owned h.owned (exempts_isShared config.shared), ?_, ?_⟩
  · intro m hm x hx
    rcases hg.eq_or_mem_of_find? hx with hold | ⟨r, hr, hkey, _, n, _, _, rfl⟩
    · exact h.ownerless m hm x hold
    · rcases List.mem_cons.1 hr with he | hr
      · cases he
      rcases hbegun.childOf_or_shared hr with hchild | hshared
      · obtain ⟨derive, hd, hname⟩ := hchild.name
        rw [hkey] at hname
        exact absurd ⟨derive, hd, _, hname⟩ (not_isDerived_shared hm)
      · change (r.metadata.ownerReferences).getD [] = []
        rw [(kind_of_mem_shared hshared).2]
        rfl
  · intro key route hfound hne
    rcases hg.eq_or_mem_of_find? hfound with hold | ⟨r, hr, hkey, _⟩
    · have hother : route.key ≠ submitted.key := by
        intro he
        have hfree := hbegun.free
        rw [← he, h.owned.route_key hold, hold] at hfree
        cases hfree
      exact (h.sound hold hne).grows hg (hbegun.avoid hother)
    · rw [← hkey, hbegun.eq_of_mem_route hr, hbegun.find?_route] at hfound
      cases hfound
      exact hroute.resolve_left hne

theorem Held.without (h : Held may config excused c) {key : Key}
    (hroute : c.find? .ingressRoute key = some route) :
    Held may config excused (c.without key route) := by
  have hmiddleware (key' : Key) : (c.without key route).find? .middleware key' =
      (c.find? .middleware key').filter fun m => !Cluster.hangsOn m route :=
    Cluster.find?_without c key route (by decide) (by decide) key'
  refine ⟨h.owned.without hroute, ?_, ?_⟩
  · intro m hm x hx
    rw [hmiddleware] at hx
    exact h.ownerless m hm x (Option.filter_eq_some_iff.1 hx).1
  · intro key' other hother hne
    rw [Cluster.find?_route_without] at hother
    split at hother
    · cases hother
    next hkey =>
    have hsound := h.sound hother hne
    obtain ⟨useBasicAuth, owner, credentials, hplanned, hwhole⟩ := hsound.whole
    have hkey' := h.owned.route_key hother
    have hother' : c.find? .ingressRoute other.key = some other := by rwa [hkey']
    refine ⟨⟨useBasicAuth, owner, credentials, hplanned,
      hwhole.without h.owned hother' hroute (by rwa [hkey'])⟩, fun hspares m hm => ?_⟩
    obtain ⟨x, hx⟩ := Option.ne_none_iff_exists'.1 (hsound.shared hspares m hm)
    have hstays : Cluster.hangsOn x route = false :=
      Cluster.hangsOn_of_ownerless (h.ownerless m hm x hx) route
    rw [hmiddleware, hx, Option.filter_some_pos (by simp [hstays])]
    exact Option.some_ne_none x

/-- Every change keeps what holds, if the route that it leaves behind is excused. One that is
taken back is excused until it is deleted, and then there is none to excuse. -/
theorem Held.change {left : Option IngressRoute} (h : Held may config excused c)
    (hc : Change may config c c' left) (hexcused : ∀ route, excused route → excused' route)
    (hleft : ∀ route, left = some route → excused' route) : Held may config excused' c' := by
  have hheld : Held may config excused' c := h.mono fun _ => hexcused _
  cases hc with
  | shared hrs hg => exact hheld.shared hrs hg
  | deletion hroute => exact hheld.without hroute
  | creation hplanned houtcome =>
    cases houtcome with
    | unmade failure => exact hheld
    | completed hbegun hchildren hshared =>
      have hwhole := hbegun.whole h.owned (exempts_isShared config.shared) hchildren
      exact hheld.begun hbegun (.inr ⟨⟨_, _, _, hplanned.made c, hwhole⟩, hshared⟩)
    | leftBehind failure hbegun => exact hheld.begun hbegun (.inl (hleft _ rfl))
    | takenBack failure hbegun =>
      have hbegun' : Held may config (fun route => excused' route ∨ route = c.made _) _ :=
        (hheld.mono fun _ => Or.inl).begun hbegun (.inl (.inr rfl))
      have hdeleted := hbegun'.without hbegun.find?_route
      refine hdeleted.mono fun {key route} hroute he => he.resolve_right ?_
      rintro rfl
      have hkey := hdeleted.owned.route_key hroute
      rw [Cluster.key_made] at hkey
      rw [← hkey, Cluster.find?_route_without, if_pos rfl] at hroute
      cases hroute

end Held

end TenantEndpoints.Endpoint
