import TenantEndpoints.Proofs.Endpoint.Integrity

/-!
# Courses

Every operation takes one of four courses: it only reads, it sees to a shared
middleware, it creates an endpoint, or it deletes a route. What a course does to
a cluster is told as a change, and the calls of a course that create children
always find their keys free.
-/
namespace TenantEndpoints.Endpoint

/-- Every rule of a route runs the shared middlewares and the route's own. -/
structure Planned (config : Config) (useBasicAuth : Bool) (route : IngressRoute) : Prop where
  named : route.metadata.name ≠ none
  rules_ne_nil : route.spec.rules ≠ []
  chain : ∀ rule ∈ route.spec.rules, rule.middlewares =
    config.shared.refs ++ [⟨stripPrefixName route.key.name, some route.key.ns⟩] ++
      if useBasicAuth then [⟨basicAuthName route.key.name, some route.key.ns⟩] else []

theorem eligible_ne_nil {config : Config} {request : EndpointRequest} {service : Service}
    (h : refusal? config request service = none) : config.ports.eligible service ≠ [] := by
  intro hnil
  unfold refusal? at h
  rw [hnil] at h
  split at h <;> cases h

theorem planned_submission {config : Config} {request : EndpointRequest} {service : Service}
    {domain : String} {ids : List String} (h : refusal? config request service = none)
    (hids : ids.length = (config.ports.eligible service).length) :
    Planned config request.useBasicAuth (submission config request service domain ids) := by
  refine ⟨Option.some_ne_none request.name, ?_, ?_⟩
  · have hpos : 0 < (config.ports.eligible service).length :=
      List.length_pos_iff.2 (eligible_ne_nil h)
    apply List.ne_nil_of_length_pos
    simp only [submission, RoutePlan.route, plan, List.length_map, List.length_zipWith]
    omega
  · intro rule hrule
    simp only [submission, RoutePlan.route, List.mem_map] at hrule
    obtain ⟨port, _, rfl⟩ := hrule
    rfl

theorem Planned.made {config : Config} {useBasicAuth : Bool} {route : IngressRoute}
    (h : Planned config useBasicAuth route) (c : Cluster) :
    Planned config useBasicAuth (c.made route) := by
  refine ⟨h.named, h.rules_ne_nil, ?_⟩
  rw [Cluster.key_made]
  exact h.chain

/-- Reads and nothing else. -/
def Reads (t : List Exchange) : Prop := ∀ x ∈ t, x.call.verb = .get ∨ x.call.verb = .list

/-- The exchanges that operations may have. -/
inductive Course (config : Config) : List Exchange → Prop
  | reading {t : List Exchange} (h : Reads t) : Course _ t
  | ensuring {m : Middleware} (hm : m ∈ config.shared.both) {deadline : Instant}
      {t : List Exchange} {ended : Option Failure}
      (h : (Step.ensure m).Plays config.shared.ignoreConflicts deadline t ended) : Course _ t
  | creating {before : List Exchange} (hbefore : Reads before) {useBasicAuth : Bool}
      {submitted : IngressRoute} (hplanned : Planned config useBasicAuth submitted)
      {deadline : Instant} {t : List Exchange} {r : Except Failure Created}
      (h : Saga config useBasicAuth submitted deadline t r) : Course _ (before ++ t)
  | deleting {before : List Exchange} (hbefore : Reads before) (ns name : String)
      (deadline : Instant) (outcome : Except Failure Unit) :
    Course _ (before ++ [⟨.delete .ingressRoute ns name, deadline, outcome⟩])

theorem Reads.cluster_eq {may : Interference} {c c' : Cluster} {t : List Exchange} (h : Reads t)
    (hs : c.Serves may t c') : c' = c := by
  induction t generalizing c with
  | nil => exact hs
  | cons x t ih =>
    obtain ⟨c₁, hx, hs⟩ := hs
    obtain ⟨hverb, ht⟩ := List.forall_mem_cons.1 h
    have hsame : c₁ = c := by
      obtain ⟨call, deadline, outcome⟩ := x
      cases call with
      | get k ns name => exact (Cluster.meets_get hx).1
      | list k ns selector => exact (Cluster.meets_list hx).1
      | create r => rcases hverb with hv | hv <;> cases hv
      | delete k ns name => rcases hverb with hv | hv <;> cases hv
    rw [← hsame]
    exact ih ht hs

/-- The cluster after a course, and the route that the course leaves behind, if it does. -/
inductive Change (may : Interference) (config : Config) (c : Cluster) :
    Cluster → Option IngressRoute → Prop
  | shared {rs : List AnyResource} {c' : Cluster} (hrs : ∀ r ∈ rs, r ∈ config.shared.resources)
      (h : c.Grows rs c') : Change _ _ _ c' none
  | creation {useBasicAuth : Bool} {submitted : IngressRoute} {c' : Cluster}
      {r : Except Failure Created} {left : Option IngressRoute}
      (hplanned : Planned config useBasicAuth submitted)
      (h : Outcome may config useBasicAuth submitted c c' r left) : Change _ _ _ c' left
  | deletion {key : Key} {route : IngressRoute} (h : c.find? .ingressRoute key = some route) :
    Change _ _ _ (c.without key route) none

theorem Change.none (may : Interference) (config : Config) (c : Cluster) :
    Change may config c c none := by
  refine .shared ?_ (.refl c)
  intro r hr
  cases hr

theorem shared_of_plays {shared : SharedMiddlewares} {m : Middleware} (hm : m ∈ shared.both)
    {ignoreConflicts : Bool} {deadline : Instant} {t : List Exchange} {ended : Option Failure}
    (h : (Step.ensure m).Plays ignoreConflicts deadline t ended) :
    ∀ r ∈ t.filterMap Exchange.wanted?, r ∈ shared.resources := by
  intro r hr
  have hm' := List.mem_singleton.1 (h.wanted_sublist.subset hr)
  rw [hm']
  exact List.mem_map.2 ⟨m, hm, rfl⟩

theorem LeavesBehind.append {t : List Exchange} {route : IngressRoute} (h : LeavesBehind t route)
    (before : List Exchange) : LeavesBehind (before ++ t) route := by
  obtain ⟨⟨submitted, deadline, hmade⟩, deadline', failure, hfailed⟩ := h
  exact ⟨⟨submitted, deadline, List.mem_append_right _ hmade⟩, deadline', failure,
    List.mem_append_right _ hfailed⟩

theorem Course.change {may : Interference} {config : Config} {c c' : Cluster}
    {t : List Exchange} (h : Course config t) (hs : c.Serves may t c') :
    ∃ left, Change may config c c' left ∧ ∀ route, left = some route → LeavesBehind t route := by
  cases h with
  | reading h =>
    rw [h.cluster_eq hs]
    exact ⟨none, .none may config c, fun _ hl => nomatch hl⟩
  | ensuring hm h =>
    have hgrows := Cluster.grows_of_serves hs h.verb_ne_delete
    refine ⟨none, .shared (fun r hr => ?_) hgrows, fun _ hl => nomatch hl⟩
    exact shared_of_plays hm h r ((Exchange.made_sublist_wanted t).subset hr)
  | creating hbefore hplanned h =>
    obtain ⟨c₁, hs₁, hs₂⟩ := Cluster.serves_append.1 hs
    rw [hbefore.cluster_eq hs₁] at hs₂
    obtain ⟨left, houtcome, hleft⟩ := outcome_of_saga h hs₂ hplanned.named
    exact ⟨left, .creation hplanned houtcome, fun route hl => (hleft route hl).append _⟩
  | deleting hbefore ns name deadline outcome =>
    obtain ⟨c₁, hs₁, c₂, hdelete, rfl⟩ := Cluster.serves_append.1 hs
    rw [hbefore.cluster_eq hs₁] at hdelete
    rcases Cluster.meets_delete_route hdelete with ⟨_, _, rfl, _⟩ | ⟨route, hroute, _, rfl⟩
    · exact ⟨none, .none may config c', fun _ hl => nomatch hl⟩
    · exact ⟨none, .deletion hroute, fun _ hl => nomatch hl⟩

/-- Where a resource is kept, among those of all kinds. -/
def place (r : AnyResource) : Kind × Key := (r.kind, r.resource.key)

theorem nodup_keys_shared (shared : SharedMiddlewares) : (shared.both.map (·.key)).Nodup := by
  have hne : shared.activityMiddleware.key ≠ shared.cacheMiddleware.key := by
    intro he
    have hname : SharedMiddlewares.activityName = SharedMiddlewares.cacheName :=
      congrArg Key.name he
    exact absurd hname (by decide)
  simp [SharedMiddlewares.both, hne]

theorem eq_of_shared_key {shared : SharedMiddlewares} {m m' : Middleware} (hm : m ∈ shared.both)
    (hm' : m' ∈ shared.both) (hkey : m.key = m'.key) : m = m' := by
  have hnodup := nodup_keys_shared shared
  simp only [SharedMiddlewares.both, List.map_cons, List.map_nil, List.nodup_cons,
    List.mem_singleton] at hnodup
  simp only [SharedMiddlewares.both, List.mem_cons, List.not_mem_nil, or_false] at hm hm'
  rcases hm with rfl | rfl <;> rcases hm' with rfl | rfl
  · rfl
  · exact absurd hkey hnodup.1
  · exact absurd hkey.symm hnodup.1
  · rfl

theorem nodup_places {shared : SharedMiddlewares} {useBasicAuth : Bool} {route : IngressRoute}
    {owner : OwnerReference} {credentials : Credentials} (ho : ownerReference? route = some owner) :
    ((children useBasicAuth route owner credentials ++ shared.resources).map place).Nodup := by
  rw [List.map_append, List.nodup_append]
  refine ⟨?_, ?_, ?_⟩
  · have hne := stripPrefixName_ne_basicAuthName route.displayName route.displayName
    cases useBasicAuth with
    | false => simp [children]
    | true =>
      have hkey : (stripPrefix route owner).key ≠ (basicAuth route owner).key :=
        fun he => hne (congrArg Key.name he)
      simp [children, place, hkey]
  · simpa [SharedMiddlewares.resources, SharedMiddlewares.both, place] using
      nodup_keys_shared shared
  · intro p hp q hq hpq
    obtain ⟨⟨r⟩, hr, rfl⟩ := List.mem_map.1 hp
    obtain ⟨x, hx, rfl⟩ := List.mem_map.1 hq
    obtain ⟨m, hm, rfl⟩ := List.mem_map.1 hx
    have hchild := childOf_of_mem_children ho hr
    obtain ⟨hkind, hkey⟩ := Prod.mk.inj hpq
    dsimp only at hkind hkey
    subst hkind
    obtain ⟨derive, hd, hname⟩ := hchild.name
    rw [hkey] at hname
    exact not_isDerived_shared hm ⟨derive, hd, _, hname⟩

theorem Taken.split {ignoreConflicts : Bool} {deadline : Instant} {steps : List (Stage × Step)}
    {t₁ t₂ : List Exchange} {x : Exchange} {ended : Option (Stage × Failure)}
    (h : Taken ignoreConflicts deadline steps (t₁ ++ x :: t₂) ended) :
    (∀ y ∈ t₁, y.call.verb ≠ .delete) ∧
      (t₁.filterMap Exchange.made? ++ x.wanted?.toList).Sublist (resources steps) := by
  refine ⟨fun y hy => h.verb_ne_delete y (List.mem_append_left _ hy), ?_⟩
  have hwanted := h.wanted_sublist
  rw [List.filterMap_append, List.filterMap_cons] at hwanted
  refine List.Sublist.trans ((Exchange.made_sublist_wanted t₁).append ?_) hwanted
  cases x.wanted? with
  | none => exact List.nil_sublist _
  | some r => exact (List.nil_sublist _).cons_cons r

/-- An element of two lists in a row stands in the first or in the second. -/
theorem append_eq_append_cons {t t' t₁ t₂ : List α} {x : α} (h : t ++ t' = t₁ ++ x :: t₂) :
    (∃ t₃, t = t₁ ++ x :: t₃) ∨ ∃ t₃, t₁ = t ++ t₃ ∧ t' = t₃ ++ x :: t₂ := by
  rcases List.append_eq_append_iff.1 h with ⟨t₃, rfl, he⟩ | ⟨t₃, rfl, he⟩
  · exact .inr ⟨t₃, rfl, he⟩
  · cases t₃ with
    | nil => exact .inr ⟨[], by simp, he.symm⟩
    | cons y t₃ =>
      cases he
      exact .inl ⟨t₃, rfl⟩

theorem append_singleton_eq_append_cons {t t₁ t₂ : List α} {x d : α}
    (h : t ++ [d] = t₁ ++ x :: t₂) : (t₁ = t ∧ x = d) ∨ ∃ t₃, t = t₁ ++ x :: t₃ := by
  rcases append_eq_append_cons h with ht | ⟨t₃, rfl, he⟩
  · exact .inr ht
  · obtain ⟨rfl, he⟩ | ⟨t₄, rfl, he⟩ := List.cons_eq_append_iff.1 he
    · cases he
      exact .inl ⟨List.append_nil t, rfl⟩
    · cases t₄ <;> cases he

section Split
variable {may : Interference} {config : Config} {useBasicAuth : Bool} {submitted : IngressRoute}
  {deadline : Instant} {t t₁ t₂ : List Exchange} {x : Exchange} {c c₁ : Cluster}

/-- A saga has begun once its route has been made and some of its steps have been taken,
in which nothing has been made that the next call wants. -/
theorem begun_of_first {route : IngressRoute} {credentials : Credentials}
    (hs : c.Serves may (⟨.create submitted, deadline, .ok route⟩ :: t₁) c₁)
    (hname : submitted.metadata.name ≠ none) (hdelete : ∀ y ∈ t₁, y.call.verb ≠ .delete)
    (hrs : (t₁.filterMap Exchange.made? ++ x.wanted?.toList).Sublist
      (resources (steps config useBasicAuth route credentials))) :
    ∃ owner credentials rs, Begun config useBasicAuth submitted c owner credentials rs c₁ ∧
      (rs ++ x.wanted?.toList).Sublist
        (children useBasicAuth (c.made submitted) owner credentials ++ config.shared.resources) := by
  have hpart := (List.sublist_append_left _ _).trans hrs
  obtain ⟨owner, rfl, hbegun⟩ := begun_of_serves hs hname hdelete hpart
  rw [resources_steps hbegun.ownerReference] at hrs
  exact ⟨owner, credentials, _, hbegun, hrs⟩

/-- A call in the middle of a saga is its first, or it meets a cluster in which
the saga has begun and in which nothing has been made that the call wants. -/
theorem Saga.split {r : Except Failure Created}
    (h : Saga config useBasicAuth submitted deadline t r) (hsplit : t = t₁ ++ x :: t₂)
    (hs : c.Serves may t₁ c₁) (hname : submitted.metadata.name ≠ none) :
    c₁ = c ∧ x.wanted? = some ⟨submitted⟩ ∨
      ∃ owner credentials rs, Begun config useBasicAuth submitted c owner credentials rs c₁ ∧
        (rs ++ x.wanted?.toList).Sublist
          (children useBasicAuth (c.made submitted) owner credentials ++
            config.shared.resources) := by
  have hfirst {y : Exchange} {t' : List Exchange} (hy : y.wanted? = some ⟨submitted⟩)
      (ht : y :: t' = t₁ ++ x :: t₂) :
      c₁ = c ∧ x.wanted? = some ⟨submitted⟩ ∨ ∃ t₃, t₁ = y :: t₃ ∧ t' = t₃ ++ x :: t₂ := by
    rcases List.cons_eq_append_iff.1 ht with ⟨rfl, he⟩ | hlater
    · cases he
      exact .inl ⟨hs, hy⟩
    · exact .inr hlater
  cases h with
  | refused failure =>
    rcases hfirst rfl hsplit with hl | ⟨t₃, _, ht₃⟩
    · exact .inl hl
    · cases t₃ <;> cases ht₃
  | completed route credentials ht =>
    rcases hfirst rfl hsplit with hl | ⟨t₃, rfl, rfl⟩
    · exact .inl hl
    · obtain ⟨hdelete, hrs⟩ := ht.split
      exact .inr (begun_of_first hs hname hdelete hrs)
  | takenBack route credentials ht now deleted =>
    rcases hfirst rfl hsplit with hl | ⟨t₃, rfl, ht₃⟩
    · exact .inl hl
    rcases append_singleton_eq_append_cons ht₃ with ⟨rfl, rfl⟩ | ⟨t₄, rfl⟩
    · have hrs : (t₃.filterMap Exchange.made? ++ []).Sublist
          (resources (steps config useBasicAuth route credentials)) := by
        rw [List.append_nil]
        exact ht.made_sublist
      exact .inr (begun_of_first hs hname ht.verb_ne_delete hrs)
    · obtain ⟨hdelete, hrs⟩ := ht.split
      exact .inr (begun_of_first hs hname hdelete hrs)

end Split

/-- In a saga that has begun, a child is only created where there is none. -/
theorem Begun.find?_wanted {config : Config} {exempt : Key → Prop} {useBasicAuth : Bool}
    {submitted : IngressRoute} {c c₁ : Cluster} {owner : OwnerReference}
    {credentials : Credentials} {rs : List AnyResource}
    (h : Begun config useBasicAuth submitted c owner credentials rs c₁)
    (howned : Owned exempt c) (hexempt : Exempts config.shared exempt) {k : Kind} {r : Resource k}
    (hrs : (rs ++ ([⟨r⟩] : List AnyResource)).Sublist
      (children useBasicAuth (c.made submitted) owner credentials ++ config.shared.resources))
    (halone : ¬ StandsAlone exempt k r.key) : c₁.find? k r.key = none := by
  have hchild : ChildOf (c.made submitted) r := by
    rcases List.mem_append.1 (hrs.subset (List.mem_append_right _ List.mem_cons_self)) with hr | hr
    · exact childOf_of_mem_children h.ownerReference hr
    · obtain ⟨m, hm, he⟩ := List.mem_map.1 hr
      cases he
      exact absurd (hexempt.shared m hm) halone
  have hnew : ∀ r' : Resource k, ⟨r'⟩ ∈ (⟨submitted⟩ :: rs : List AnyResource) → r'.key ≠ r.key := by
    intro r' hr' hkey
    obtain ⟨derive, hd, _⟩ := hchild.name
    rcases List.mem_cons.1 hr' with he | hr'
    · cases he
      cases hd
    have hnodup := (hrs.map place).nodup (nodup_places h.ownerReference)
    rw [List.map_append, List.nodup_append] at hnodup
    exact hnodup.2.2 _ (List.mem_map_of_mem hr') _ List.mem_cons_self (congrArg (Prod.mk k) hkey)
  rw [h.grows_all.find?_of_forall_ne hnew]
  exact howned.find?_child hexempt.underived hchild h.free

/-- An exchange meets a cluster in which all is owned, and if it creates something
that cannot stand alone, there is nothing under that key. -/
structure MetWell (exempt : Key → Prop) (c : Cluster) (x : Exchange) : Prop where
  owned : Owned exempt c
  free : ∀ {k : Kind} {r : Resource k}, x.wanted? = some ⟨r⟩ → ¬ StandsAlone exempt k r.key →
    c.find? k r.key = none

section MetWell
variable {may : Interference} {config : Config} {exempt : Key → Prop} {c c₁ : Cluster}
  {t t₁ t₂ : List Exchange} {x : Exchange}

theorem metWell_of_wanted (howned : Owned exempt c) (hx : x.wanted? = none) :
    MetWell exempt c x := by
  refine ⟨howned, fun hr => ?_⟩
  rw [hx] at hr
  cases hr

theorem Reads.metWell (h : Reads (t₁ ++ x :: t₂)) (hs : c.Serves may t₁ c₁)
    (howned : Owned exempt c) : MetWell exempt c₁ x := by
  have hbefore : Reads t₁ := fun y hy => h y (List.mem_append_left _ hy)
  have hx := h x (List.mem_append_right _ List.mem_cons_self)
  rw [hbefore.cluster_eq hs]
  apply metWell_of_wanted howned
  obtain ⟨call, deadline, outcome⟩ := x
  cases call with
  | create r => rcases hx with hx | hx <;> cases hx
  | _ => rfl

theorem standsAlone_of_mem_shared (hexempt : Exempts config.shared exempt) {k : Kind}
    {r : Resource k} (hr : ⟨r⟩ ∈ config.shared.resources) : StandsAlone exempt k r.key := by
  obtain ⟨m, hm, he⟩ := List.mem_map.1 hr
  cases he
  exact hexempt.shared m hm

theorem Step.Plays.metWell {m : Middleware} (hm : m ∈ config.shared.both)
    {ignoreConflicts : Bool} {deadline : Instant} {ended : Option Failure}
    (h : (Step.ensure m).Plays ignoreConflicts deadline (t₁ ++ x :: t₂) ended)
    (hs : c.Serves may t₁ c₁) (howned : Owned exempt c)
    (hexempt : Exempts config.shared exempt) : MetWell exempt c₁ x := by
  have hshared := shared_of_plays hm h
  rw [List.filterMap_append] at hshared
  have hgrows := Cluster.grows_of_serves hs fun y hy =>
    h.verb_ne_delete y (List.mem_append_left _ hy)
  have hmade {k : Kind} {r : Resource k} (hr : ⟨r⟩ ∈ t₁.filterMap Exchange.made?) :
      ⟨r⟩ ∈ config.shared.resources :=
    hshared _ (List.mem_append_left _ ((Exchange.made_sublist_wanted t₁).subset hr))
  refine ⟨howned.grows hgrows (fun r r' hr _ => ?_) fun hr => ?_, fun {k r} hx halone => ?_⟩
  · cases (kind_of_mem_shared (hmade hr)).1
  · exact .inl (standsAlone_of_mem_shared hexempt (hmade hr))
  · have hmem : ⟨r⟩ ∈ (x :: t₂).filterMap Exchange.wanted? :=
      List.mem_filterMap.2 ⟨x, List.mem_cons_self, hx⟩
    have hr := hshared _ (List.mem_append_right _ hmem)
    exact absurd (standsAlone_of_mem_shared hexempt hr) halone

theorem Saga.metWell {useBasicAuth : Bool} {submitted : IngressRoute} {deadline : Instant}
    {r : Except Failure Created} (h : Saga config useBasicAuth submitted deadline t r)
    (hsplit : t = t₁ ++ x :: t₂) (hs : c.Serves may t₁ c₁)
    (hname : submitted.metadata.name ≠ none) (howned : Owned exempt c)
    (hexempt : Exempts config.shared exempt) : MetWell exempt c₁ x := by
  rcases h.split hsplit hs hname with ⟨rfl, hx⟩ | ⟨owner, credentials, rs, hbegun, hrs⟩
  · refine ⟨howned, fun hr halone => ?_⟩
    rw [hx] at hr
    cases hr
    exact absurd trivial halone
  · refine ⟨hbegun.owned howned hexempt, fun hr halone => ?_⟩
    rw [hr] at hrs
    exact hbegun.find?_wanted howned hexempt hrs halone

/-- Ownership holds whenever a call is made, and a child is only created where
there is none. -/
theorem Course.metWell (h : Course config t) (hsplit : t = t₁ ++ x :: t₂)
    (hs : c.Serves may t₁ c₁) (howned : Owned exempt c)
    (hexempt : Exempts config.shared exempt) : MetWell exempt c₁ x := by
  cases h with
  | reading h =>
    rw [hsplit] at h
    exact h.metWell hs howned
  | ensuring hm h =>
    rw [hsplit] at h
    exact h.metWell hm hs howned hexempt
  | creating hbefore hplanned h =>
    rcases List.append_eq_append_iff.1 hsplit with ⟨as, rfl, ht⟩ | ⟨bs, rfl, ht⟩
    · obtain ⟨c₂, hs₁, hs₂⟩ := Cluster.serves_append.1 hs
      rw [hbefore.cluster_eq hs₁] at hs₂
      exact h.metWell ht hs₂ hplanned.named howned hexempt
    · cases bs with
      | nil =>
        rw [List.append_nil] at hbefore
        obtain rfl : c₁ = c := hbefore.cluster_eq hs
        have hall : _ = [] ++ x :: t₂ := ht.symm
        have hstart : c₁.Serves may [] c₁ := rfl
        exact h.metWell hall hstart hplanned.named howned hexempt
      | cons y bs =>
        cases ht
        exact hbefore.metWell hs howned
  | deleting hbefore ns name deadline outcome =>
    rcases append_singleton_eq_append_cons hsplit with ⟨rfl, rfl⟩ | ⟨t₃, rfl⟩
    · rw [hbefore.cluster_eq hs]
      exact metWell_of_wanted howned rfl
    · exact hbefore.metWell hs howned

end MetWell

end TenantEndpoints.Endpoint
