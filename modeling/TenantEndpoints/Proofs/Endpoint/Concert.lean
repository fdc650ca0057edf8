import TenantEndpoints.Proofs.Endpoint.Routes

/-!
# Creations in concert

Creations of endpoints with different keys take turns on a world in which nothing
else happens. Each has places of its own there, for its route and for the route's
children, which no other touches. So it finds them free, keeps what it has stored in
them, and leaves nothing there if it takes its route back.
-/
namespace TenantEndpoints.Endpoint

/-- The places of an endpoint: that of its route, and those of the route's children. -/
inductive OwnPlace (key : Key) : Kind → Key → Prop
  | route : OwnPlace key .ingressRoute key
  | child {k : Kind} {derive : String → String} (h : derive ∈ derivations k) :
    OwnPlace key k ⟨key.ns, derive key.name⟩

section OwnPlace
variable {k : Kind} {key key' place : Key}

/-- No place belongs to two endpoints. -/
theorem OwnPlace.unique (h : OwnPlace key k place) (h' : OwnPlace key' k place) : key = key' := by
  cases h with
  | route =>
    cases h' with
    | route => rfl
    | child hd => cases hd
  | child hd =>
    generalize hp : (⟨key.ns, _⟩ : Key) = place at h'
    cases h' with
    | route => cases hd
    | child hd' =>
      obtain ⟨hns, hname⟩ := Key.mk.inj hp
      obtain ⟨_, hname⟩ := eq_of_derived_eq hd hd' hname
      calc key = ⟨key.ns, key.name⟩ := rfl
        _ = key' := by rw [hns, hname]

theorem not_ownPlace_shared {shared : SharedMiddlewares} {m : Middleware} (hm : m ∈ shared.both) :
    ¬ OwnPlace key .middleware m.key := by
  intro h
  generalize hp : m.key = place at h
  cases h with
  | child hd => exact not_isDerived_shared hm ⟨_, hd, key.name, congrArg Key.name hp⟩

theorem ChildOf.ownPlace {route : IngressRoute} {r : Resource k} (h : ChildOf route r) :
    OwnPlace route.key k r.key := by
  obtain ⟨derive, hd, hname⟩ := h.name
  have hkey : r.key = ⟨route.key.ns, derive route.key.name⟩ := by rw [← h.ns, ← hname]
  rw [hkey]
  exact .child hd

end OwnPlace

/-- Neither the route of an endpoint is there, nor anything under a name of its children. -/
def Vacant (c : Cluster) (key : Key) : Prop :=
  ∀ k place, OwnPlace key k place → c.find? k place = none

theorem vacant_empty (key : Key) : Vacant {} key := fun k _ _ => by cases k <;> rfl

/-- A resource in another place leaves places vacant. -/
theorem Vacant.put {c : Cluster} {key : Key} {k : Kind} {r : Resource k} (h : Vacant c key)
    (hr : ¬ OwnPlace key k r.key) : Vacant (c.put r) key := by
  intro k' place hplace
  rw [Cluster.find?_put_of_ne]
  · exact h k' place hplace
  · rintro rfl rfl
    exact hr hplace

theorem Vacant.grown {c : Cluster} {key : Key} {k : Kind} {r : Resource k} (h : Vacant c key)
    (hr : ¬ OwnPlace key k r.key) : Vacant (c.grown r) key := by
  intro k' place hplace
  rw [Cluster.find?_grown]
  exact h.put (by rwa [Cluster.key_made]) k' place hplace

/-- A creation that is asked for. -/
structure Creation where
  request : EndpointRequest
  service : Service
  deadline : Instant

namespace Creation

/-- The key of the endpoint that is asked for. -/
def key (c : Creation) : Key := ⟨c.request.ns, c.request.name⟩

def program (config : Config) (c : Creation) : Program (Except Failure Created) :=
  (create config c.request c.service c.deadline).run

end Creation

/-- Some creations that are asked for on one world. -/
def concert {ι : Type} (config : Config) (creations : ι → Creation) (w : World) :
    Joint ι (Except Failure Created) :=
  ⟨w, fun i => (creations i).program config⟩

/-- The creations are in order, know their domain and have different keys. No rule disturbs
their calls, and none of their places is taken. -/
structure Ready {ι : Type} (config : Config) (creations : ι → Creation) (s : ι → Surroundings)
    (w : World) : Prop where
  valid : ∀ i, (creations i).request.validate = .ok ()
  eligible : ∀ i, config.ports.eligible (creations i).service ≠ []
  domain : ∀ i, ∃ domain, (s i).domain = .ok domain
  distinct : ∀ i j, (creations i).key = (creations j).key → i = j
  calm : w.rules = []
  free : ∀ i, Vacant w.cluster (creations i).key

section Turns
variable {ι : Type} [DecidableEq ι] {config : Config} {creations : ι → Creation}
  {s : ι → Surroundings} {schedule : List ι} {w : World}

/-- What a call of a creation is there for, given the turns before it. -/
inductive Role (config : Config) (creation : Creation) (i : ι) (before : List (Turn ι)) :
    Exchange → Prop
  | submits {submitted : IngressRoute} (hkey : submitted.key = creation.key)
      (hbefore : Turn.exchangesOf i before = []) (deadline : Instant)
      (outcome : Except Failure IngressRoute) :
    Role _ _ _ _ ⟨.create submitted, deadline, outcome⟩
  | provides {submitted route : IngressRoute} {owner : OwnerReference} {credentials : Credentials}
      {earlier rest : List (Turn ι)} {y : Turn ι} (hkey : submitted.key = creation.key)
      (hbefore : before = earlier ++ y :: rest) (hentered : Entered i submitted route earlier y)
      (howner : ownerReference? route = some owner) {x : Exchange} (hspares : x.SparesRoutes)
      (hwanted : ((Turn.exchangesOf i rest).filterMap Exchange.made? ++ x.wanted?.toList).Sublist
        (children creation.request.useBasicAuth route owner credentials ++
          config.shared.resources)) : Role _ _ _ _ x
  | takesBack (deadline : Instant) (deleted : Except Failure Unit) :
    Role _ _ _ _ ⟨.delete .ingressRoute creation.key.ns creation.key.name, deadline, deleted⟩

theorem Creation.place {creation : Creation} {t t₁ t₂ : List Exchange} {x : Exchange}
    {r : Except Failure Created} (h : (creation.program config).Plays lookup t r)
    (hsplit : t = t₁ ++ x :: t₂) :
    ∃ submitted : IngressRoute, submitted.key = creation.key ∧ submitted.metadata.name ≠ none ∧
      Saga.Place config creation.request.useBasicAuth submitted creation.deadline t₁ x := by
  rcases plays_create h with ⟨_, rfl, _⟩ | ⟨domain, ids, _, _, hsaga⟩
  · cases t₁ <;> cases hsplit
  · exact ⟨_, rfl, Option.some_ne_none _, hsaga.place hsplit⟩

theorem place_in_concert {before after : List (Turn ι)} {x : Turn ι}
    (hsplit : (concert config creations w).turns s schedule = before ++ x :: after) :
    ∃ submitted : IngressRoute, submitted.key = (creations x.party).key ∧
      submitted.metadata.name ≠ none ∧
      Saga.Place config (creations x.party).request.useBasicAuth submitted
        (creations x.party).deadline (Turn.exchangesOf x.party before) x.encounter.exchange :=
  Joint.forall_turns (P := fun i t x => ∃ submitted : IngressRoute,
    submitted.key = (creations i).key ∧ submitted.metadata.name ≠ none ∧
    Saga.Place config (creations i).request.useBasicAuth submitted (creations i).deadline t x)
    Creation.place hsplit

theorem chronicle_concert (h : Ready config creations s w) :
    Cluster.Chronicle .none w.cluster
      (((concert config creations w).turns s schedule).map (·.encounter))
      ((concert config creations w).after s schedule).world.cluster := by
  have hrules : ∀ r ∈ (concert config creations w).world.rules, r.Keeps .none := by
    intro r hr
    rw [show (concert config creations w).world.rules = [] from h.calm] at hr
    cases hr
  refine Joint.chronicle_turns hrules fun x hx hverb => ?_
  obtain ⟨before, after, hsplit⟩ := List.append_of_mem hx
  obtain ⟨_, _, _, hplace⟩ := place_in_concert hsplit
  exact hplace.routesOnly hverb

/-- Some turns with which a concert begins, and the cluster after them. -/
structure Opening (config : Config) (creations : ι → Creation) (s : ι → Surroundings)
    (schedule : List ι) (w : World) (turns : List (Turn ι)) (c : Cluster) : Prop where
  ready : Ready config creations s w
  begins : turns <+: (concert config creations w).turns s schedule
  chronicle : Cluster.Chronicle .none w.cluster (turns.map (·.encounter)) c

theorem opening_all (h : Ready config creations s w) :
    Opening config creations s schedule w ((concert config creations w).turns s schedule)
      ((concert config creations w).after s schedule).world.cluster :=
  ⟨h, List.prefix_rfl, chronicle_concert h⟩

theorem Opening.split {turns before after : List (Turn ι)} {c : Cluster} {x : Turn ι}
    (ho : Opening config creations s schedule w turns c) (hsplit : turns = before ++ x :: after) :
    Opening config creations s schedule w before x.encounter.state.cluster := by
  refine ⟨ho.ready, ?_, (Turn.split_chronicle ho.chronicle hsplit).1⟩
  rw [hsplit] at ho
  exact (List.prefix_append before _).trans ho.begins

theorem Opening.mem {turns : List (Turn ι)} {c : Cluster} {x : Turn ι}
    (ho : Opening config creations s schedule w turns c) (hx : x ∈ turns) :
    x ∈ (concert config creations w).turns s schedule :=
  ho.begins.subset hx

/-- Every turn is served, and meets the cluster that an opening has led to. -/
theorem exists_opening (h : Ready config creations s w) {x : Turn ι}
    (hx : x ∈ (concert config creations w).turns s schedule) :
    ∃ before after, (concert config creations w).turns s schedule = before ++ x :: after ∧
      Opening config creations s schedule w before x.encounter.state.cluster ∧
      x.encounter.Served .none := by
  obtain ⟨before, after, hsplit⟩ := List.append_of_mem hx
  exact ⟨before, after, hsplit, (opening_all h).split hsplit,
    (Turn.split_chronicle (chronicle_concert h) hsplit).2.1⟩

theorem role_in_concert (h : Ready config creations s w) {before after : List (Turn ι)}
    {x : Turn ι}
    (hsplit : (concert config creations w).turns s schedule = before ++ x :: after) :
    Role config (creations x.party) x.party before x.encounter.exchange := by
  obtain ⟨submitted, hkey, hname, hplace⟩ := place_in_concert hsplit
  obtain ⟨hbefore, _, _⟩ := Turn.split_chronicle (chronicle_concert h) hsplit
  generalize hx : x.encounter.exchange = e at hplace ⊢
  generalize ht : Turn.exchangesOf x.party before = t at hplace
  cases hplace with
  | first outcome => exact .submits hkey ht _ outcome
  | between route credentials _ hspares hwanted =>
    obtain ⟨earlier, y, rest, hsplit', hentered, rfl⟩ := exists_entered hbefore ht
    obtain ⟨owner, howner⟩ := hentered.exists_ownerReference? hname
    rw [resources_steps howner] at hwanted
    exact .provides hkey hsplit' hentered howner hspares hwanted
  | last route _ deadline deleted =>
    obtain ⟨_, _, _, _, hentered, _⟩ := exists_entered hbefore ht
    have hown : (⟨route.metadata.namespaceOrEmpty, route.displayName⟩ : Key) =
        (creations x.party).key := hentered.route_key.trans hkey
    obtain ⟨hns, hname⟩ := Key.mk.inj hown
    rw [hns, hname]
    exact .takesBack deadline deleted

variable {turns before after : List (Turn ι)} {x : Turn ι} {c : Cluster} {i : ι} {k : Kind}
  {key : Key} {r : Resource k}

/-- What is wanted after a route is in a place of the same endpoint, or shared. -/
theorem ownPlace_or_shared {creation : Creation} {submitted route : IngressRoute}
    {owner : OwnerReference} {credentials : Credentials} {earlier : List (Turn ι)} {y : Turn ι}
    (hkey : submitted.key = creation.key) (hentered : Entered i submitted route earlier y)
    (howner : ownerReference? route = some owner)
    (hr : ⟨r⟩ ∈ children creation.request.useBasicAuth route owner credentials ++
      config.shared.resources) :
    OwnPlace creation.key k r.key ∧ ChildOf route r ∨ ⟨r⟩ ∈ config.shared.resources := by
  rcases List.mem_append.1 hr with hr | hr
  · have hchild := childOf_of_mem_children howner hr
    have hplace := hchild.ownPlace
    rw [hentered.route_key, hkey] at hplace
    exact .inl ⟨hplace, hchild⟩
  · exact .inr hr

theorem Role.wanted {creation : Creation} {e : Exchange}
    (hrole : Role config creation i before e) (he : e.wanted? = some ⟨r⟩) :
    OwnPlace creation.key k r.key ∨ ⟨r⟩ ∈ config.shared.resources := by
  cases hrole with
  | submits hkey =>
    cases he
    rw [hkey]
    exact .inl .route
  | provides hkey _ hentered howner _ hwanted =>
    rw [he] at hwanted
    have hmem := hwanted.subset (List.mem_append_right _ List.mem_cons_self)
    exact (ownPlace_or_shared hkey hentered howner hmem).imp_left And.left
  | takesBack => cases he

/-- What is stored was submitted for a place of the endpoint, or is shared. -/
theorem submitted_of_stores (h : Ready config creations s w)
    (hx : x ∈ (concert config creations w).turns s schedule) (hs : x.encounter.Stores key r) :
    ∃ (submitted : Resource k) (deadline : Instant), submitted.key = key ∧
      x.encounter.exchange = ⟨.create submitted, deadline, .ok r⟩ ∧
      r = x.encounter.state.cluster.made submitted ∧
      (OwnPlace (creations x.party).key k key ∨ ⟨submitted⟩ ∈ config.shared.resources) := by
  obtain ⟨before, after, hsplit, _, hserved⟩ := exists_opening h hx
  obtain ⟨submitted, deadline, rfl, he, hmade, _⟩ := hs.exchange hserved.change
  have hrole := role_in_concert h hsplit
  rw [he] at hrole
  exact ⟨submitted, deadline, rfl, he, hmade, hrole.wanted rfl⟩

/-- In a place of an endpoint only its own creation stores something. -/
theorem party_of_stores (h : Ready config creations s w)
    (hx : x ∈ (concert config creations w).turns s schedule)
    (hs : x.encounter.Stores key r) (hplace : OwnPlace (creations i).key k key) : x.party = i := by
  obtain ⟨submitted, _, rfl, _, _, hown | hshared⟩ := submitted_of_stores h hx hs
  · exact h.distinct _ _ (hown.unique hplace)
  · obtain ⟨m, hm, he⟩ := List.mem_map.1 hshared
    cases he
    exact absurd hplace (not_ownPlace_shared hm)

/-- What is found in a place of an endpoint has been stored by its own creation. -/
theorem Opening.stored (ho : Opening config creations s schedule w turns c)
    (hplace : OwnPlace (creations i).key k key) (hr : c.find? k key = some r) :
    ∃ x ∈ turns, x.party = i ∧ x.encounter.Stores key r := by
  rcases Turn.origin ho.chronicle hr with hold | ⟨x, hx, hs⟩
  · rw [ho.ready.free i k key hplace] at hold
    cases hold
  · exact ⟨x, hx, party_of_stores ho.ready (ho.mem hx) hs hplace, hs⟩

/-- A creation finds the places free in which it is going to store something. Only it could have
stored something there, but it stores nothing before its route and nothing in one place twice. -/
theorem free_of_wanted (h : Ready config creations s w)
    (hsplit : (concert config creations w).turns s schedule = before ++ x :: after)
    (hx : x.encounter.exchange.wanted? = some ⟨r⟩)
    (hplace : OwnPlace (creations x.party).key k r.key) :
    x.encounter.state.cluster.find? k r.key = none := by
  have ho := (opening_all h).split hsplit
  cases hfound : x.encounter.state.cluster.find? k r.key with
  | none => rfl
  | some r₁ =>
    obtain ⟨y, hy, hparty, hs⟩ := ho.stored hplace hfound
    obtain ⟨_, _, _, _, hserved⟩ := exists_opening h (ho.mem hy)
    obtain ⟨made, deadline, hkey, he, _⟩ := hs.exchange hserved.change
    have hrole := role_in_concert h hsplit
    generalize x.encounter.exchange = e at hrole hx
    cases hrole with
    | submits _ hfirst =>
      have hmem := Turn.mem_exchangesOf.2 ⟨y, hy, hparty, rfl⟩
      rw [hfirst] at hmem
      cases hmem
    | @provides submitted route owner credentials earlier rest y₀ _ hsplit' hentered howner _
        hspares hwanted =>
      rw [hsplit', List.mem_append, List.mem_cons] at hy
      rcases hy with hy | rfl | hy
      · have hmem := Turn.mem_exchangesOf.2 ⟨y, hy, hparty, rfl⟩
        rw [hentered.first] at hmem
        cases hmem
      · obtain ⟨_, _, _, he', _⟩ := hentered.stores.exchange hserved.change
        cases he.symm.trans he'
        exact absurd hx (hspares.wanted_ne r)
      · have hmade : ⟨made⟩ ∈ (Turn.exchangesOf x.party rest).filterMap Exchange.made? :=
          List.mem_filterMap.2 ⟨_, Turn.mem_exchangesOf.2 ⟨y, hy, hparty, he⟩, rfl⟩
        have hnodup := (hwanted.map place).nodup (nodup_places howner)
        rw [hx, List.map_append, List.nodup_append] at hnodup
        exact absurd (congrArg (Prod.mk k) hkey)
          (hnodup.2.2 _ (List.mem_map_of_mem hmade) _ List.mem_cons_self)
    | takesBack => cases hx

/-- What a creation submits in a place of its own is created. -/
theorem ok_of_creates (h : Ready config creations s w)
    (hsplit : (concert config creations w).turns s schedule = before ++ x :: after)
    {deadline : Instant} {outcome : Except Failure (Resource k)}
    (hx : x.encounter.exchange = ⟨.create r, deadline, outcome⟩)
    (hplace : OwnPlace (creations x.party).key k r.key) : ∃ r', outcome = .ok r' := by
  have hfree := free_of_wanted (r := r) h hsplit (by rw [hx]; rfl) hplace
  obtain ⟨_, ⟨hmeets, _⟩, _⟩ := Turn.split_chronicle (chronicle_concert h) hsplit
  rw [hx] at hmeets
  rcases Cluster.meets_create hmeets with ⟨_, _, _, hmay | hfound⟩ | ⟨_, he, _⟩
  · exact hmay.elim
  · exact absurd hfree hfound.1
  · exact ⟨_, he⟩

/-- A child that a creation has stored is a child of the route that it has stored. -/
theorem childOf_of_stores (h : Ready config creations s w)
    (hsplit : (concert config creations w).turns s schedule = before ++ x :: after)
    (hs : x.encounter.Stores key r) (hk : k ≠ .ingressRoute)
    (hplace : OwnPlace (creations x.party).key k key) :
    ∃ y ∈ before, ∃ route, y.party = x.party ∧
      y.encounter.Stores (creations x.party).key route ∧ ChildOf route r := by
  obtain ⟨_, hserved, _⟩ := Turn.split_chronicle (chronicle_concert h) hsplit
  obtain ⟨submitted, deadline, rfl, he, hmade, _⟩ := hs.exchange hserved.change
  have hrole := role_in_concert h hsplit
  rw [he] at hrole
  cases hrole with
  | submits => exact absurd rfl hk
  | @provides _ route _ _ earlier rest y hkey hbefore hentered howner _ _ hwanted =>
    have hmem := hwanted.subset (List.mem_append_right _ List.mem_cons_self)
    rcases ownPlace_or_shared hkey hentered howner hmem with ⟨_, hchild⟩ | hshared
    · have hstores := hentered.stores
      rw [hkey] at hstores
      rw [hmade]
      refine ⟨y, ?_, route, hentered.party, hstores, hchild.made _⟩
      rw [hbefore]
      exact List.mem_append_right _ List.mem_cons_self
    · obtain ⟨m, hm, he⟩ := List.mem_map.1 hshared
      cases he
      exact absurd hplace (not_ownPlace_shared hm)

/-- Something is only removed when a creation deletes the route under its key. -/
theorem deletes_of_removes (h : Ready config creations s w)
    (hx : x ∈ (concert config creations w).turns s schedule) (hr : x.encounter.Removes key r) :
    x.encounter.exchange.call.verb = .delete ∧ ∃ route,
      x.encounter.state.cluster.find? .ingressRoute (creations x.party).key = some route ∧
      (k = .ingressRoute ∧ key = (creations x.party).key ∨
        k ≠ .ingressRoute ∧ Cluster.hangsOn r route = true) := by
  obtain ⟨before, after, hsplit, _, hserved⟩ := exists_opening h hx
  obtain ⟨ns, name, deadline, route, he, hroute, hkey⟩ := hr.exchange hserved.change
  have hrole := role_in_concert h hsplit
  rw [he] at hrole ⊢
  cases hrole with
  | provides _ _ _ _ hspares => exact absurd rfl hspares.verb_ne_delete
  | takesBack => exact ⟨rfl, route, hroute, hkey⟩

/-- What a creation has stored in a place of its own is only removed by itself, because the route
on which it hangs can only be that of its own creation. -/
theorem party_of_removes (h : Ready config creations s w) {y : Turn ι}
    (hx : x ∈ (concert config creations w).turns s schedule)
    (hy : y ∈ (concert config creations w).turns s schedule)
    (hs : y.encounter.Stores key r) (hplace : OwnPlace (creations y.party).key k key)
    (hr : x.encounter.Removes key r) : x.party = y.party := by
  obtain ⟨_, route, hroute, ⟨rfl, rfl⟩ | ⟨hk, hhangs⟩⟩ := deletes_of_removes h hx hr
  · exact h.distinct _ _ (OwnPlace.route.unique hplace)
  · obtain ⟨_, _, _, hox, _⟩ := exists_opening h hx
    obtain ⟨_, _, hsplit, hoy, _⟩ := exists_opening h hy
    obtain ⟨z, hz, own, hparty, hstores, hchild⟩ := childOf_of_stores h hsplit hs hk hplace
    obtain ⟨z', hz', hparty', hstores'⟩ := hox.stored .route hroute
    have huid := hchild.hangsOn_iff.1 hhangs
    have hsame : z' = z :=
      Turn.eq_of_uid (chronicle_concert h) (hox.mem hz') (hoy.mem hz) hstores' hstores huid
    rw [← hparty', hsame, hparty]

/-- What a creation has stored in a place of its own stays while it deletes nothing. -/
theorem Opening.find?_of_stores (ho : Opening config creations s schedule w turns c)
    (hcalm : ∀ y ∈ turns, y.party = i → y.encounter.exchange.call.verb ≠ .delete) (hx : x ∈ turns)
    (hs : x.encounter.Stores key r) (hplace : OwnPlace (creations i).key k key) :
    c.find? k key = some r := by
  obtain rfl := party_of_stores ho.ready (ho.mem hx) hs hplace
  obtain ⟨us, vs, hsplit⟩ := List.append_of_mem hx
  rcases Turn.fate (Turn.split_chronicle ho.chronicle hsplit).2.2 hs.2 with hkept | ⟨y, hy, hr⟩
  · exact hkept
  have hy' : y ∈ turns := by
    rw [hsplit]
    exact List.mem_append_right _ (List.mem_cons_of_mem _ hy)
  have hparty := party_of_removes ho.ready (ho.mem hy') (ho.mem hx) hs hplace hr
  exact absurd (deletes_of_removes ho.ready (ho.mem hy') hr).1 (hcalm y hy' hparty)

end Turns

end TenantEndpoints.Endpoint
