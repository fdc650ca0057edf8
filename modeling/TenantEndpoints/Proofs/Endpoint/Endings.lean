import TenantEndpoints.Proofs.Endpoint.Concert

/-!
# How creations in concert end

A creation that takes turns with others completes its steps, or stops at one of them
and deletes its route. In the one case its endpoint is there afterwards, and in the
other nothing is left of it in the places of its own, whatever the others have done.
-/
namespace TenantEndpoints.Endpoint

section Taken
variable {ignoreConflicts : Bool} {deadline : Instant} {steps : List (Stage × Step)}
  {t : List Exchange}

theorem Step.Plays.made_eq_nil {step : Step} {failure : Failure}
    (h : step.Plays ignoreConflicts deadline t (some failure)) :
    t.filterMap Exchange.made? = [] := by
  cases h <;> rfl

theorem Taken.passes (h : Taken ignoreConflicts deadline steps t none) {stage : Stage}
    {step : Step} (hstep : (stage, step) ∈ steps) :
    ∃ t', step.Plays ignoreConflicts deadline t' none ∧ ∀ e ∈ t', e ∈ t := by
  generalize hn : (none : Option (Stage × Failure)) = ended at h
  induction h with
  | finished => cases hstep
  | @passed _ _ _ t₁ t₂ _ hp _ ih =>
    rcases List.mem_cons.1 hstep with he | hstep
    · cases he
      exact ⟨t₁, hp, fun e he => List.mem_append_left _ he⟩
    · obtain ⟨t', hplays, ht'⟩ := ih hstep hn
      exact ⟨t', hplays, fun e he => List.mem_append_right _ (ht' e he)⟩
  | stopped => cases hn

/-- The step at which it stops is the last, and comes after those that have made something. -/
theorem Taken.stops {stage : Stage} {failure : Failure}
    (h : Taken ignoreConflicts deadline steps t (some (stage, failure))) :
    ∃ step t₁ t', (stage, step) ∈ steps ∧
      step.Plays ignoreConflicts deadline t' (some failure) ∧ t = t₁ ++ t' ∧
      (t.filterMap Exchange.made? ++ step.resource?.toList).Sublist (resources steps) := by
  generalize hn : some (stage, failure) = ended at h
  induction h with
  | finished => cases hn
  | @passed _ _ _ t₀ _ _ hp _ ih =>
    obtain ⟨step, t₁, t', hstep, hplays, rfl, hmade⟩ := ih hn
    refine ⟨step, t₀ ++ t₁, t', List.mem_cons_of_mem _ hstep, hplays,
      (List.append_assoc t₀ t₁ t').symm, ?_⟩
    rw [List.filterMap_append, List.append_assoc, resources, List.flatMap_cons]
    exact ((Exchange.made_sublist_wanted _).trans hp.wanted_sublist).append hmade
  | stopped steps hp =>
    cases hn
    refine ⟨_, [], _, List.mem_cons_self, hp, rfl, ?_⟩
    rw [hp.made_eq_nil, resources, List.flatMap_cons]
    exact List.sublist_append_left _ _

end Taken

section Ended
variable {ι : Type} [DecidableEq ι] {config : Config} {creations : ι → Creation}
  {s : ι → Surroundings} {schedule : List ι} {w : World}

/-- In some turns a creation has stored its route and taken steps for it. -/
structure Underway (config : Config) (creation : Creation) (i : ι) (turns : List (Turn ι))
    (route : IngressRoute) (owner : OwnerReference) (credentials : Credentials)
    (t : List Exchange) (ended : Option (Stage × Failure)) : Prop where
  key : route.key = creation.key
  ownerReference : ownerReference? route = some owner
  stores : ∃ x ∈ turns, x.encounter.Stores creation.key route
  exchanges : ∃ submitted : IngressRoute,
    Turn.exchangesOf i turns = ⟨.create submitted, creation.deadline, .ok route⟩ :: t
  taken : Taken config.shared.ignoreConflicts creation.deadline
    (steps config creation.request.useBasicAuth route credentials) t ended

/-- In its last turn a creation deletes the route under its key. -/
structure Withdrawal (key : Key) (i : ι) (turns before : List (Turn ι)) (x : Turn ι)
    (after : List (Turn ι)) (deleted : Except Failure Unit) : Prop where
  split : turns = before ++ x :: after
  exchange : ∃ deadline,
    x.encounter.exchange = ⟨.delete .ingressRoute key.ns key.name, deadline, deleted⟩
  last : Turn.exchangesOf i after = []

theorem Withdrawal.deletes {key : Key} {i : ι} {turns before after : List (Turn ι)} {x : Turn ι}
    {deleted : Except Failure Unit} (h : Withdrawal key i turns before x after deleted) :
    x ∈ turns ∧ x.encounter.exchange.call.verb = .delete := by
  obtain ⟨deadline, hx⟩ := h.exchange
  refine ⟨?_, by rw [hx]; rfl⟩
  rw [h.split]
  exact List.mem_append_right _ List.mem_cons_self

/-- How a creation has ended that has come to its end. -/
inductive Ended (config : Config) (creation : Creation) (i : ι) (turns : List (Turn ι)) :
    Except Failure Created → Prop
  | completed {route : IngressRoute} {owner : OwnerReference} {credentials : Credentials}
      {t : List Exchange}
      (h : Underway config creation i turns route owner credentials t none) :
    Ended _ _ _ _ (.ok ⟨route, if creation.request.useBasicAuth then some credentials else none⟩)
  | takenBack {route : IngressRoute} {owner : OwnerReference} {credentials : Credentials}
      {t : List Exchange} {stage : Stage} {failure : Failure} {before after : List (Turn ι)}
      {x : Turn ι} {deleted : Except Failure Unit}
      (h : Underway config creation i before route owner credentials t (some (stage, failure)))
      (hw : Withdrawal creation.key i turns before x after deleted) :
    Ended _ _ _ _ (.error (reported failure deleted))

theorem underway_of_exchanges {may : Interference} {c c' : Cluster} {turns : List (Turn ι)}
    {i : ι} {creation : Creation} {submitted route : IngressRoute} {credentials : Credentials}
    {t : List Exchange} {ended : Option (Stage × Failure)}
    (hc : Cluster.Chronicle may c (turns.map (·.encounter)) c')
    (hkey : submitted.key = creation.key) (hname : submitted.metadata.name ≠ none)
    (ht : Turn.exchangesOf i turns = ⟨.create submitted, creation.deadline, .ok route⟩ :: t)
    (h : Taken config.shared.ignoreConflicts creation.deadline
      (steps config creation.request.useBasicAuth route credentials) t ended) :
    ∃ owner, Underway config creation i turns route owner credentials t ended := by
  obtain ⟨earlier, x, rest, rfl, hentered, _⟩ := exists_entered hc ht
  obtain ⟨owner, howner⟩ := hentered.exists_ownerReference? hname
  have hstores := hentered.stores
  rw [hkey] at hstores
  exact ⟨owner, hentered.route_key.trans hkey, howner,
    ⟨x, List.mem_append_right _ List.mem_cons_self, hstores⟩, ⟨submitted, ht⟩, h⟩

/-- Creations that are in order follow the saga from the submission of a route to its end. -/
theorem saga_of_done (h : Ready config creations s w) {i : ι} {value : Except Failure Created}
    (hdone : ((concert config creations w).after s schedule).rest i = .done value) :
    ∃ submitted : IngressRoute, submitted.key = (creations i).key ∧
      submitted.metadata.name ≠ none ∧
      Saga config (creations i).request.useBasicAuth submitted (creations i).deadline
        (Turn.exchangesOf i ((concert config creations w).turns s schedule)) value := by
  have hplays : ((creations i).program config).Plays (fun domain => ∃ d, domain = .ok d)
      (Turn.exchangesOf i ((concert config creations w).turns s schedule) ++ []) value := by
    refine Joint.plays_turns (j := concert config creations w) (h.domain i) ?_
    rw [hdone]
    exact ⟨rfl, rfl⟩
  rw [List.append_nil] at hplays
  have hrefusal : refusal? config (creations i).request (creations i).service = none :=
    (refusal?_eq_none_iff (h.valid i)).2 (h.eligible i)
  rcases plays_create hplays with ⟨failure, _, _, hr | ⟨_, d, hd⟩⟩ | ⟨domain, ids, _, _, hsaga⟩
  · rw [hrefusal] at hr
    cases hr
  · cases hd
  · exact ⟨_, rfl, Option.some_ne_none _, hsaga⟩

theorem ended_of_done (h : Ready config creations s w) {i : ι} {value : Except Failure Created}
    (hdone : ((concert config creations w).after s schedule).rest i = .done value) :
    Ended config (creations i) i ((concert config creations w).turns s schedule) value := by
  obtain ⟨submitted, hkey, hname, hsaga⟩ := saga_of_done h hdone
  generalize ht : Turn.exchangesOf i ((concert config creations w).turns s schedule) = t at hsaga
  cases hsaga with
  | refused failure =>
    obtain ⟨earlier, x, rest, hsplit, rfl, hx, _⟩ := Turn.split_of_exchangesOf (t := []) ht
    have hplace : OwnPlace (creations x.party).key .ingressRoute submitted.key := by
      rw [hkey]
      exact .route
    obtain ⟨_, hok⟩ := ok_of_creates h hsplit hx hplace
    cases hok
  | completed route credentials htaken =>
    obtain ⟨owner, hunderway⟩ :=
      underway_of_exchanges (chronicle_concert h) hkey hname ht htaken
    exact .completed hunderway
  | takenBack route credentials htaken now deleted =>
    obtain ⟨before, x, after, hsplit, _, hx, hbefore, hafter⟩ := Turn.split_of_exchangesOf ht
    obtain ⟨hc, _, _⟩ := Turn.split_chronicle (chronicle_concert h) hsplit
    obtain ⟨owner, hunderway⟩ := underway_of_exchanges hc hkey hname hbefore htaken
    have hown : (⟨route.metadata.namespaceOrEmpty, route.displayName⟩ : Key) =
        (creations i).key := hunderway.key
    obtain ⟨hns, hname⟩ := Key.mk.inj hown
    rw [hns, hname] at hx
    exact .takenBack hunderway ⟨hsplit, ⟨_, hx⟩, hafter⟩

variable {turns after : List (Turn ι)} {c : Cluster} {i : ι} {route : IngressRoute}
  {owner : OwnerReference} {credentials : Credentials} {t : List Exchange}
  {ended : Option (Stage × Failure)}

namespace Underway

theorem verb_ne_delete
    (hu : Underway config (creations i) i turns route owner credentials t ended) :
    ∀ x ∈ turns, x.party = i → x.encounter.exchange.call.verb ≠ .delete := by
  intro x hx hparty
  obtain ⟨submitted, hall⟩ := hu.exchanges
  have hmem := Turn.mem_exchangesOf.2 ⟨x, hx, hparty, rfl⟩
  rw [hall, List.mem_cons] at hmem
  rcases hmem with he | hmem
  · rw [he]
    nofun
  · exact hu.taken.verb_ne_delete _ hmem

theorem find?_route (hu : Underway config (creations i) i turns route owner credentials t ended)
    (ho : Opening config creations s schedule w turns c) :
    c.find? .ingressRoute (creations i).key = some route := by
  obtain ⟨x, hx, hs⟩ := hu.stores
  exact ho.find?_of_stores hu.verb_ne_delete hx hs .route

theorem exists_turn (hu : Underway config (creations i) i turns route owner credentials t ended)
    {e : Exchange} (he : e ∈ t) : ∃ x ∈ turns, x.party = i ∧ x.encounter.exchange = e := by
  obtain ⟨submitted, hall⟩ := hu.exchanges
  apply Turn.mem_exchangesOf.1
  rw [hall]
  exact List.mem_cons_of_mem _ he

theorem made_of_turn (hu : Underway config (creations i) i turns route owner credentials t ended)
    {x : Turn ι} (hx : x ∈ turns) (hparty : x.party = i) {m m' : Middleware} {deadline : Instant}
    (he : x.encounter.exchange = ⟨.create m, deadline, .ok m'⟩) :
    ⟨m⟩ ∈ t.filterMap Exchange.made? := by
  obtain ⟨submitted, hall⟩ := hu.exchanges
  have hmem := Turn.mem_exchangesOf.2 ⟨x, hx, hparty, he⟩
  rw [hall, List.mem_cons] at hmem
  rcases hmem with hfirst | hmem
  · cases hfirst
  · exact List.mem_filterMap.2 ⟨_, hmem, rfl⟩

/-- What is found in the place of a child is a child of the route: the creation has stored only
one route, and the child after that. -/
theorem childOf (hu : Underway config (creations i) i turns route owner credentials t ended)
    (ho : Opening config creations s schedule w turns c) {k : Kind} (hk : k ≠ .ingressRoute)
    {place : Key} (hplace : OwnPlace (creations i).key k place) {r : Resource k}
    (hr : c.find? k place = some r) : ChildOf route r := by
  obtain ⟨x, hx, rfl, hs⟩ := ho.stored hplace hr
  obtain ⟨us, vs, hx⟩ := List.append_of_mem hx
  obtain ⟨rest, hrest⟩ := ho.begins
  have hsplit : (concert config creations w).turns s schedule = us ++ x :: (vs ++ rest) := by
    simp [← hrest, hx]
  obtain ⟨y, hy, route', _, hs', hchild⟩ := childOf_of_stores ho.ready hsplit hs hk hplace
  have hy' : y ∈ turns := by
    rw [hx]
    exact List.mem_append_left _ hy
  have hfound := ho.find?_of_stores hu.verb_ne_delete hy' hs' .route
  cases hfound.symm.trans (hu.find?_route ho)
  exact hchild

end Underway

/-- The endpoint is there that a creation has given. -/
structure Provided (c : Cluster) (creation : Creation) (created : Created) : Prop where
  route : c.find? .ingressRoute creation.key = some created.route
  whole : ∃ owner credentials,
    Whole c created.route creation.request.useBasicAuth owner credentials ∧
      created.credentials = if creation.request.useBasicAuth then some credentials else none

section Completed
variable {k : Kind}

theorem Underway.find?_child
    (hu : Underway config (creations i) i turns route owner credentials t none)
    (ho : Opening config creations s schedule w turns c) {r : Resource k}
    (hr : ⟨r⟩ ∈ children (creations i).request.useBasicAuth route owner credentials) :
    ∃ uid, c.find? k r.key = some (r.stored.withUid uid) := by
  have hmade := hu.taken.submissions_sublist
  rw [submissions_steps hu.ownerReference] at hmade
  obtain ⟨e, he, hmade⟩ := List.mem_filterMap.1 (hmade.subset hr)
  obtain ⟨deadline, r', rfl⟩ := Exchange.eq_of_made? hmade
  obtain ⟨x, hx, _, hxe⟩ := hu.exists_turn he
  obtain ⟨_, _, _, _, hserved⟩ := exists_opening ho.ready (ho.mem hx)
  obtain ⟨hs, rfl⟩ := hserved.stores hxe
  have hplace := (childOf_of_mem_children hu.ownerReference hr).ownPlace
  rw [hu.key] at hplace
  exact ⟨_, ho.find?_of_stores hu.verb_ne_delete hx hs hplace⟩

/-- Where there may be a child, there is nothing but a child that the route needs. -/
theorem Underway.mem_children
    (hu : Underway config (creations i) i turns route owner credentials t ended)
    (ho : Opening config creations s schedule w turns c) (hk : k ≠ .ingressRoute) {place : Key}
    (hplace : OwnPlace (creations i).key k place) {r : Resource k} (hr : c.find? k place = some r) :
    ∃ submitted : Resource k, submitted.key = place ∧
      ⟨submitted⟩ ∈ children (creations i).request.useBasicAuth route owner credentials := by
  obtain ⟨x, hx, hparty, hs⟩ := ho.stored hplace hr
  obtain ⟨_, _, _, _, hserved⟩ := exists_opening ho.ready (ho.mem hx)
  obtain ⟨submitted, deadline, rfl, hxe, _⟩ := hs.exchange hserved.change
  obtain ⟨first, hall⟩ := hu.exchanges
  have hmem := Turn.mem_exchangesOf.2 ⟨x, hx, hparty, hxe⟩
  rw [hall, List.mem_cons] at hmem
  rcases hmem with he | hmem
  · cases he
    exact absurd rfl hk
  have hwanted := hu.taken.wanted_sublist.subset (List.mem_filterMap.2 ⟨_, hmem, rfl⟩)
  rw [resources_steps hu.ownerReference] at hwanted
  rcases List.mem_append.1 hwanted with hchild | hshared
  · exact ⟨submitted, rfl, hchild⟩
  · obtain ⟨m, hm, he⟩ := List.mem_map.1 hshared
    cases he
    exact absurd hplace (not_ownPlace_shared hm)

theorem Underway.provided
    (hu : Underway config (creations i) i turns route owner credentials t none)
    (ho : Opening config creations s schedule w turns c) :
    Provided c (creations i)
      ⟨route, if (creations i).request.useBasicAuth then some credentials else none⟩ := by
  refine ⟨hu.find?_route ho, owner, credentials,
    ⟨hu.ownerReference, hu.find?_child ho, fun {k derive} hd hfound => ?_⟩, rfl⟩
  obtain ⟨r, hr⟩ := Option.ne_none_iff_exists'.1 hfound
  rw [hu.key] at hr ⊢
  have hk : k ≠ .ingressRoute := by
    rintro rfl
    cases hd
  obtain ⟨submitted, hkey, hchild⟩ := hu.mem_children ho hk (.child hd) hr
  exact ⟨submitted, hchild, hkey⟩

end Completed

section TakenBack
variable {x : Turn ι} {deleted : Except Failure Unit}

/-- The route that is to be taken back is still there, and goes with all that hangs on it. -/
theorem Underway.without
    (hu : Underway config (creations i) i turns route owner credentials t ended)
    (h : Ready config creations s w)
    (hw : Withdrawal (creations i).key i ((concert config creations w).turns s schedule) turns x
      after deleted) :
    deleted = .ok () ∧
      x.encounter.after.cluster = x.encounter.state.cluster.without (creations i).key route := by
  obtain ⟨_, hserved, _⟩ := Turn.split_chronicle (chronicle_concert h) hw.split
  have hroute : x.encounter.state.cluster.find? .ingressRoute
      ⟨(creations i).key.ns, (creations i).key.name⟩ = some route :=
    hu.find?_route ((opening_all h).split hw.split)
  obtain ⟨deadline, hx⟩ := hw.exchange
  have hmeets := hserved.meets
  rw [hx] at hmeets
  rcases Cluster.meets_delete_route hmeets with ⟨_, _, _, hmay | hnone⟩ | ⟨route', hr, hok, hc⟩
  · exact hmay.elim
  · rw [hnone.1] at hroute
    cases hroute
  · cases hr.symm.trans hroute
    exact ⟨hok, hc⟩

theorem Underway.find?_after
    (hu : Underway config (creations i) i turns route owner credentials t ended)
    (h : Ready config creations s w)
    (hw : Withdrawal (creations i).key i ((concert config creations w).turns s schedule) turns x
      after deleted) {k : Kind} {place : Key}
    (hplace : OwnPlace (creations i).key k place) :
    x.encounter.after.cluster.find? k place = none := by
  obtain ⟨_, hc⟩ := hu.without h hw
  rw [hc]
  cases hplace with
  | route => rw [Cluster.find?_route_without, if_pos rfl]
  | @child k derive hd =>
    have hk : k ≠ .ingressRoute := by
      rintro rfl
      cases hd
    have hk' : k ≠ .service := by
      rintro rfl
      cases hd
    rw [Cluster.find?_without _ _ _ hk hk', Option.filter_eq_none_iff]
    intro r hr
    have hchild := hu.childOf ((opening_all h).split hw.split) hk (.child hd) hr
    simp [hchild.hangsOn_iff]

/-- Nothing is left in the places of an endpoint that has been taken back. -/
theorem Underway.find?_eq_none
    (hu : Underway config (creations i) i turns route owner credentials t ended)
    (h : Ready config creations s w)
    (hw : Withdrawal (creations i).key i ((concert config creations w).turns s schedule) turns x
      after deleted) {k : Kind} {place : Key}
    (hplace : OwnPlace (creations i).key k place) :
    ((concert config creations w).after s schedule).world.cluster.find? k place = none := by
  cases hfound : ((concert config creations w).after s schedule).world.cluster.find? k place with
  | none => rfl
  | some r =>
    obtain ⟨_, _, hrest⟩ := Turn.split_chronicle (chronicle_concert h) hw.split
    rcases Turn.origin hrest hfound with hold | ⟨y, hy, hs⟩
    · rw [hu.find?_after h hw hplace] at hold
      cases hold
    · have hmem : y ∈ (concert config creations w).turns s schedule := by
        rw [hw.split]
        exact List.mem_append_right _ (List.mem_cons_of_mem _ hy)
      have hparty := party_of_stores h hmem hs hplace
      have hnone := Turn.mem_exchangesOf.2 ⟨y, hy, hparty, rfl⟩
      rw [hw.last] at hnone
      cases hnone

end TakenBack

end Ended

end TenantEndpoints.Endpoint
