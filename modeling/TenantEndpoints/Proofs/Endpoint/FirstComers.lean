import Mathlib.Data.Fintype.EquivFin
import TenantEndpoints.Proofs.Endpoint.Endings
import TenantEndpoints.Proofs.Specimen

/-!
# First comers

Creations in concert only meet at the shared middlewares, which the first that find
one missing try to create at the same time. All but one of them are in conflict and
take their endpoints back, unless conflicts are ignored. But not all can fail: who
fails at the one has been beaten to it by another, and of those who create the
middlewares the one that creates the last has nothing left to fail at.
-/
namespace TenantEndpoints.Endpoint

section FirstComers
variable {ι : Type} [DecidableEq ι] {config : Config} {creations : ι → Creation}
  {s : ι → Surroundings} {schedule : List ι} {w : World} {turns after : List (Turn ι)}
  {c : Cluster} {i : ι} {route : IngressRoute} {owner : OwnerReference}
  {credentials : Credentials} {t : List Exchange} {ended : Option (Stage × Failure)}

section Shared
variable {x : Turn ι} {m : Middleware}

theorem key_of_shared {shared : SharedMiddlewares} {m : Middleware} (hm : m ∈ shared.both) :
    m.key.ns = shared.ns ∧
      m.key.name ∈ [SharedMiddlewares.activityName, SharedMiddlewares.cacheName] := by
  simp only [SharedMiddlewares.both, List.mem_cons, List.not_mem_nil, or_false] at hm
  rcases hm with rfl | rfl
  · exact ⟨rfl, List.mem_cons_self⟩
  · exact ⟨rfl, List.mem_cons_of_mem _ List.mem_cons_self⟩

/-- What is stored for a shared middleware is that middleware. -/
theorem created_of_stores (h : Ready config creations s w)
    (hx : x ∈ (concert config creations w).turns s schedule) (hm : m ∈ config.shared.both)
    {r : Middleware} (hs : x.encounter.Stores m.key r) :
    ∃ deadline, x.encounter.exchange = ⟨.create m, deadline, .ok r⟩ ∧
      r = x.encounter.state.cluster.made m := by
  obtain ⟨submitted, deadline, hkey, he, hmade, hown | hshared⟩ := submitted_of_stores h hx hs
  · exact absurd hown (not_ownPlace_shared hm)
  · obtain ⟨m', hm', heq⟩ := List.mem_map.1 hshared
    cases heq
    cases eq_of_shared_key hm' hm hkey
    exact ⟨deadline, he, hmade⟩

/-- A shared middleware that a creation has stored hangs on no route. -/
theorem ownerless_of_stores (h : Ready config creations s w)
    (hx : x ∈ (concert config creations w).turns s schedule) (hm : m ∈ config.shared.both)
    {r : Middleware} (hs : x.encounter.Stores m.key r) : r.metadata.ownerReferences = none := by
  obtain ⟨_, _, rfl⟩ := created_of_stores h hx hm hs
  exact (kind_of_mem_shared (List.mem_map_of_mem hm)).2

/-- A shared middleware only goes with a route on which it hangs, and then it has been there
from the beginning. -/
theorem route_of_removes_shared (h : Ready config creations s w)
    (hx : x ∈ (concert config creations w).turns s schedule) (hm : m ∈ config.shared.both)
    {r : Middleware} (hr : x.encounter.Removes m.key r) :
    x.encounter.exchange.call.verb = .delete ∧ w.cluster.find? .middleware m.key = some r ∧
      ∃ y ∈ (concert config creations w).turns s schedule, y.party = x.party ∧
        ∃ route, y.encounter.Stores (creations x.party).key route ∧
          Cluster.hangsOn r route = true := by
  obtain ⟨hverb, route, hroute, ⟨hk, _⟩ | ⟨_, hhangs⟩⟩ := deletes_of_removes h hx hr
  · cases hk
  obtain ⟨_, _, _, ho, _⟩ := exists_opening h hx
  obtain ⟨y, hy, hparty, hs⟩ := ho.stored .route hroute
  refine ⟨hverb, ?_, y, ho.mem hy, hparty, route, hs, hhangs⟩
  rcases Turn.origin ho.chronicle hr.1 with hold | ⟨z, hz, hstores⟩
  · exact hold
  · have howners := ownerless_of_stores h (ho.mem hz) hm hstores
    rw [Cluster.hangsOn_of_ownerless (by rw [howners]; rfl)] at hhangs
    cases hhangs

/-- A middleware without an owner remains. -/
theorem ownerless_remains (h : Ready config creations s w) {c' : Cluster}
    (hturns : ∀ x ∈ turns, x ∈ (concert config creations w).turns s schedule)
    (hc : Cluster.Chronicle .none c (turns.map (·.encounter)) c') {key : Key} {r : Middleware}
    (hr : c.find? .middleware key = some r) (howners : r.metadata.ownerReferences = none) :
    c'.find? .middleware key = some r := by
  rcases Turn.fate hc hr with hkept | ⟨x, hx, hremoves⟩
  · exact hkept
  · obtain ⟨_, _, _, ⟨hk, _⟩ | ⟨_, hhangs⟩⟩ := deletes_of_removes h (hturns x hx) hremoves
    · cases hk
    · rw [Cluster.hangsOn_of_ownerless (by rw [howners]; rfl)] at hhangs
      cases hhangs

theorem not_stores_again (h : Ready config creations s w) (hm : m ∈ config.shared.both)
    {before : List (Turn ι)}
    (hsplit : (concert config creations w).turns s schedule = before ++ x :: after)
    {r r' : Middleware} (hx : x.encounter.Stores m.key r) {y : Turn ι} (hy : y ∈ after) :
    ¬ y.encounter.Stores m.key r' := by
  intro hs
  obtain ⟨_, _, hrest⟩ := Turn.split_chronicle (chronicle_concert h) hsplit
  obtain ⟨us, vs, rfl⟩ := List.append_of_mem hy
  obtain ⟨hbetween, _, _⟩ := Turn.split_chronicle hrest rfl
  have hmem : x ∈ (concert config creations w).turns s schedule := by
    rw [hsplit]
    exact List.mem_append_right _ List.mem_cons_self
  have hturns : ∀ z ∈ us, z ∈ (concert config creations w).turns s schedule := by
    intro z hz
    rw [hsplit]
    exact List.mem_append_right _ (List.mem_cons_of_mem _ (List.mem_append_left _ hz))
  have hfound := ownerless_remains h hturns hbetween hx.2 (ownerless_of_stores h hmem hm hx)
  rw [hs.1] at hfound
  cases hfound

/-- A turn has removed the middleware under a key. -/
def Removed (turns : List (Turn ι)) (key : Key) : Prop :=
  ∃ x ∈ turns, ∃ r : Middleware, x.encounter.Removes key r

/-- What a turn leaves under a key is there in the end, or has been removed. -/
theorem there_or_removed (h : Ready config creations s w)
    (hx : x ∈ (concert config creations w).turns s schedule) {key : Key} {r : Middleware}
    (hr : x.encounter.after.cluster.find? .middleware key = some r) :
    ((concert config creations w).after s schedule).world.cluster.find? .middleware key ≠ none ∨
      Removed ((concert config creations w).turns s schedule) key := by
  obtain ⟨before, after, hsplit⟩ := List.append_of_mem hx
  obtain ⟨_, _, hrest⟩ := Turn.split_chronicle (chronicle_concert h) hsplit
  rcases Turn.fate hrest hr with hkept | ⟨y, hy, hremoves⟩
  · exact .inl (by simp [hkept])
  · refine .inr ⟨y, ?_, r, hremoves⟩
    rw [hsplit]
    exact List.mem_append_right _ (List.mem_cons_of_mem _ hy)

/-- Who passes the step for a shared middleware has found or left it there. -/
theorem there_or_removed_of_passed (h : Ready config creations s w)
    {ignoreConflicts : Bool} {deadline : Instant}
    (hplays : (Step.ensure m).Plays ignoreConflicts deadline t none)
    (ht : ∀ e ∈ t, ∃ x ∈ (concert config creations w).turns s schedule,
      x.encounter.exchange = e) :
    ((concert config creations w).after s schedule).world.cluster.find? .middleware m.key ≠ none ∨
      Removed ((concert config creations w).turns s schedule) m.key := by
  cases hplays with
  | found m m' =>
    obtain ⟨x, hx, he⟩ := ht _ List.mem_cons_self
    obtain ⟨_, _, _, _, hserved⟩ := exists_opening h hx
    obtain ⟨hr, hc⟩ := hserved.found he
    rw [← hc] at hr
    exact there_or_removed h hx hr
  | made m m' failure _ =>
    obtain ⟨x, hx, he⟩ := ht _ (List.mem_cons_of_mem _ List.mem_cons_self)
    obtain ⟨_, _, _, _, hserved⟩ := exists_opening h hx
    exact there_or_removed h hx (hserved.stores he).1.2
  | ignored m failure conflict _ _ _ =>
    obtain ⟨x, hx, he⟩ := ht _ (List.mem_cons_of_mem _ List.mem_cons_self)
    obtain ⟨_, _, _, _, hserved⟩ := exists_opening h hx
    have hmeets := hserved.meets
    rw [he] at hmeets
    rcases Cluster.meets_create hmeets with ⟨_, _, hc, hmay | ⟨hfound, _⟩⟩ | ⟨_, hne, _⟩
    · exact hmay.elim
    · obtain ⟨r, hr⟩ := Option.ne_none_iff_exists'.1 hfound
      rw [← hc] at hr
      exact there_or_removed h hx hr
    · cases hne

/-- What is missing after some turns was missing at the beginning or has been removed. -/
theorem missing_or_removed (ho : Opening config creations s schedule w turns c) {key : Key}
    (hnone : c.find? .middleware key = none) :
    w.cluster.find? .middleware key = none ∨ Removed turns key := by
  cases hr : w.cluster.find? .middleware key with
  | none => exact .inl rfl
  | some r =>
    rcases Turn.fate ho.chronicle hr with hkept | ⟨x, hx, hremoves⟩
    · rw [hnone] at hkept
      cases hkept
    · exact .inr ⟨x, hx, r, hremoves⟩

/-- Who looks for a shared middleware in vain is told that it is not there, and it is not. -/
theorem missing_of_get (h : Ready config creations s w)
    (hx : x ∈ (concert config creations w).turns s schedule) {deadline : Instant}
    {failure : Failure} (he : x.encounter.exchange =
      ⟨.get .middleware m.key.ns m.key.name, deadline, .error failure⟩) :
    failure.isNotFound = true ∧ x.encounter.state.cluster.find? .middleware m.key = none ∧
      x.encounter.after.cluster = x.encounter.state.cluster := by
  obtain ⟨_, _, _, _, hserved⟩ := exists_opening h hx
  have hmeets := hserved.meets
  rw [he] at hmeets
  obtain ⟨hc, ⟨r, hne, _⟩ | ⟨_, hf, hmay | ⟨hnone, rfl⟩⟩⟩ := Cluster.meets_get hmeets
  · cases hne
  · exact hmay.elim
  · cases hf
    exact ⟨rfl, hnone, hc⟩

end Shared

theorem both_eq_of_sublist (ho : ownerReference? route = some owner) {useBasicAuth : Bool}
    {rs : List AnyResource} {m m' : Middleware} (hm : m ∈ config.shared.both) (hrs : ⟨m⟩ ∈ rs)
    (h : (rs ++ ([⟨m'⟩] : List AnyResource)).Sublist
      (children useBasicAuth route owner credentials ++ config.shared.resources)) :
    config.shared.both = [m, m'] := by
  have hpair : ([⟨m⟩, ⟨m'⟩] : List AnyResource).Sublist
      (children useBasicAuth route owner credentials ++ config.shared.resources) :=
    ((List.singleton_sublist.2 hrs).append (List.Sublist.refl _)).trans h
  obtain ⟨l₁, l₂, he, h₁, h₂⟩ := List.sublist_append_iff.1 hpair
  cases l₁ with
  | nil =>
    obtain rfl : l₂ = [⟨m⟩, ⟨m'⟩] := he.symm
    have heq := h₂.eq_of_length rfl
    cases heq
    rfl
  | cons r l₁ =>
    obtain ⟨rfl, _⟩ := List.cons.inj he
    have hchild := childOf_of_mem_children ho (h₁.subset List.mem_cons_self)
    exact absurd hchild.ownPlace (not_ownPlace_shared hm)

/-- A creation has failed at a shared middleware that was stored after it had missed it in a
turn of its own, and has itself stored at most the one that comes before that. -/
structure Beaten (config : Config) (turns own : List (Turn ι)) (i : ι) (failure : Failure)
    (m : Middleware) : Prop where
  mem : m ∈ config.shared.both
  conflict : failure = .taken .middleware m.key.ns m.key.name
  heeded : config.shared.ignoreConflicts = false
  missed : ∃ before x after, own = before ++ x :: after ∧
    x.encounter.state.cluster.find? .middleware m.key = none
  stored : ∃ x ∈ turns, ∃ r : Middleware, x.encounter.Stores m.key r
  last : ∀ m' ∈ config.shared.both, ∀ x ∈ turns, x.party = i → ∀ r : Middleware,
    x.encounter.Stores m'.key r → config.shared.both = [m', m]

section TakenBack
variable {x : Turn ι} {deleted : Except Failure Unit}

/-- A shared middleware that a creation has stored it has made while it took its steps. -/
theorem Underway.made_of_stores
    (hu : Underway config (creations i) i turns route owner credentials t ended)
    (h : Ready config creations s w)
    (hw : Withdrawal (creations i).key i ((concert config creations w).turns s schedule) turns x
      after deleted) {m : Middleware} (hm : m ∈ config.shared.both)
    {y : Turn ι} (hy : y ∈ (concert config creations w).turns s schedule) (hparty : y.party = i)
    {r : Middleware} (hs : y.encounter.Stores m.key r) : ⟨m⟩ ∈ t.filterMap Exchange.made? := by
  obtain ⟨_, hye, _⟩ := created_of_stores h hy hm hs
  rw [hw.split, List.mem_append, List.mem_cons] at hy
  rcases hy with hy | rfl | hy
  · exact hu.made_of_turn hy hparty hye
  · obtain ⟨_, hx⟩ := hw.exchange
    cases hx.symm.trans hye
  · have hnone := Turn.mem_exchangesOf.2 ⟨y, hy, hparty, rfl⟩
    rw [hw.last] at hnone
    cases hnone

/-- Steps for a route only stop at a shared middleware that has just been created. -/
theorem Underway.beaten {stage : Stage} {failure : Failure}
    (hu : Underway config (creations i) i turns route owner credentials t (some (stage, failure)))
    (h : Ready config creations s w)
    (hw : Withdrawal (creations i).key i ((concert config creations w).turns s schedule) turns x
      after deleted) :
    ∃ m, Beaten config ((concert config creations w).turns s schedule) turns i failure m := by
  have ho := (opening_all h).split hw.split
  obtain ⟨submitted, hall⟩ := hu.exchanges
  obtain ⟨step, t₁, t', hstep, hplays, rfl, hmade⟩ := hu.taken.stops
  rw [resources_steps hu.ownerReference] at hmade
  rw [← List.cons_append] at hall
  rcases step_of_mem_steps hu.ownerReference hstep with ⟨k, r, rfl, hr⟩ | ⟨m, hm, rfl⟩
  · cases hplays with
    | refused r failure =>
      obtain ⟨y, hy, rfl, hye⟩ := hu.exists_turn (List.mem_append_right t₁ List.mem_cons_self)
      obtain ⟨us, vs, hy⟩ := List.append_of_mem (ho.mem hy)
      have hplace := (childOf_of_mem_children hu.ownerReference hr).ownPlace
      rw [hu.key] at hplace
      obtain ⟨_, hok⟩ := ok_of_creates h hy hye hplace
      cases hok
  · refine ⟨m, ?_⟩
    cases hplays with
    | unclear m failure hfound =>
      obtain ⟨y, hy, _, hye⟩ := hu.exists_turn (List.mem_append_right t₁ List.mem_cons_self)
      rw [(missing_of_get h (ho.mem hy) hye).1] at hfound
      cases hfound
    | failed m missed failure hmissed hheeded =>
      obtain ⟨us, y, between, z, vs, hsplit, hye, hze⟩ := Turn.split_pair_of_exchangesOf hall
      have hy : y ∈ turns := by
        rw [hsplit]
        exact List.mem_append_right _ List.mem_cons_self
      obtain ⟨_, hnone, hkept⟩ := missing_of_get h (ho.mem hy) hye
      obtain ⟨_, _, hrest⟩ := Turn.split_chronicle ho.chronicle hsplit
      obtain ⟨hbetween, hserved, _⟩ := Turn.split_chronicle hrest rfl
      obtain ⟨rfl, v, hv, r, hs⟩ := Turn.stored_of_create hbetween hserved (hkept ▸ hnone) hze
      have hheeded' : config.shared.ignoreConflicts = false :=
        Bool.eq_false_iff.2 fun hi => hheeded ⟨hi, rfl⟩
      have hv' : v ∈ turns := by
        rw [hsplit]
        exact List.mem_append_right _ (List.mem_cons_of_mem _ (List.mem_append_left _ hv))
      refine ⟨hm, rfl, hheeded', ⟨us, y, _, hsplit, hnone⟩, ⟨v, ho.mem hv', r, hs⟩,
        fun m' hm' v hv hparty r hs => ?_⟩
      have hmade' := hu.made_of_stores h hw hm' hv hparty hs
      exact both_eq_of_sublist hu.ownerReference hm' hmade' hmade

end TakenBack

/-- What has become of a creation on a cluster: its endpoint is there, or it was in
conflict about a shared middleware and nothing is left in its places. -/
inductive Settled (config : Config) (creation : Creation) (c : Cluster) :
    Except Failure Created → Prop
  | provided {created : Created} (h : Provided c creation created) : Settled _ _ _ (.ok created)
  | turnedAway {name : String}
      (hname : name ∈ [SharedMiddlewares.activityName, SharedMiddlewares.cacheName])
      (hgone : ∀ k place, OwnPlace creation.key k place → c.find? k place = none) :
    Settled _ _ _ (.error (.taken .middleware config.shared.ns name))

theorem settled_of_ended (h : Ready config creations s w) {v : Except Failure Created}
    (hend : Ended config (creations i) i ((concert config creations w).turns s schedule) v) :
    Settled config (creations i) ((concert config creations w).after s schedule).world.cluster
      v := by
  cases hend with
  | completed hu =>
    exact .provided (hu.provided (opening_all h))
  | takenBack hu hw =>
    obtain ⟨m, hbeaten⟩ := hu.beaten h hw
    obtain ⟨rfl, _⟩ := hu.without h hw
    obtain ⟨hns, hname⟩ := key_of_shared hbeaten.mem
    rw [reported, hbeaten.conflict, hns]
    exact .turnedAway hname fun k place hplace => hu.find?_eq_none h hw hplace

/-- After a creation has completed both shared middlewares are there, unless they have been
removed. -/
theorem there_or_removed_of_completed (h : Ready config creations s w)
    {m : Middleware} (hm : m ∈ config.shared.both) {created : Created}
    (hend : Ended config (creations i) i ((concert config creations w).turns s schedule)
      (.ok created)) :
    ((concert config creations w).after s schedule).world.cluster.find? .middleware m.key ≠ none ∨
      Removed ((concert config creations w).turns s schedule) m.key := by
  cases hend with
  | completed hu =>
    obtain ⟨stage, hstep⟩ := ensure_mem_steps hu.ownerReference hm
    obtain ⟨t', hplays, ht'⟩ := hu.taken.passes hstep
    refine there_or_removed_of_passed h hplays fun e he => ?_
    obtain ⟨x, hx, _, hxe⟩ := hu.exists_turn (ht' e he)
    exact ⟨x, hx, hxe⟩

/-- A shared middleware was there at the beginning, and refers to the uid that was then given
to the route of a creation that has failed. With that route it is collected. -/
def TakenAlong (creations : ι → Creation) (w : World) (turns : List (Turn ι))
    (value : ι → Except Failure Created) (m : Middleware) : Prop :=
  ∃ r, w.cluster.find? .middleware m.key = some r ∧
    ∃ x ∈ turns, ∃ route, x.encounter.Stores (creations x.party).key route ∧
      Cluster.hangsOn r route = true ∧ ∃ failure, value x.party = .error failure

section AllEnded
variable {value : ι → Except Failure Created} {x : Turn ι} {m : Middleware}
  (h : Ready config creations s w)
  (hended : ∀ i, Ended config (creations i) i ((concert config creations w).turns s schedule)
    (value i))
include h hended

/-- Who stores a shared middleware succeeds or is beaten to the other. -/
theorem ok_or_beaten (hm : m ∈ config.shared.both)
    (hx : x ∈ (concert config creations w).turns s schedule) {r : Middleware}
    (hs : x.encounter.Stores m.key r) :
    (∃ created, value x.party = .ok created) ∨ ∃ m', config.shared.both = [m, m'] ∧
      ∃ y ∈ (concert config creations w).turns s schedule, ∃ r' : Middleware,
        y.encounter.Stores m'.key r' := by
  have hend := hended x.party
  generalize value x.party = v at hend ⊢
  cases hend with
  | completed => exact .inl ⟨_, rfl⟩
  | takenBack hu hw =>
    obtain ⟨m', hbeaten⟩ := hu.beaten h hw
    exact .inr ⟨m', hbeaten.last m hm x hx rfl r hs, hbeaten.stored⟩

/-- Where a shared middleware has been stored, not all have failed: otherwise one of the two would
have to come both before and after the other. -/
theorem exists_ok_of_stored (hm : m ∈ config.shared.both)
    (hx : x ∈ (concert config creations w).turns s schedule) {r : Middleware}
    (hs : x.encounter.Stores m.key r) : ∃ i created, value i = .ok created := by
  rcases ok_or_beaten h hended hm hx hs with ⟨created, hok⟩ | ⟨m', hboth, y, hy, r', hs'⟩
  · exact ⟨x.party, created, hok⟩
  have hm' : m' ∈ config.shared.both := by
    rw [hboth]
    exact List.mem_cons_of_mem _ List.mem_cons_self
  rcases ok_or_beaten h hended hm' hy hs' with ⟨created, hok⟩ | ⟨m'', hboth', _⟩
  · exact ⟨y.party, created, hok⟩
  · have hnodup := nodup_keys_shared config.shared
    obtain ⟨rfl, _⟩ := List.cons.inj (hboth.symm.trans hboth')
    rw [hboth] at hnodup
    simp at hnodup

/-- Where both shared middlewares were there at the beginning, nothing is taken back: the first
creation to be taken back would have missed one of them, and none is removed before that. -/
theorem not_deletes_of_present
    (hpresent : ∀ m ∈ config.shared.both, w.cluster.find? .middleware m.key ≠ none)
    (hx : x ∈ (concert config creations w).turns s schedule) :
    x.encounter.exchange.call.verb ≠ .delete := by
  intro hverb
  have hsome : (((concert config creations w).turns s schedule).find? fun y =>
      y.encounter.exchange.call.verb = .delete).isSome = true :=
    List.find?_isSome.2 ⟨x, hx, decide_eq_true hverb⟩
  obtain ⟨first, hfound⟩ := Option.isSome_iff_exists.1 hsome
  obtain ⟨hfirst, earlier, later, hsplit, hearlier⟩ := List.find?_eq_some_iff_append.1 hfound
  have hmem : first ∈ (concert config creations w).turns s schedule := by
    rw [hsplit]
    exact List.mem_append_right _ List.mem_cons_self
  have hend := hended first.party
  generalize value first.party = v at hend
  cases hend with
  | completed hu => exact hu.verb_ne_delete first hmem rfl (of_decide_eq_true hfirst)
  | @takenBack _ _ _ _ _ _ own _ _ _ hu hw =>
    obtain ⟨m, hbeaten⟩ := hu.beaten h hw
    obtain ⟨before, y, after, rfl, hmissed⟩ := hbeaten.missed
    have ho := ((opening_all h).split hw.split).split rfl
    rcases missing_or_removed ho hmissed with hnone | ⟨z, hz, r, hremoves⟩
    · exact hpresent m hbeaten.mem hnone
    have hzverb := (deletes_of_removes h (ho.mem hz) hremoves).1
    rcases append_eq_append_cons (hw.split.symm.trans hsplit) with ⟨rest, hown⟩ | ⟨rest, he, _⟩
    · have hmem' : first ∈ before ++ y :: after := by
        rw [hown]
        exact List.mem_append_right _ List.mem_cons_self
      exact hu.verb_ne_delete first hmem' rfl (of_decide_eq_true hfirst)
    · have hz' : z ∈ earlier := by
        rw [he]
        exact List.mem_append_left _ (List.mem_append_left _ hz)
      have hnot := hearlier z hz'
      simp [hzverb] at hnot

theorem ok_of_unbeatable
    (hunbeatable : config.shared.ignoreConflicts = true ∨
      ∀ m ∈ config.shared.both, w.cluster.find? .middleware m.key ≠ none) (i : ι) :
    ∃ created, value i = .ok created := by
  have hend := hended i
  generalize value i = v at hend ⊢
  cases hend with
  | completed => exact ⟨_, rfl⟩
  | takenBack hu hw =>
    obtain ⟨m, hbeaten⟩ := hu.beaten h hw
    rcases hunbeatable with hi | hpresent
    · rw [hbeaten.heeded] at hi
      cases hi
    · obtain ⟨hx, hverb⟩ := hw.deletes
      exact absurd hverb (not_deletes_of_present h hended hpresent hx)

theorem exists_ok [Nonempty ι] : ∃ i created, value i = .ok created := by
  obtain ⟨i⟩ := ‹Nonempty ι›
  have hend := hended i
  generalize hv : value i = v at hend
  cases hend with
  | completed => exact ⟨i, _, hv⟩
  | takenBack hu hw =>
    obtain ⟨m, hbeaten⟩ := hu.beaten h hw
    obtain ⟨x, hx, r, hs⟩ := hbeaten.stored
    exact exists_ok_of_stored h hended hbeaten.mem hx hs

theorem takenAlong_of_removes (hm : m ∈ config.shared.both)
    (hx : x ∈ (concert config creations w).turns s schedule) {r : Middleware}
    (hr : x.encounter.Removes m.key r) :
    TakenAlong creations w ((concert config creations w).turns s schedule) value m := by
  obtain ⟨hverb, hold, y, hy, hparty, route, hs, hhangs⟩ := route_of_removes_shared h hx hm hr
  rw [← hparty] at hs
  refine ⟨r, hold, y, hy, route, hs, hhangs, ?_⟩
  rw [hparty]
  have hend := hended x.party
  generalize value x.party = v at hend ⊢
  cases hend with
  | completed hu => exact absurd hverb (hu.verb_ne_delete x hx rfl)
  | takenBack => exact ⟨_, rfl⟩

end AllEnded

end FirstComers

/-- However creations with different keys take turns, they can all come to their ends. Once all
have, some have succeeded, and all have unless they were beaten to a shared middleware. Of
those that succeeded the endpoints are there, and of those in conflict nothing is left. No
shared middleware has been created twice, and both are there, except that one that was there
at the beginning is taken along with the route of a creation that failed if it refers to the
uid that this route was given. -/
theorem first_comers {ι : Type} [DecidableEq ι] [Finite ι] [Nonempty ι] (config : Config)
    (creations : ι → Creation) (s : ι → Surroundings) (w : World)
    (h : Ready config creations s w) :
    (∀ schedule, ∃ schedule', ∀ i, ∃ v,
      ((concert config creations w).after s (schedule ++ schedule')).rest i = .done v) ∧
    ∀ schedule (value : ι → Except Failure Created),
      (∀ i, ((concert config creations w).after s schedule).rest i = .done (value i)) →
      let turns := (concert config creations w).turns s schedule
      let c := ((concert config creations w).after s schedule).world.cluster
      (∀ i, Settled config (creations i) c (value i)) ∧
        (∃ i created, value i = .ok created) ∧
        (config.shared.ignoreConflicts = true ∨
            (∀ m ∈ config.shared.both, w.cluster.find? .middleware m.key ≠ none) →
          ∀ i, ∃ created, value i = .ok created) ∧
        ∀ m ∈ config.shared.both,
          (c.find? .middleware m.key ≠ none ∨ TakenAlong creations w turns value m) ∧
          ∀ before x after, turns = before ++ x :: after →
            ∀ r : Middleware, x.encounter.Stores m.key r →
              (w.cluster.find? .middleware m.key = none ∨
                TakenAlong creations w turns value m) ∧
              ∀ y ∈ after, ∀ r' : Middleware, ¬ y.encounter.Stores m.key r' := by
  refine ⟨fun schedule => ?_, fun schedule value hdone => ?_⟩
  · obtain ⟨is, hall⟩ := Finite.exists_univ_list ι
    obtain ⟨schedule', hends⟩ := Joint.exists_all_done (s := s) is
      ((concert config creations w).after s schedule)
    refine ⟨schedule', fun i => ?_⟩
    rw [Joint.after_append]
    exact hends i (hall.2 i)
  have hended (i : ι) := ended_of_done h (hdone i)
  have hunless {m : Middleware} (hm : m ∈ config.shared.both) {P : Prop}
      (hp : P ∨ Removed ((concert config creations w).turns s schedule) m.key) :
      P ∨ TakenAlong creations w ((concert config creations w).turns s schedule) value m :=
    hp.imp_right fun ⟨_, hy, _, hremoves⟩ => takenAlong_of_removes h hended hm hy hremoves
  obtain ⟨i, created, hok⟩ := exists_ok h hended
  refine ⟨fun i => settled_of_ended h (hended i), ⟨i, created, hok⟩,
    ok_of_unbeatable h hended, fun m hm => ⟨?_, ?_⟩⟩
  · have hend := hended i
    rw [hok] at hend
    exact hunless hm (there_or_removed_of_completed h hm hend)
  · intro before x after hsplit r hs
    have ho := (opening_all h).split hsplit
    refine ⟨hunless hm ?_, fun y hy r' => not_stores_again h hm hsplit hs hy⟩
    exact (missing_or_removed ho hs.1).imp_right fun ⟨y, hy, r, hremoves⟩ =>
      ⟨y, ho.mem hy, r, hremoves⟩

/-- Two creations of different tenants. -/
def racers : Fin 2 → Creation
  | 0 => ⟨Specimen.endpoint "one" "alice" true, Specimen.node, 1000⟩
  | 1 => ⟨Specimen.endpoint "two" "bob" false, Specimen.node, 1000⟩

/-- The second goes ahead and finds the cache missing. Then the first comes to its end and has
created it, and so the second fails. -/
def race (ahead : Nat) : List (Fin 2) :=
  List.replicate ahead 1 ++ List.replicate 13 0 ++ List.replicate 4 1

/-- The racers after a race on a cluster. -/
def raced (ahead : Nat) (c : Cluster) : Joint (Fin 2) (Except Failure Created) :=
  (concert Specimen.config racers { cluster := c }).after (fun _ => Specimen.plain) (race ahead)

theorem ready_to_race {c : Cluster} (hfree : ∀ i, Vacant c (racers i).key) :
    Ready Specimen.config racers (fun _ => Specimen.plain) { cluster := c } where
  valid
    | 0 => rfl
    | 1 => rfl
  eligible := by decide +kernel
  domain _ := ⟨_, rfl⟩
  distinct := by decide +kernel
  calm := rfl
  free := hfree

/-- Who has been beaten to the cache. -/
def beatenToCache : Except Failure Created → Bool
  | .ok _ => false
  | .error failure => failure = .taken .middleware "kotal" SharedMiddlewares.cacheName

theorem eq_of_beatenToCache {v : Except Failure Created} (h : beatenToCache v = true) :
    v = .error (.taken .middleware "kotal" SharedMiddlewares.cacheName) := by
  cases v with
  | ok created => cases h
  | error failure => rw [of_decide_eq_true h]

theorem race_ends (ahead : Nat) (c : Cluster)
    (hall : ∀ i, ((raced ahead c).rest i).value?.isSome = true)
    (hsecond : ((raced ahead c).rest 1).value?.any beatenToCache = true) :
    ∃ value : Fin 2 → Except Failure Created, (∀ i, (raced ahead c).rest i = .done (value i)) ∧
      value 1 = .error (.taken .middleware "kotal" SharedMiddlewares.cacheName) := by
  have hdone (i : Fin 2) :
      (raced ahead c).rest i = .done (((raced ahead c).rest i).value?.get (hall i)) :=
    Program.value?_eq_some.1 (Option.some_get (hall i)).symm
  refine ⟨_, hdone, eq_of_beatenToCache ?_⟩
  rw [Program.value?_eq_some.2 (hdone 1)] at hsecond
  exact hsecond

/-- In the race the one is beaten that had come first before. -/
theorem first_comers_in_race :
    Ready Specimen.config racers (fun _ => Specimen.plain) {} ∧
      ∃ value : Fin 2 → Except Failure Created,
        (∀ i, (raced 9 {}).rest i = .done (value i)) ∧
        (∃ created, value 0 = .ok created ∧
          Provided (raced 9 {}).world.cluster (racers 0) created) ∧
        value 1 = .error (.taken .middleware "kotal" SharedMiddlewares.cacheName) ∧
        (∀ k place, OwnPlace (racers 1).key k place →
          (raced 9 {}).world.cluster.find? k place = none) ∧
        ∀ m ∈ Specimen.config.shared.both,
          (raced 9 {}).world.cluster.find? .middleware m.key ≠ none := by
  have hready := ready_to_race fun i => vacant_empty (racers i).key
  obtain ⟨value, hdone, hbeaten⟩ := race_ends 9 {} (by decide +kernel) (by decide +kernel)
  obtain ⟨hsettled, ⟨i, created, hok⟩, _, hshared⟩ :=
    (first_comers Specimen.config racers (fun _ => Specimen.plain) {} hready).2 (race 9) value hdone
  have hfirst : i = 0 := by
    match i with
    | 0 => rfl
    | 1 =>
      rw [hbeaten] at hok
      cases hok
  subst hfirst
  have hprovided := hsettled 0
  rw [hok] at hprovided
  have hgone := hsettled 1
  rw [hbeaten] at hgone
  refine ⟨hready, value, hdone, ⟨created, hok, ?_⟩, hbeaten, ?_, fun m hm => ?_⟩
  · cases hprovided with
    | provided h => exact h
  · generalize hv : (Except.error _ : Except Failure Created) = v at hgone
    cases hgone with
    | provided => cases hv
    | turnedAway _ hgone => exact hgone
  · rcases (hshared m hm).1 with hthere | ⟨r, hr, _⟩
    · exact hthere
    · cases hr

/-- The shared activity middleware is there, and refers to the uid that is given next. -/
def promised : Cluster :=
  ({} : Cluster).put
    { Specimen.config.shared.activityMiddleware with
      metadata.ownerReferences := some
        [⟨Kind.ingressRoute.apiVersion, Kind.ingressRoute.name, "two", "uid-1", none, none⟩] }

/-- With the route of the creation that is beaten a shared middleware goes that was there at the
beginning. -/
theorem activity_taken_along :
    Ready Specimen.config racers (fun _ => Specimen.plain) { cluster := promised } ∧
      ∃ value : Fin 2 → Except Failure Created,
        (∀ i, (raced 7 promised).rest i = .done (value i)) ∧
        value 1 = .error (.taken .middleware "kotal" SharedMiddlewares.cacheName) ∧
        ¬ ∀ m ∈ Specimen.config.shared.both,
          (raced 7 promised).world.cluster.find? .middleware m.key ≠ none := by
  have hshared : Specimen.config.shared.activityMiddleware ∈ Specimen.config.shared.both :=
    List.mem_cons_self
  have hplace (i : Fin 2) : ¬ OwnPlace (racers i).key .middleware
      Specimen.config.shared.activityMiddleware.key := not_ownPlace_shared hshared
  have hvacant (i : Fin 2) : Vacant promised (racers i).key :=
    (vacant_empty (racers i).key).put (hplace i)
  have hgone : ((raced 7 promised).world.cluster.find? .middleware
      Specimen.config.shared.activityMiddleware.key).isNone = true := by decide +kernel
  obtain ⟨value, hdone, hbeaten⟩ := race_ends 7 promised (by decide +kernel) (by decide +kernel)
  exact ⟨ready_to_race hvacant, value, hdone, hbeaten,
    fun hthere => hthere _ hshared (Option.isNone_iff_eq_none.1 hgone)⟩

end TenantEndpoints.Endpoint
