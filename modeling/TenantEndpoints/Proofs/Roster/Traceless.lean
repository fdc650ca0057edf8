import TenantEndpoints.Proofs.Roster.Verdicts

/-!
# Endpoints that leave no trace

An endpoint that is created and later deleted might as well not have been there.
In between, the roster differs at its key alone, which no operation on another
endpoint looks at, however that is named; afterwards it does not differ at all.
And the roster tells under which keys there are routes, secrets and middlewares.
-/
namespace TenantEndpoints

open Endpoint

/-- How an endpoint calls what it has of a kind. -/
def Endpoint.namings (hasCredentials : Bool) : Kind → List (String → String)
  | .ingressRoute => [id]
  | .middleware => stripPrefixName :: if hasCredentials then [basicAuthName] else []
  | .secret => if hasCredentials then [secretName] else []
  | .service => []

/-- An endpoint of a roster has something of a kind under a key. -/
def Roster.Holds (roster : Roster) (k : Kind) (key : Key) : Prop :=
  ∃ name enrolment, roster ⟨key.ns, name⟩ = some enrolment ∧
    ∃ naming ∈ namings enrolment.hasCredentials k, key.name = naming name

section Keys
variable {k : Kind} {route : IngressRoute} {useBasicAuth : Bool} {owner : OwnerReference}
  {credentials : Credentials} {services : Store .service} {roster : Roster} {c : Cluster}
  {key : Key}

/-- A child is called as an endpoint calls what it has. -/
theorem exists_naming {r : Resource k}
    (hr : ⟨r⟩ ∈ children useBasicAuth route owner credentials) :
    ∃ naming ∈ namings useBasicAuth k, r.key = ⟨route.key.ns, naming route.key.name⟩ := by
  unfold children at hr
  rcases List.mem_cons.1 hr with he | hr
  · cases he
    exact ⟨stripPrefixName, List.mem_cons_self, rfl⟩
  · cases useBasicAuth with
    | false => cases hr
    | true =>
      simp only [if_true, List.mem_cons, List.not_mem_nil, or_false] at hr
      rcases hr with he | he
      · cases he
        exact ⟨secretName, List.mem_cons_self, rfl⟩
      · cases he
        exact ⟨basicAuthName, List.mem_cons_of_mem _ List.mem_cons_self, rfl⟩

/-- All that an endpoint has besides its route are children of the route. -/
theorem exists_child {naming : String → String} (hn : naming ∈ namings useBasicAuth k)
    (hk : k ≠ .ingressRoute) :
    ∃ r : Resource k, ⟨r⟩ ∈ children useBasicAuth route owner credentials ∧
      r.key = ⟨route.key.ns, naming route.key.name⟩ := by
  cases k with
  | ingressRoute => exact absurd rfl hk
  | service => cases hn
  | middleware =>
    rcases List.mem_cons.1 hn with rfl | hn
    · exact ⟨stripPrefix route owner, List.mem_cons_self, rfl⟩
    · cases useBasicAuth with
      | false => cases hn
      | true =>
        obtain rfl := List.mem_singleton.1 hn
        exact ⟨basicAuth route owner, by simp [children], rfl⟩
  | secret =>
    cases useBasicAuth with
    | false => cases hn
    | true =>
      obtain rfl := List.mem_singleton.1 hn
      exact ⟨basicAuthSecret route owner credentials, by simp [children], rfl⟩

/-- An endpoint of a roster is there with all of its children. -/
theorem Enrols.exists_whole {enrolment : Enrolment} (h : Enrols services roster c)
    (he : roster key = some enrolment) : ∃ route owner credentials, route.key = key ∧
      c.find? .ingressRoute key = some route ∧
      Whole c route enrolment.hasCredentials owner credentials := by
  obtain ⟨table, hrepresents, rfl⟩ := h
  obtain ⟨row, hrow, rfl⟩ := Option.map_eq_some_iff.1 he
  obtain ⟨route, hroute, hshows⟩ := hrepresents.exists_route hrow
  obtain ⟨useBasicAuth, owner, credentials, hwhole, hview⟩ := hshows.view
  have hsame : row.view.basicAuth.isSome = useBasicAuth := by
    rw [hview]
    cases useBasicAuth <;> rfl
  refine ⟨route, owner, credentials, hrepresents.owned.route_key hroute, hroute, ?_⟩
  rw [hsame]
  exact hwhole

/-- A roster tells where there are routes, secrets and middlewares that are not shared. -/
theorem Enrols.find?_ne_none_iff {exempt : Key → Prop} (h : Enrols services roster c)
    (howned : Owned exempt c) (hk : k ≠ .service) (hexempt : k = .middleware → ¬ exempt key) :
    c.find? k key ≠ none ↔ roster.Holds k key := by
  by_cases hroute : k = .ingressRoute
  · subst hroute
    rw [ne_eq, ← h.eq_none_iff, ← ne_eq, Option.ne_none_iff_exists']
    constructor
    · rintro ⟨enrolment, he⟩
      exact ⟨key.name, enrolment, he, id, List.mem_cons_self, rfl⟩
    · rintro ⟨name, enrolment, he, naming, hn, hname⟩
      obtain rfl := List.mem_singleton.1 hn
      obtain rfl : key.name = name := hname
      exact ⟨enrolment, he⟩
  have halone : ¬ StandsAlone exempt k key := by
    cases k with
    | ingressRoute => exact absurd rfl hroute
    | service => exact absurd rfl hk
    | secret => exact id
    | middleware => exact hexempt rfl
  constructor
  · intro hfound
    obtain ⟨r, hr⟩ := Option.ne_none_iff_exists'.1 hfound
    obtain ⟨hkey, parent, hparent, hchild⟩ := (howned.parent hr).resolve_left halone
    obtain ⟨enrolment, he⟩ : ∃ enrolment, roster parent.key = some enrolment := by
      rw [← Option.ne_none_iff_exists', ne_eq, h.eq_none_iff, hparent]
      exact Option.some_ne_none parent
    obtain ⟨route, owner, credentials, hroutekey, hroute, hwhole⟩ := h.exists_whole he
    rw [hparent] at hroute
    cases hroute
    obtain ⟨derive, hd, hname⟩ := hchild.name
    have hplace : key = ⟨parent.key.ns, derive parent.key.name⟩ := by
      rw [← hkey, ← hchild.ns, ← hname]
    rw [hplace] at hfound
    obtain ⟨r', hr', hkey'⟩ := hwhole.nothingElse hd hfound
    obtain ⟨naming, hn, hnaming⟩ := exists_naming hr'
    refine ⟨parent.key.name, enrolment, ?_, naming, hn, ?_⟩
    · rw [hplace]
      exact he
    · rw [hplace, ← hkey', hnaming]
  · rintro ⟨name, enrolment, he, naming, hn, hname⟩
    obtain ⟨route, owner, credentials, hroutekey, _, hwhole⟩ := h.exists_whole he
    obtain ⟨r, hr, hkey⟩ := exists_child hn hroute
    obtain ⟨uid, hstored⟩ := hwhole.stored hr
    have hplace : r.key = key := by
      rw [hkey, hroutekey, ← hname]
    rw [hplace] at hstored
    rw [hstored]
    exact Option.some_ne_none _

end Keys

namespace Event

/-- The endpoint that is to be created or deleted, if one is. -/
def target? (e : Event) : Option Key := e.order?.map Order.key

def Creates (key : Key) (e : Event) : Prop :=
  e.target? = some key ∧ e.order?.any Order.isCreation = true

def Deletes (key : Key) (e : Event) : Prop :=
  e.target? = some key ∧ e.order?.any (!·.isCreation) = true

/-- A creation or a deletion that takes place in a world is a success. -/
def Succeeds (config : Config) (w : World) (e : Event) : Prop :=
  (e.verdict? config w).any Verdict.isSuccess = true

instance (config : Config) (w : World) (e : Event) : Decidable (e.Succeeds config w) :=
  inferInstanceAs (Decidable (_ = true))

end Event

section Beside
variable {config : Config} {services : Store .service} {domain : Except Failure String}
  {roster : Roster} {key : Key} {found : Option Enrolment} {e : Event} {events : List Event}

theorem follow_update {order? : Option Order} (h : order?.map Order.key ≠ some key) :
    Roster.follow config services domain (Function.update roster key found) order? =
      Function.update (roster.follow config services domain order?) key found := by
  cases order? with
  | none => rfl
  | some order =>
    have hne : order.key ≠ key := fun he => h (congrArg some he)
    simp only [Roster.follow, Function.update_of_ne hne]
    cases order.settle config services domain (roster order.key) with
    | ok after => exact Function.update_comm hne.symm _ _ _
    | error failureClass => rfl

theorem foretold?_update {task : Task} (h : task.order?.map Order.key ≠ some key) :
    task.foretold? config services domain (Function.update roster key found) =
      task.foretold? config services domain roster := by
  have hsame {order? : Option Order} (verdict : Order → Except FailureClass (Option Enrolment) → Verdict)
      (h : order?.map Order.key ≠ some key) :
      (order?.map fun order => verdict order (order.settle config services domain
        (Function.update roster key found order.key))) =
        order?.map fun order => verdict order (order.settle config services domain
          (roster order.key)) := by
    cases order? with
    | none => rfl
    | some order =>
      have hne : order.key ≠ key := fun he => h (congrArg some he)
      simp only [Option.map_some, Function.update_of_ne hne]
  cases task with
  | serve timeoutMs request =>
    simp only [Task.foretold?, Task.order?] at h ⊢
    cases hd : Http.Demand.ofRequest request with
    | error response => rfl
    | ok demand =>
      rw [hd] at h
      exact hsame (fun order settled => .answered (order.status settled)) h
  | _ => exact hsame (fun _ settled => .ofResult (settled.map fun _ => ())) h

theorem Event.follow_update (h : e.target? ≠ some key) :
    e.follow config services (Function.update roster key found) =
      Function.update (e.follow config services roster) key found := by
  cases e with
  | task s job => exact TenantEndpoints.follow_update h
  | wait | rules => rfl

theorem Event.foretold?_update (h : e.target? ≠ some key) :
    e.foretold? config services (Function.update roster key found) =
      e.foretold? config services roster := by
  cases e with
  | task s job => exact TenantEndpoints.foretold?_update h
  | wait | rules => rfl

/-- What is done to other endpoints does not look at a key, and leaves what is there. -/
theorem foretoldAll_update (h : ∀ e ∈ events, e.target? ≠ some key) :
    Event.foretoldAll config services events (Function.update roster key found) =
        Event.foretoldAll config services events roster ∧
      Event.followAll config services events (Function.update roster key found) =
        Function.update (Event.followAll config services events roster) key found := by
  induction events generalizing roster with
  | nil => exact ⟨rfl, rfl⟩
  | cons e events ih =>
    obtain ⟨he, hrest⟩ := List.forall_mem_cons.1 h
    obtain ⟨hverdicts, hafter⟩ := @ih (e.follow config services roster) hrest
    simp only [Event.foretoldAll, Event.followAll, Event.follow_update he,
      Event.foretold?_update he, hverdicts, hafter]
    exact ⟨trivial, trivial⟩

theorem followAll_apply (h : ∀ e ∈ events, e.target? ≠ some key) :
    Event.followAll config services events roster key = roster key := by
  have hupdate : Event.followAll config services events (Function.update roster key (roster key)) =
      Function.update (Event.followAll config services events roster) key (roster key) :=
    (foretoldAll_update h).2
  rw [Function.update_eq_self] at hupdate
  rw [hupdate, Function.update_self]

end Beside

section Success
variable {config : Config} {services : Store .service} {domain : Except Failure String}
  {roster : Roster} {key : Key} {e : Event} {order : Order} {verdict : Verdict}

theorem exists_settled_of_status {settled : Except FailureClass (Option Enrolment)}
    (h : (Verdict.answered (order.status settled)).isSuccess = true) :
    ∃ found, settled = .ok found := by
  cases settled with
  | ok found => exact ⟨found, rfl⟩
  | error failureClass => cases failureClass <;> cases h

theorem exists_settled_of_result {settled : Except FailureClass (Option Enrolment)}
    (h : (Verdict.ofResult (settled.map fun _ => ())).isSuccess = true) :
    ∃ found, settled = .ok found := by
  cases settled with
  | ok found => exact ⟨found, rfl⟩
  | error failureClass => cases h

/-- What is a success has been settled. -/
theorem exists_settled {task : Task} (horder : task.order? = some order)
    (hverdict : task.foretold? config services domain roster = some verdict)
    (hsuccess : verdict.isSuccess = true) :
    ∃ found, order.settle config services domain (roster order.key) = .ok found := by
  cases task with
  | serve timeoutMs request =>
    simp only [Task.foretold?, Task.order?] at hverdict horder
    cases hd : Http.Demand.ofRequest request with
    | error response =>
      rw [hd] at horder
      cases horder
    | ok demand =>
      rw [hd] at hverdict horder
      simp only [horder, Option.map_some, Option.some.injEq] at hverdict
      rw [← hverdict] at hsuccess
      exact exists_settled_of_status hsuccess
  | create | delete =>
    cases horder
    cases hverdict
    exact exists_settled_of_result hsuccess
  | _ => cases horder

/-- A success changes the roster under the key of its endpoint. -/
theorem exists_follow_eq (horder : e.order? = some order)
    (hverdict : e.foretold? config services roster = some verdict)
    (hsuccess : verdict.isSuccess = true) : ∃ domain found,
      order.settle config services domain (roster order.key) = .ok found ∧
        e.follow config services roster = Function.update roster order.key found := by
  cases e with
  | wait | rules => cases horder
  | task s job =>
    have hjob : job.order? = some order := horder
    obtain ⟨found, hsettled⟩ := exists_settled hjob hverdict hsuccess
    refine ⟨s.domain, found, hsettled, ?_⟩
    simp only [Event.follow, hjob, Roster.follow, hsettled, Roster.enter]

theorem Event.Creates.follow_eq (h : e.Creates key)
    (hverdict : e.foretold? config services roster = some verdict)
    (hsuccess : verdict.isSuccess = true) : roster key = none ∧
      ∃ enrolment, e.follow config services roster = Function.update roster key (some enrolment) := by
  obtain ⟨htarget, hkind⟩ := h
  obtain ⟨order, horder, rfl⟩ := Option.map_eq_some_iff.1 htarget
  rw [horder] at hkind
  obtain ⟨domain, found, hsettled, hfollow⟩ := exists_follow_eq horder hverdict hsuccess
  cases order with
  | delete => cases hkind
  | create request find =>
    unfold Order.settle at hsettled
    dsimp only at hsettled
    split at hsettled
    · cases hsettled
    · cases hsettled
    · next hfree =>
      cases hsettled
      exact ⟨hfree, _, hfollow⟩

theorem Event.Deletes.follow_eq (h : e.Deletes key)
    (hverdict : e.foretold? config services roster = some verdict)
    (hsuccess : verdict.isSuccess = true) :
    e.follow config services roster = Function.update roster key none := by
  obtain ⟨htarget, hkind⟩ := h
  obtain ⟨order, horder, rfl⟩ := Option.map_eq_some_iff.1 htarget
  rw [horder] at hkind
  obtain ⟨domain, found, hsettled, hfollow⟩ := exists_follow_eq horder hverdict hsuccess
  cases order with
  | create => cases hkind
  | delete key tenant? =>
    unfold Order.settle at hsettled
    dsimp only at hsettled
    split at hsettled
    · cases hsettled
      exact hfollow
    · cases hsettled

end Success

/-- An endpoint that comes and goes is not looked at in between, and does not stay. -/
theorem follow_of_gone {config : Config} {services : Store .service} {roster : Roster} {key : Key}
    {made gone : Event} {between : List Event} {verdict verdict' : Verdict}
    (hmade : made.Creates key) (hgone : gone.Deletes key)
    (hbetween : ∀ e ∈ between, e.target? ≠ some key)
    (hverdict : made.foretold? config services roster = some verdict)
    (hsuccess : verdict.isSuccess = true)
    (hverdict' : gone.foretold? config services (Event.followAll config services between
      (made.follow config services roster)) = some verdict')
    (hsuccess' : verdict'.isSuccess = true) :
    Event.foretoldAll config services between (made.follow config services roster) =
        Event.foretoldAll config services between roster ∧
      gone.follow config services (Event.followAll config services between
        (made.follow config services roster)) =
        Event.followAll config services between roster := by
  obtain ⟨hfree, enrolment, hfollow⟩ := hmade.follow_eq hverdict hsuccess
  rw [hgone.follow_eq hverdict' hsuccess', hfollow]
  obtain ⟨hverdicts, hafter⟩ : _ ∧ Event.followAll config services between _ = _ :=
    foretoldAll_update hbetween
  have hstays : Event.followAll config services between roster key = none :=
    (followAll_apply hbetween).trans hfree
  refine ⟨hverdicts, ?_⟩
  rw [hafter, Function.update_idem, ← hstays, Function.update_eq_self]

/-- In two clusters there are resources under the same keys, apart from what is shared. -/
def SameKeys (shared : SharedMiddlewares) (c c' : Cluster) : Prop :=
  ∀ (k : Kind) (key : Key), (k = .middleware → ¬ IsShared shared key) →
    (c.find? k key ≠ none ↔ c'.find? k key ≠ none)

theorem Enrols.sameKeys {config : Config} {services : Store .service} {roster : Roster}
    {c c' : Cluster} (h : Enrols services roster c) (h' : Enrols services roster c')
    (howned : Owned (IsShared config.shared) c) (howned' : Owned (IsShared config.shared) c') :
    SameKeys config.shared c c' := by
  intro k key hexempt
  by_cases hk : k = .service
  · subst hk
    have hstores : c.services = c'.services := h.services_eq.trans h'.services_eq.symm
    have hsame : c.find? .service key = c'.find? .service key :=
      congrArg (fun store => SortedMap.find? store key) hstores
    rw [hsame]
  · exact (h.find?_ne_none_iff howned hk hexempt).trans
      (h'.find?_ne_none_iff howned' hk hexempt).symm

theorem Untouched.enrols {config : Config} {c : Cluster} (h : Untouched config c) :
    Enrols c.services (Roster.ofTable ∅) c := by
  refine ⟨∅, Http.Endpointless.represents ⟨h.routes, h.secrets, fun hm => ?_⟩, rfl⟩
  exact (exempts_isShared config.shared).underived _ (h.middlewares hm).1

theorem Untouched.owned_after {config : Config} {w : World} {events : List Event}
    (h : Untouched config w.cluster) (hrules : w.rules = [])
    (hnew : ∀ e ∈ events, e.newRules = []) :
    Owned (IsShared config.shared) (Event.after config events w).cluster := by
  refine (held_after (h.held .none) ?_ fun e he => ?_).1.owned
  · rw [hrules]
    exact fun _ hr => nomatch hr
  · rw [hnew e he]
    exact fun _ hr => nomatch hr

/-- Two successive parts of a scenario. -/
theorem Event.after_append (config : Config) (events events' : List Event) (w : World) :
    Event.after config (events ++ events') w =
      Event.after config events' (Event.after config events w) := by
  induction events generalizing w with
  | nil => rfl
  | cons e events ih => exact ih _

/-- From a cluster of services, and without rules: a scenario in which an endpoint is
created and later deleted, with nothing else done to it in between, comes to the same
as the scenario without these two. All other creations and deletions after the creation
get the same verdicts, whatever the names of their endpoints, and at the end there
are routes, secrets and middlewares under the same keys, apart from what is shared. -/
theorem deleted_endpoint_leaves_no_trace (config : Config) (w : World)
    (before between rest : List Event) (made gone : Event) (key : Key)
    (hstart : Untouched config w.cluster) (hrules : w.rules = [])
    (hnew : ∀ e ∈ before ++ made :: between ++ gone :: rest, e.newRules = [])
    (hmade : made.Creates key) (hgone : gone.Deletes key)
    (hbetween : ∀ e ∈ between, e.target? ≠ some key)
    (hcreated : made.Succeeds config (Event.after config before w))
    (hdeleted : gone.Succeeds config (Event.after config (before ++ made :: between) w)) :
    Event.verdicts config between (Event.after config (before ++ [made]) w) =
        Event.verdicts config between (Event.after config before w) ∧
      Event.verdicts config rest (Event.after config (before ++ made :: between ++ [gone]) w) =
        Event.verdicts config rest (Event.after config (before ++ between) w) ∧
      SameKeys config.shared
        (Event.after config (before ++ made :: between ++ gone :: rest) w).cluster
        (Event.after config (before ++ between ++ rest) w).cluster := by
  have howned := hstart.owned_after hrules hnew
  simp only [List.forall_mem_append, List.forall_mem_cons] at hnew
  obtain ⟨⟨hnew₁, hnew₂, hnew₃⟩, hnew₄, hnew₅⟩ := hnew
  have howned' := hstart.owned_after hrules
    (List.forall_mem_append.2 ⟨List.forall_mem_append.2 ⟨hnew₁, hnew₃⟩, hnew₅⟩)
  have h₀ : Foreseen w.cluster.services (Roster.ofTable ∅) w := by
    refine ⟨hstart.enrols, ?_⟩
    rw [hrules]
    exact fun _ hr => nomatch hr
  obtain ⟨_, h₁⟩ : Event.verdicts config before w = _ ∧ _ := h₀.scenario hnew₁
  obtain ⟨hverdict, h₂⟩ : made.verdict? config _ = _ ∧ _ := h₁.event hnew₂
  obtain ⟨hbetween₁, h₃⟩ : Event.verdicts config between _ = _ ∧ _ := h₂.scenario hnew₃
  obtain ⟨hverdict', h₄⟩ : gone.verdict? config _ = _ ∧ _ := h₃.event hnew₄
  obtain ⟨hbetween₂, h₅⟩ : Event.verdicts config between _ = _ ∧ _ := h₁.scenario hnew₃
  simp only [Event.after_append, Event.after] at hdeleted howned howned' ⊢
  rw [Event.Succeeds, hverdict, Option.any_eq_true] at hcreated
  rw [Event.Succeeds, hverdict', Option.any_eq_true] at hdeleted
  obtain ⟨verdict, hcreated, hsuccess⟩ := hcreated
  obtain ⟨verdict', hdeleted, hsuccess'⟩ := hdeleted
  obtain ⟨hsame, hback⟩ := follow_of_gone hmade hgone hbetween hcreated hsuccess hdeleted hsuccess'
  rw [hback] at h₄
  obtain ⟨hrest₁, h₆⟩ : Event.verdicts config rest _ = _ ∧ _ := h₄.scenario hnew₅
  obtain ⟨hrest₂, h₇⟩ : Event.verdicts config rest _ = _ ∧ _ := h₅.scenario hnew₅
  refine ⟨?_, hrest₁.trans hrest₂.symm, h₆.enrols.sameKeys h₇.enrols howned howned'⟩
  rw [hbetween₁, hsame, hbetween₂]

/-- An endpoint that comes and goes beside others that are called like its children. -/
theorem lookalikes_see_no_trace :
    let config := Specimen.config
    let w := Specimen.world
    let create (name : String) : Event := .task Specimen.plain
      (.create (Specimen.endpoint name "alice" true) Specimen.node 1000)
    let delete (name : String) : Event := .task Specimen.plain (.delete "default" name 1000)
    let request (method path user body : String) : Event :=
      .task Specimen.plain (.serve 1000 (Specimen.request method path user body))
    let post (name user : String) : Event := request "POST" "" user (Specimen.body name)
    let before := [post "two" "bob"]
    let made := create "one"
    let between := [create "strip-prefix-one", post "one-secret" "bob", create "two", delete "three"]
    let gone := request "DELETE" "/one" "alice" ""
    let rest := [post "one" "bob", delete "strip-prefix-one", request "DELETE" "/two" "alice" ""]
    let key : Key := ⟨"default", "one"⟩
    Untouched config w.cluster ∧ w.rules = [] ∧
      (∀ e ∈ before ++ made :: between ++ gone :: rest, e.newRules = []) ∧
      made.Creates key ∧ gone.Deletes key ∧ (∀ e ∈ between, e.target? ≠ some key) ∧
      made.Succeeds config (Event.after config before w) ∧
      gone.Succeeds config (Event.after config (before ++ made :: between) w) ∧
      Event.verdicts config between (Event.after config (before ++ [made]) w) =
        Event.verdicts config between (Event.after config before w) ∧
      Event.verdicts config rest (Event.after config (before ++ made :: between ++ [gone]) w) =
        Event.verdicts config rest (Event.after config (before ++ between) w) ∧
      SameKeys config.shared
        (Event.after config (before ++ made :: between ++ gone :: rest) w).cluster
        (Event.after config (before ++ between ++ rest) w).cluster ∧
      Event.verdicts config between (Event.after config (before ++ [made]) w) =
        [some .done, some (.answered 201), some (.failed .conflict), some (.failed .notFound)] ∧
      Event.verdicts config rest (Event.after config (before ++ made :: between ++ [gone]) w) =
        [some (.answered 201), some .done, some (.answered 404)] := by
  intro config w create delete request post before made between gone rest key
  have hstart : Untouched config w.cluster := untouched_services config _
  have hnew : ∀ e ∈ before ++ made :: between ++ gone :: rest, e.newRules = [] := by
    decide +kernel
  have hmade : made.Creates key := ⟨by decide +kernel, by decide +kernel⟩
  have hgone : gone.Deletes key := ⟨by decide +kernel, by decide +kernel⟩
  have hbetween : ∀ e ∈ between, e.target? ≠ some key := by decide +kernel
  have hcreated : made.Succeeds config (Event.after config before w) := by decide +kernel
  have hdeleted : gone.Succeeds config (Event.after config (before ++ made :: between) w) := by
    decide +kernel
  obtain ⟨hverdicts, hverdicts', hsame⟩ := deleted_endpoint_leaves_no_trace config w before between
    rest made gone key hstart rfl hnew hmade hgone hbetween hcreated hdeleted
  exact ⟨hstart, rfl, hnew, hmade, hgone, hbetween, hcreated, hdeleted, hverdicts, hverdicts', hsame,
    by decide +kernel, by decide +kernel⟩

end TenantEndpoints
