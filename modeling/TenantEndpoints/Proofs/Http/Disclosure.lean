import TenantEndpoints.Proofs.Http.Tenancy
import TenantEndpoints.Proofs.Specimen
import TenantEndpoints.Proofs.WriteOnce

/-!
# Whose credentials are shown

A tenant who asks to see an endpoint is shown what is in the secret under the
name derived from the endpoint's. Nobody looks at who owns that secret. But so
long as only endpoint operations work on a cluster, a secret under such a name
hangs on the route that it is shown with, and that route asks for basic
authentication.
-/
namespace TenantEndpoints

open Endpoint

/-- The secret under the name derived from a key, if there is one, hangs on the route
under the key, and that asks for basic authentication. -/
def SecretBelongs (key : Key) (c : Cluster) : Prop :=
  ∀ secret : Secret, c.find? .secret ⟨key.ns, secretName key.name⟩ = some secret →
    ∃ route, c.find? .ingressRoute key = some route ∧ Cluster.hangsOn secret route = true ∧
      AsksForBasicAuth route

section SecretBelongs
variable {may : Interference} {config : Config} {useBasicAuth : Bool} {key : Key} {c c' : Cluster}
  {submitted route : IngressRoute} {owner : OwnerReference} {credentials : Credentials}
  {rs : List AnyResource}

theorem secretBelongs_of_none (h : c.find? .secret ⟨key.ns, secretName key.name⟩ = none) :
    SecretBelongs key c := fun _ hs => nomatch h.symm.trans hs

theorem useBasicAuth_of_secret {s : Secret} (h : ⟨s⟩ ∈ children useBasicAuth route owner credentials) :
    useBasicAuth = true := by
  cases useBasicAuth with
  | true => rfl
  | false =>
    obtain he | he := List.mem_cons.1 h
    · cases he
    · cases he

/-- A secret that is created goes with the route that was created for it, which found
its key free. -/
theorem SecretBelongs.begun (h : SecretBelongs key c)
    (hplanned : Planned config useBasicAuth submitted)
    (hbegun : Begun config useBasicAuth submitted c owner credentials rs c') :
    SecretBelongs key c' := by
  intro secret hsecret
  rcases hbegun.grows_all.eq_or_mem_of_find? hsecret with hold | ⟨s, hs, hkey, _, n, _, _, rfl⟩
  · obtain ⟨route, hroute, hhangs⟩ := h _ hold
    exact ⟨route, hbegun.grows_all.find?_of_some hroute, hhangs⟩
  rcases List.mem_cons.1 hs with he | hs
  · cases he
  rcases List.mem_append.1 (hbegun.part.subset hs) with hs | hs
  · have hchild := childOf_of_mem_children hbegun.ownerReference hs
    have hderived : secretName ∈ derivations .secret := List.mem_cons_self
    have hmade : (c.made submitted).key = key := hchild.route_key hderived hkey
    have hauth := useBasicAuth_of_secret hs
    refine ⟨c.made submitted, ?_, (hchild.made _).hangsOn_iff.2 rfl,
      (asksForBasicAuth_iff (hplanned.made c)).2 hauth⟩
    rw [← hmade, Cluster.key_made]
    exact hbegun.find?_route
  · cases (kind_of_mem_shared hs).1

theorem SecretBelongs.without (h : SecretBelongs key c) {key' : Key}
    (hroute : c.find? .ingressRoute key' = some route) : SecretBelongs key (c.without key' route) := by
  intro secret hsecret
  rw [Cluster.find?_without c key' route (k := .secret) (fun hk => nomatch hk)
    (fun hk => nomatch hk), Option.filter_eq_some_iff] at hsecret
  obtain ⟨hsecret, hstays⟩ := hsecret
  obtain ⟨route', hroute', hhangs, hasks⟩ := h _ hsecret
  refine ⟨route', ?_, hhangs, hasks⟩
  rw [Cluster.find?_route_without, if_neg]
  · exact hroute'
  · rintro rfl
    cases hroute.symm.trans hroute'
    rw [hhangs] at hstays
    cases hstays

theorem SecretBelongs.shared (h : SecretBelongs key c) (hrs : ∀ r ∈ rs, r ∈ config.shared.resources)
    (hg : c.Grows rs c') : SecretBelongs key c' := by
  intro secret hsecret
  rcases hg.eq_or_mem_of_find? hsecret with hold | ⟨s, hs, _⟩
  · obtain ⟨route, hroute, hhangs⟩ := h _ hold
    exact ⟨route, hg.find?_of_some hroute, hhangs⟩
  · cases (kind_of_mem_shared (hrs _ hs)).1

theorem SecretBelongs.change (h : SecretBelongs key c) {left : Option IngressRoute}
    (hchange : Endpoint.Change may config c c' left) : SecretBelongs key c' := by
  cases hchange with
  | shared hrs hg => exact h.shared hrs hg
  | deletion hroute => exact h.without hroute
  | creation hplanned houtcome =>
    cases houtcome with
    | unmade => exact h
    | completed hbegun => exact h.begun hplanned hbegun
    | leftBehind _ hbegun => exact h.begun hplanned hbegun
    | takenBack _ hbegun => exact (h.begun hplanned hbegun).without hbegun.find?_route

end SecretBelongs

section Events
variable {may : Interference} {config : Config} {key : Key} {w : World}

theorem secretBelongs_event {e : Event} (h : SecretBelongs key w.cluster)
    (hrules : ∀ r ∈ w.rules, r.Keeps may) :
    SecretBelongs key (e.play config w).state.cluster := by
  cases e with
  | task s job =>
    have hcourse := course_task
      (Program.plays_play (World.answerer s) Lookup.any_apply (job.program config) w)
    obtain ⟨_, hchange, _⟩ := hcourse.change (World.serves_play s (job.program config) hrules).1
    exact h.change hchange
  | wait ms => exact h
  | rules rs => exact h

theorem secretBelongs_after {events : List Event} (h : SecretBelongs key w.cluster)
    (hrules : ∀ r ∈ w.rules, r.Keeps may) (hnew : ∀ e ∈ events, ∀ r ∈ e.newRules, r.Keeps may) :
    SecretBelongs key (Event.after config events w).cluster := by
  induction events generalizing w with
  | nil => exact h
  | cons e events ih =>
    obtain ⟨hnew, hnews⟩ := List.forall_mem_cons.1 hnew
    exact ih (secretBelongs_event h hrules) (Http.keeps_event hrules hnew) hnews

end Events

/-- Whether an endpoint that is asked for is to have basic authentication. -/
def Task.useBasicAuth? : Task → Option Bool
  | .create request _ _ => some request.useBasicAuth
  | .serve _ request => match Http.Demand.ofRequest request with
    | .ok (.create _ _ body) => some body.useBasicAuth
    | _ => none
  | _ => none

/-- A route has been stored for an endpoint that was asked for without basic
authentication. -/
def StoredWithoutBasicAuth (config : Config) (events : List Event) (w : World) (key : Key)
    (route : IngressRoute) : Prop :=
  ∃ before s job after, events = before ++ .task s job :: after ∧
    job.useBasicAuth? = some false ∧
    ∃ x ∈ (Event.play config (.task s job) (Event.after config before w)).encounters,
      x.Stores key route

section Planned
variable {config : Config} {t : List Exchange} {x : Exchange} {submitted : IngressRoute}

theorem planned_of_create {request : EndpointRequest} {service : Service} {deadline : Instant}
    {r : Except Failure Created}
    (h : (Endpoint.create config request service deadline).run.Plays lookup t r) (hx : x ∈ t)
    (hwanted : x.wanted? = some ⟨submitted⟩) : Planned config request.useBasicAuth submitted := by
  rcases plays_create h with ⟨_, rfl, _⟩ | ⟨domain, ids, hrefusal, hids, hsaga⟩
  · cases hx
  obtain ⟨t₁, t₂, hsplit⟩ := List.append_of_mem hx
  cases hsaga.place hsplit with
  | first outcome =>
    cases hwanted
    exact planned_submission hrefusal hids
  | between _ _ _ hspares => exact absurd hwanted (hspares.wanted_ne submitted)
  | last => cases hwanted

theorem planned_of_task {job : Task} {useBasicAuth : Bool} {u : Unit}
    (hjob : job.useBasicAuth? = some useBasicAuth) (h : (job.program config).Plays lookup t u)
    (hx : x ∈ t) (hwanted : x.wanted? = some ⟨submitted⟩) : Planned config useBasicAuth submitted := by
  cases job with
  | create request service deadline =>
    cases hjob
    obtain ⟨r, _, h⟩ := Program.plays_map.1 h
    exact planned_of_create h hx hwanted
  | serve timeoutMs request =>
    obtain ⟨r, _, h⟩ := Program.plays_map.1 h
    have hplays := Http.plays_serve h
    simp only [Task.useBasicAuth?] at hjob
    split at hjob
    · next ns user body hdemand =>
      cases hjob
      rw [hdemand] at hplays
      obtain ⟨deadline, outcome, hattempt, _⟩ := hplays
      cases conduct_demand hattempt with
      | reads hreads => exact absurd hwanted ((hreads.sparesRoutes x hx).wanted_ne submitted)
      | creates hbefore hcreate =>
        rcases List.mem_append.1 hx with hx | hx
        · exact absurd hwanted ((hbefore.sparesRoutes x hx).wanted_ne submitted)
        · exact planned_of_create hcreate hx hwanted
    · cases hjob
  | _ => cases hjob

/-- A route for an endpoint without basic authentication does not ask for it. -/
theorem StoredWithoutBasicAuth.not_asks {events : List Event} {w : World} {key : Key}
    {route : IngressRoute} (h : StoredWithoutBasicAuth config events w key route) :
    ¬ AsksForBasicAuth route := by
  obtain ⟨before, s, job, after, _, hjob, x, hx, hstores⟩ := h
  have hchange := (Event.annals config (.task s job) (Event.after config before w)).1.change hx
  obtain ⟨submitted, deadline, _, hexchange, rfl, _⟩ := hstores.exchange hchange
  have hplays := Program.plays_play (World.answerer s) Lookup.any_apply (job.program config)
    (Event.after config before w)
  have hplanned : Planned config false submitted :=
    planned_of_task hjob hplays (List.mem_map_of_mem hx) (by rw [hexchange]; rfl)
  rw [asksForBasicAuth_iff (hplanned.made x.state.cluster)]
  exact Bool.false_ne_true

end Planned

namespace Http

/-- The credentials in the body of a response. -/
def Response.basicAuth? (r : Response) : Option Json := r.body.bind (Json.get? "basicAuth")

theorem get?_record_of_last {fields : List (String × Option Json)} {name : String}
    {value : Option Json} (hlast : fields.getLast? = some (name, value))
    (hothers : ∀ f ∈ fields.dropLast, f.1 ≠ name) : (Json.record fields).get? name = value := by
  obtain ⟨others, rfl⟩ := List.getLast?_eq_some_iff.1 hlast
  rw [List.dropLast_concat] at hothers
  have hnone : ((others.filterMap fun f => f.2.map fun v => (f.1, v)).reverse.find?
      (·.1 = name)) = none := by
    simp only [List.find?_eq_none, List.mem_reverse, List.mem_filterMap, Option.map_eq_some_iff]
    rintro _ ⟨f, hf, v, _, rfl⟩
    simpa using hothers f hf
  cases value with
  | none => simp [Json.record, Json.get?, Json.lookup?, hnone]
  | some v => simp [Json.record, Json.get?, Json.lookup?]

theorem get?_toJson (v : View) : v.toJson.get? "basicAuth" = v.basicAuth.map Credentials.toJson :=
  get?_record_of_last rfl (by simp)

theorem basicAuth?_ofError (status : Nat) (message : String) :
    (Response.ofError status message).basicAuth? = none := by
  simp [Response.ofError, Response.basicAuth?, Json.get?, Json.lookup?]

theorem credentialsIn_eq_ok {found : Except Failure Secret} {credentials : Credentials}
    (h : credentialsIn found = .ok (some credentials)) :
    ∃ secret, found = .ok secret ∧ Credentials.ofSecret secret = .ok credentials := by
  cases found with
  | ok secret =>
    refine ⟨secret, rfl, ?_⟩
    simp only [credentialsIn] at h
    cases hs : Credentials.ofSecret secret with
    | ok credentials' =>
      rw [hs] at h
      cases h
      rfl
    | error breakdown =>
      rw [hs] at h
      cases h
  | error failure =>
    simp only [credentialsIn] at h
    split at h <;> cases h

/-- A response shows the credentials in a secret as those of a route. -/
def ShowsSecret (r : Response) (route : IngressRoute) (secret : Secret) (shown : Json) : Prop :=
  ∃ credentials, Credentials.ofSecret secret = .ok credentials ∧ shown = credentials.toJson ∧
    r.body = some (View.ofRoute route (some credentials)).toJson

section Get
variable {config : Config} {timeoutMs : Nat} {request : Request} {s : Surroundings} {w : World}
  {ns name user : String} {r : Response} {shown : Json}

/-- Credentials are only shown with a route of the tenant, and they are those in the secret
under the derived name. -/
theorem showsSecret_of_get (hdemand : Demand.ofRequest request = .ok (.get ns name user))
    (hrules : ∀ r ∈ w.rules, r.OnlyDisturbs)
    (hr : ((serve config timeoutMs request).run s w).value = .ok r)
    (hshown : r.basicAuth? = some shown) :
    ∃ route secret, w.cluster.find? .ingressRoute ⟨ns, name⟩ = some route ∧
      isOwnedBy route user = true ∧
      w.cluster.find? .secret ⟨ns, secretName name⟩ = some secret ∧
      ShowsSecret r route secret shown := by
  obtain ⟨hplays, hserves, _⟩ := World.serves_run Lookup.any trivial
    (serve config timeoutMs request) fun r hr => (hrules r hr).keeps
  rw [hr] at hplays
  have hserve := plays_serve hplays
  rw [hdemand] at hserve
  obtain ⟨deadline, outcome, hattempt, hresponse⟩ := hserve
  obtain rfl := Except.ok.inj hresponse
  obtain ⟨found, t', ht, hrest⟩ := plays_get hattempt
  rw [ht] at hserves
  obtain ⟨c₁, hmeets, hserves⟩ := hserves
  split at hrest
  · obtain ⟨_, rfl⟩ := hrest
    cases (basicAuth?_ofError _ _).symm.trans hshown
  next route hvisible =>
  obtain ⟨rfl, howner⟩ := visible_eq_ok hvisible
  obtain ⟨secret, rfl, rfl⟩ := hrest
  obtain ⟨c₂, hmeets', _⟩ := hserves
  obtain ⟨rfl, ⟨_, he, hroute⟩ | ⟨_, hne, _⟩⟩ := Cluster.meets_get hmeets
  · cases he
    cases hcredentials : credentialsIn secret with
    | error failure =>
      rw [hcredentials] at hshown
      cases (basicAuth?_ofError _ _).symm.trans hshown
    | ok credentials? =>
      rw [hcredentials] at hshown
      have hview : (View.ofRoute route credentials?).basicAuth.map Credentials.toJson = some shown :=
        (get?_toJson _).symm.trans hshown
      obtain ⟨credentials, rfl, rfl⟩ := Option.map_eq_some_iff.1 hview
      obtain ⟨secret, rfl, hsecret⟩ := credentialsIn_eq_ok hcredentials
      obtain ⟨_, ⟨_, he, hfound⟩ | ⟨_, hne, _⟩⟩ := Cluster.meets_get hmeets'
      · cases he
        exact ⟨route, secret, hroute, howner, hfound, credentials, hsecret, rfl, rfl⟩
      · cases hne
  · cases hne

end Get

/-- Whatever is in the cluster: the credentials that a tenant is shown with an endpoint are
those in the secret under the name derived from the endpoint's, and the route is the tenant's. If there was
no such secret before the operations that have led to the cluster, then it has the
route among its owners, and an endpoint that was created without basic authentication
is shown without credentials. -/
theorem shown_credentials_belong (config : Config) (events : List Event) (w : World)
    (hrules : ∀ r ∈ w.rules ++ events.flatMap Event.newRules, r.OnlyDisturbs)
    (timeoutMs : Nat) (request : Request) (s : Surroundings) {ns name user : String}
    (hdemand : Demand.ofRequest request = .ok (.get ns name user)) {r : Response}
    (hr : ((serve config timeoutMs request).run s (Event.after config events w)).value = .ok r) :
    let c := (Event.after config events w).cluster
    (∀ shown, r.basicAuth? = some shown →
      ∃ route secret, c.find? .ingressRoute ⟨ns, name⟩ = some route ∧
        isOwnedBy route user = true ∧ c.find? .secret ⟨ns, secretName name⟩ = some secret ∧
        ShowsSecret r route secret shown ∧
        (w.cluster.find? .secret ⟨ns, secretName name⟩ = none →
          ∃ uid, route.metadata.uid = some uid ∧ secret.metadata.isOwnedBy uid = true)) ∧
    (w.cluster.find? .secret ⟨ns, secretName name⟩ = none →
      ∀ route, c.find? .ingressRoute ⟨ns, name⟩ = some route →
        StoredWithoutBasicAuth config events w ⟨ns, name⟩ route → r.basicAuth? = none) := by
  intro c
  have hold : ∀ r ∈ w.rules, r.OnlyDisturbs := fun r hr => hrules r (List.mem_append_left _ hr)
  have hnew : ∀ e ∈ events, ∀ r ∈ e.newRules, r.OnlyDisturbs := fun e he r hr =>
    hrules r (List.mem_append_right _ (List.mem_flatMap.2 ⟨e, he, hr⟩))
  have hafter : ∀ r ∈ (Event.after config events w).rules, r.Keeps .any :=
    keeps_after (fun r hr => (hold r hr).keeps) fun e he r hr => (hnew e he r hr).keeps
  have hbelongs (hnone : w.cluster.find? .secret ⟨ns, secretName name⟩ = none) :
      SecretBelongs ⟨ns, name⟩ c :=
    secretBelongs_after (secretBelongs_of_none hnone) (fun r hr => (hold r hr).keeps)
      fun e he r hr => (hnew e he r hr).keeps
  have hshows {shown : Json} (hshown : r.basicAuth? = some shown) :=
    showsSecret_of_get hdemand (fun r hr => (hafter r hr).onlyDisturbs) hr hshown
  constructor
  · intro shown hshown
    obtain ⟨route, secret, hroute, howner, hsecret, hview⟩ := hshows hshown
    refine ⟨route, secret, hroute, howner, hsecret, hview, fun hnone => ?_⟩
    obtain ⟨route', hroute', hhangs, _⟩ := hbelongs hnone secret hsecret
    cases hroute.symm.trans hroute'
    simpa only [Cluster.hangsOn, Option.any_eq_true] using hhangs
  · intro hnone route hroute hwithout
    rw [Option.eq_none_iff_forall_ne_some]
    intro shown hshown
    obtain ⟨_, secret, _, _, hsecret, _⟩ := hshows hshown
    obtain ⟨route', hroute', _, hasks⟩ := hbelongs hnone secret hsecret
    cases hroute.symm.trans hroute'
    exact hwithout.not_asks hasks

/-- A tenant is shown the credentials that were made with the endpoint. -/
theorem own_credentials_shown :
    let post := Specimen.request "POST" "" "alice" (Specimen.guardedBody "one")
    let request := Specimen.request "GET" "/one" "alice" ""
    let events : List Event := [.task Specimen.plain (.serve 1000 post)]
    let w := Specimen.world
    let now := Event.after Specimen.config events w
    let c := now.cluster
    (∀ r ∈ w.rules ++ events.flatMap Event.newRules, r.OnlyDisturbs) ∧
      Demand.ofRequest request = .ok (.get "default" "one" "alice") ∧
      ∃ r shown, ((serve Specimen.config 1000 request).run Specimen.plain now).value = .ok r ∧
        r.basicAuth? = some shown ∧
        ∃ route secret uid, c.find? .ingressRoute ⟨"default", "one"⟩ = some route ∧
          c.find? .secret ⟨"default", "one-secret"⟩ = some secret ∧
          route.metadata.uid = some uid ∧ secret.metadata.isOwnedBy uid = true := by
  intro post request events w now c
  have hrules : ∀ r ∈ w.rules ++ events.flatMap Event.newRules, r.OnlyDisturbs := by
    decide +kernel
  have hoperation : Operation.select? request.method request.target.path =
      some (.get "default" "one") := by decide +kernel
  have hdemand : Demand.ofRequest request = .ok (.get "default" "one" "alice") :=
    Demand.ofRequest_eq hoperation (by decide +kernel)
  have hanswer : (((serve Specimen.config 1000 request).run Specimen.plain now).value.toOption.map
      fun r => r.basicAuth?.isSome) = some true := by decide +kernel
  obtain ⟨r, hr, hsome⟩ := exists_eq_ok hanswer
  obtain ⟨shown, hshown⟩ := Option.isSome_iff_exists.1 hsome
  obtain ⟨route, secret, hroute, _, hsecret, _, howned⟩ :=
    (shown_credentials_belong Specimen.config events w hrules 1000 _ Specimen.plain hdemand hr).1
      shown hshown
  obtain ⟨uid, huid, howner⟩ := howned rfl
  exact ⟨hrules, hdemand, r, shown, hr, hshown, route, secret, uid, hroute, hsecret, huid, howner⟩

/-- A secret that was there before and has no owner is shown with an endpoint that was
created without basic authentication. -/
theorem foreign_credentials_shown :
    let creation : Task :=
      .serve 1000 (Specimen.request "POST" "" "alice" (Specimen.body "one"))
    let w := Event.after Specimen.config [.task Specimen.plain creation]
      { cluster := Specimen.cluster.seed Specimen.stray }
    let answer := (serve Specimen.config 1000 (Specimen.request "GET" "/one" "alice" "")).run
      Specimen.plain w
    creation.useBasicAuth? = some false ∧
      (w.cluster.find? .ingressRoute ⟨"default", "one"⟩).map (·.metadata.uid) =
        some (some "uid-1") ∧
      (w.cluster.find? .secret ⟨"default", "one-secret"⟩).map (·.metadata.isOwnedBy "uid-1") =
        some false ∧
      (answer.value.toOption.bind Response.basicAuth?).map Json.text =
        some "\x7b\"username\":\"root\",\"password\":\"hunter2\"\x7d" := by
  intro creation w answer
  exact ⟨by decide +kernel, by decide +kernel, by decide +kernel, by decide +kernel⟩

end Http

end TenantEndpoints
