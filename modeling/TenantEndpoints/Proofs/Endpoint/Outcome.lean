import TenantEndpoints.Proofs.Cluster.Serving
import TenantEndpoints.Proofs.Endpoint.Saga

/-!
# What a creation does to a cluster

Served by a cluster, a saga ends in one of four ways: nothing was created,
everything was, everything but shared middlewares was taken back, or the route
stays behind with a part of its children because it could not be deleted.
-/
namespace TenantEndpoints

namespace SharedMiddlewares

def both (s : SharedMiddlewares) : List Middleware := [s.activityMiddleware, s.cacheMiddleware]

def resources (s : SharedMiddlewares) : List AnyResource := s.both.map fun m => ⟨m⟩

end SharedMiddlewares

namespace Endpoint

/-- What a route is the owner of, in the order of creation. -/
def children (useBasicAuth : Bool) (route : IngressRoute) (owner : OwnerReference)
    (credentials : Credentials) : List AnyResource :=
  ⟨stripPrefix route owner⟩ ::
    if useBasicAuth then
      [⟨basicAuthSecret route owner credentials⟩, ⟨basicAuth route owner⟩]
    else []

namespace Step

/-- The resource that a step may bring about. -/
def resource? : Step → Option AnyResource
  | .hopeless _ => none
  | .submit r => some ⟨r⟩
  | .ensure m => some ⟨m⟩

/-- The resource that a step brings about unless it fails. -/
def submitted? : Step → Option AnyResource
  | .submit r => some ⟨r⟩
  | .hopeless _ | .ensure _ => none

variable {ignoreConflicts : Bool} {deadline : Instant} {step : Step} {t : List Exchange}
  {ended : Option Failure}

theorem Plays.verb_ne_delete (h : step.Plays ignoreConflicts deadline t ended) :
    ∀ x ∈ t, x.call.verb ≠ .delete := by
  cases h <;> simp [Call.verb]

theorem Plays.wanted_sublist (h : step.Plays ignoreConflicts deadline t ended) :
    (t.filterMap Exchange.wanted?).Sublist step.resource?.toList := by
  cases h with
  | submitted | refused | made | ignored | failed => exact List.Sublist.refl _
  | _ => exact List.nil_sublist _

theorem Plays.submitted_sublist (h : step.Plays ignoreConflicts deadline t none) :
    step.submitted?.toList.Sublist (t.filterMap Exchange.made?) := by
  cases h with
  | submitted => exact List.Sublist.refl _
  | _ => exact List.nil_sublist _

end Step

/-- What steps may bring about. -/
def resources (steps : List (Stage × Step)) : List AnyResource :=
  steps.flatMap fun s => s.2.resource?.toList

/-- What steps bring about unless one fails. -/
def submissions (steps : List (Stage × Step)) : List AnyResource :=
  steps.flatMap fun s => s.2.submitted?.toList

namespace Taken
variable {ignoreConflicts : Bool} {deadline : Instant} {steps : List (Stage × Step)}
  {t : List Exchange} {ended : Option (Stage × Failure)}

theorem verb_ne_delete (h : Taken ignoreConflicts deadline steps t ended) :
    ∀ x ∈ t, x.call.verb ≠ .delete := by
  induction h with
  | finished => simp
  | passed hs _ ih => exact List.forall_mem_append.2 ⟨hs.verb_ne_delete, ih⟩
  | stopped _ hs => exact hs.verb_ne_delete

theorem wanted_sublist (h : Taken ignoreConflicts deadline steps t ended) :
    (t.filterMap Exchange.wanted?).Sublist (resources steps) := by
  induction h with
  | finished => exact List.nil_sublist _
  | passed hs _ ih =>
    rw [List.filterMap_append, resources, List.flatMap_cons]
    exact hs.wanted_sublist.append ih
  | stopped _ hs =>
    rw [resources, List.flatMap_cons]
    exact hs.wanted_sublist.trans (List.sublist_append_left _ _)

theorem made_sublist (h : Taken ignoreConflicts deadline steps t ended) :
    (t.filterMap Exchange.made?).Sublist (resources steps) :=
  (Exchange.made_sublist_wanted t).trans h.wanted_sublist

theorem submissions_sublist (h : Taken ignoreConflicts deadline steps t none) :
    (submissions steps).Sublist (t.filterMap Exchange.made?) := by
  generalize hn : (none : Option (Stage × Failure)) = e at h
  induction h with
  | finished => exact List.nil_sublist _
  | passed hs _ ih =>
    rw [List.filterMap_append, submissions, List.flatMap_cons]
    exact hs.submitted_sublist.append (ih hn)
  | stopped _ _ => cases hn

end Taken

section Steps
variable {config : Config} {useBasicAuth : Bool} {route : IngressRoute} {owner : OwnerReference}
  {credentials : Credentials}

theorem resources_steps (h : ownerReference? route = some owner) :
    resources (steps config useBasicAuth route credentials) =
      children useBasicAuth route owner credentials ++ config.shared.resources := by
  simp only [resources, steps, h]
  cases useBasicAuth <;> rfl

theorem submissions_steps (h : ownerReference? route = some owner) :
    submissions (steps config useBasicAuth route credentials) =
      children useBasicAuth route owner credentials := by
  simp only [submissions, steps, h]
  cases useBasicAuth <;> rfl

theorem ensure_mem_steps (h : ownerReference? route = some owner) {m : Middleware}
    (hm : m ∈ config.shared.both) :
    ∃ stage, (stage, .ensure m) ∈ steps config useBasicAuth route credentials := by
  simp only [SharedMiddlewares.both, List.mem_cons, List.not_mem_nil, or_false] at hm
  simp only [steps, h]
  rcases hm with rfl | rfl
  · exact ⟨.activity, by simp⟩
  · exact ⟨.cache, by simp⟩

end Steps

/-- A step for a route that can be referred to submits a child or sees to what is shared. -/
theorem step_of_mem_steps {config : Config} {useBasicAuth : Bool} {route : IngressRoute}
    {owner : OwnerReference} {credentials : Credentials}
    (ho : ownerReference? route = some owner) {stage : Stage} {step : Step}
    (h : (stage, step) ∈ steps config useBasicAuth route credentials) :
    (∃ (k : Kind) (r : Resource k), step = .submit r ∧
        ⟨r⟩ ∈ children useBasicAuth route owner credentials) ∨
      ∃ m ∈ config.shared.both, step = .ensure m := by
  simp only [steps, ho] at h
  cases useBasicAuth <;>
    simp only [List.append_nil, List.cons_append, List.nil_append, if_true, if_false,
      Bool.false_eq_true, List.mem_cons, List.not_mem_nil, Prod.mk.injEq, or_false] at h
  · rcases h with ⟨_, rfl⟩ | ⟨_, rfl⟩ | ⟨_, rfl⟩
    · exact .inl ⟨_, _, rfl, by simp [children]⟩
    · exact .inr ⟨_, by simp [SharedMiddlewares.both], rfl⟩
    · exact .inr ⟨_, by simp [SharedMiddlewares.both], rfl⟩
  · rcases h with ⟨_, rfl⟩ | ⟨_, rfl⟩ | ⟨_, rfl⟩ | ⟨_, rfl⟩ | ⟨_, rfl⟩
    · exact .inl ⟨_, _, rfl, by simp [children]⟩
    · exact .inl ⟨_, _, rfl, by simp [children]⟩
    · exact .inl ⟨_, _, rfl, by simp [children]⟩
    · exact .inr ⟨_, by simp [SharedMiddlewares.both], rfl⟩
    · exact .inr ⟨_, by simp [SharedMiddlewares.both], rfl⟩

/-- Conflicts do not come from elsewhere where they would be ignored. -/
def Spares (may : Interference) (shared : SharedMiddlewares) : Prop :=
  shared.ignoreConflicts = true → ∀ m ∈ shared.both, ∀ failure,
    may (.create m) failure → failure.isConflict = false

section Ensured
variable {may : Interference} {ignoreConflicts : Bool} {deadline : Instant} {c c' : Cluster}
  {t : List Exchange} {m : Middleware}

/-- Whatever an ignored conflict says, there is a middleware under the key then. -/
theorem Step.Plays.find?_ne_none (h : (Step.ensure m).Plays ignoreConflicts deadline t none)
    (hs : c.Serves may t c')
    (hm : ignoreConflicts = true → ∀ failure, may (.create m) failure → failure.isConflict = false) :
    c'.find? .middleware m.key ≠ none := by
  cases h with
  | found m m' =>
    obtain ⟨c₁, hget, rfl⟩ := hs
    obtain ⟨rfl, ⟨r, _, hr⟩ | ⟨failure, hne, _⟩⟩ := Cluster.meets_get hget
    · have hkey : c'.find? .middleware m.key = some r := hr
      rw [hkey]
      exact Option.some_ne_none r
    · cases hne
  | made m m' failure hf =>
    obtain ⟨c₁, hget, c₂, hcreate, rfl⟩ := hs
    obtain ⟨rfl, _⟩ := Cluster.meets_get hget
    rcases Cluster.meets_create hcreate with ⟨_, hne, _⟩ | ⟨_, _, rfl⟩
    · cases hne
    · rw [Cluster.find?_grown_self]
      exact Option.some_ne_none _
  | ignored m failure conflict hf hi hc =>
    obtain ⟨c₁, hget, c₂, hcreate, rfl⟩ := hs
    obtain ⟨rfl, _⟩ := Cluster.meets_get hget
    rcases Cluster.meets_create hcreate with ⟨_, he, rfl, hmay | hfound⟩ | ⟨_, hne, _⟩
    · cases he
      rw [hm hi conflict hmay] at hc
      cases hc
    · exact hfound.1
    · cases hne

theorem Taken.find?_ne_none {steps : List (Stage × Step)} {stage : Stage}
    (h : Taken ignoreConflicts deadline steps t none) (hs : c.Serves may t c')
    (hm : ignoreConflicts = true → ∀ failure, may (.create m) failure → failure.isConflict = false)
    (hmem : (stage, .ensure m) ∈ steps) : c'.find? .middleware m.key ≠ none := by
  generalize hn : (none : Option (Stage × Failure)) = e at h
  induction h generalizing c with
  | finished => cases hmem
  | passed hp ht ih =>
    obtain ⟨c₁, hs₁, hs₂⟩ := Cluster.serves_append.1 hs
    rcases List.mem_cons.1 hmem with he | hmem
    · cases he
      obtain ⟨x, hx⟩ := Option.ne_none_iff_exists'.1 (hp.find?_ne_none hs₁ hm)
      have hgrows := Cluster.grows_of_serves hs₂ ht.verb_ne_delete
      rw [hgrows.find?_of_some hx]
      exact Option.some_ne_none x
    · exact ih hs₂ hmem hn
  | stopped _ _ => cases hn

end Ensured

/-- The exchanges created a route and then failed to delete it. -/
def LeavesBehind (t : List Exchange) (route : IngressRoute) : Prop :=
  (∃ submitted deadline, ⟨.create submitted, deadline, .ok route⟩ ∈ t) ∧
    ∃ deadline failure, ⟨.delete .ingressRoute route.metadata.namespaceOrEmpty route.displayName,
      deadline, .error failure⟩ ∈ t

/-- A route was created, and after it a part of what it needs. -/
structure Begun (config : Config) (useBasicAuth : Bool) (submitted : IngressRoute) (c : Cluster)
    (owner : OwnerReference) (credentials : Credentials) (rs : List AnyResource) (c' : Cluster) :
    Prop where
  free : c.find? .ingressRoute submitted.key = none
  ownerReference : ownerReference? (c.made submitted) = some owner
  part : rs.Sublist
    (children useBasicAuth (c.made submitted) owner credentials ++ config.shared.resources)
  grows : (c.grown submitted).Grows rs c'

theorem Begun.find?_route {config : Config} {useBasicAuth : Bool} {submitted : IngressRoute}
    {c c' : Cluster} {owner : OwnerReference} {credentials : Credentials} {rs : List AnyResource}
    (h : Begun config useBasicAuth submitted c owner credentials rs c') :
    c'.find? .ingressRoute submitted.key = some (c.made submitted) :=
  h.grows.find?_of_some (Cluster.find?_grown_self c submitted)

/-- The cluster after a creation, what the creation gives, and the route that it
leaves behind, if it does. -/
inductive Outcome (may : Interference) (config : Config) (useBasicAuth : Bool)
    (submitted : IngressRoute) (c : Cluster) :
    Cluster → Except Failure Created → Option IngressRoute → Prop
  | unmade (failure : Failure) : Outcome _ _ _ _ _ c (.error failure) none
  | completed {owner : OwnerReference} {credentials : Credentials} {rs : List AnyResource}
      {c' : Cluster} (h : Begun config useBasicAuth submitted c owner credentials rs c')
      (hchildren : (children useBasicAuth (c.made submitted) owner credentials).Sublist rs)
      (hshared : Spares may config.shared →
        ∀ m ∈ config.shared.both, c'.find? .middleware m.key ≠ none) :
    Outcome _ _ _ _ _ c'
      (.ok ⟨c.made submitted, if useBasicAuth then some credentials else none⟩) none
  | takenBack {owner : OwnerReference} {credentials : Credentials} {rs : List AnyResource}
      {c' : Cluster} (failure : Failure)
      (h : Begun config useBasicAuth submitted c owner credentials rs c') :
    Outcome _ _ _ _ _ (c'.without submitted.key (c.made submitted)) (.error failure) none
  | leftBehind {owner : OwnerReference} {credentials : Credentials} {rs : List AnyResource}
      {c' : Cluster} (failure : Failure)
      (h : Begun config useBasicAuth submitted c owner credentials rs c') :
    Outcome _ _ _ _ _ c' (.error failure) (some (c.made submitted))

/-- A named route that has been created here can be referred to. -/
theorem exists_ownerReference?_made (c : Cluster) {route : IngressRoute}
    (h : route.metadata.name ≠ none) :
    ∃ owner, ownerReference? (c.made route) = some owner ∧
      owner.uid = Cluster.uid (c.created + 1) := by
  obtain ⟨name, hname⟩ := Option.ne_none_iff_exists'.1 h
  refine ⟨⟨Kind.ingressRoute.apiVersion, Kind.ingressRoute.name, name,
    Cluster.uid (c.created + 1), none, some true⟩, ?_, rfl⟩
  simp [ownerReference?, Cluster.made, Resource.stored, Resource.withUid, hname]

/-- What is made after a route, so long as nothing is deleted, is a part of what it needs. -/
theorem begun_of_serves {may : Interference} {config : Config} {useBasicAuth : Bool}
    {submitted route : IngressRoute} {deadline : Instant} {credentials : Credentials}
    {t : List Exchange} {c c' : Cluster}
    (hs : c.Serves may (⟨.create submitted, deadline, .ok route⟩ :: t) c')
    (hname : submitted.metadata.name ≠ none) (hdelete : ∀ y ∈ t, y.call.verb ≠ .delete)
    (hrs : (t.filterMap Exchange.made?).Sublist
      (resources (steps config useBasicAuth route credentials))) :
    ∃ owner, route = c.made submitted ∧
      Begun config useBasicAuth submitted c owner credentials (t.filterMap Exchange.made?) c' := by
  obtain ⟨owner, howner, _⟩ := exists_ownerReference?_made c hname
  obtain ⟨c₁, hcreate, hs⟩ := hs
  rcases Cluster.meets_create hcreate with ⟨_, hne, _⟩ | ⟨hfree, he, rfl⟩
  · cases hne
  cases he
  rw [resources_steps howner] at hrs
  exact ⟨owner, rfl, hfree, howner, hrs, Cluster.grows_of_serves hs hdelete⟩

/-- A saga that a cluster serves has one of the outcomes. -/
theorem outcome_of_saga {may : Interference} {config : Config} {useBasicAuth : Bool}
    {submitted : IngressRoute} {deadline : Instant} {t : List Exchange}
    {r : Except Failure Created} {c c' : Cluster}
    (h : Saga config useBasicAuth submitted deadline t r) (hs : c.Serves may t c')
    (hname : submitted.metadata.name ≠ none) :
    ∃ left, Outcome may config useBasicAuth submitted c c' r left ∧
      ∀ route, left = some route → LeavesBehind t route := by
  cases h with
  | refused failure =>
    obtain ⟨c₁, hcreate, rfl⟩ := hs
    rcases Cluster.meets_create hcreate with ⟨_, _, rfl, _⟩ | ⟨_, hne, _⟩
    · exact ⟨none, .unmade failure, fun _ hl => nomatch hl⟩
    · cases hne
  | completed route credentials ht =>
    obtain ⟨owner, rfl, hbegun⟩ := begun_of_serves hs hname ht.verb_ne_delete ht.made_sublist
    have howner := hbegun.ownerReference
    have hchildren := ht.submissions_sublist
    rw [submissions_steps howner] at hchildren
    refine ⟨none, .completed hbegun hchildren ?_, fun _ hl => nomatch hl⟩
    intro hspares m hm
    obtain ⟨c₁, _, hs⟩ := hs
    obtain ⟨stage, hmem⟩ := ensure_mem_steps howner hm
    exact ht.find?_ne_none hs (fun hi => hspares hi m hm) hmem
  | takenBack route credentials ht now deleted =>
    obtain ⟨c₁, hs, c₂, hdelete, rfl⟩ := Cluster.serves_append.1 hs
    obtain ⟨owner, rfl, hbegun⟩ := begun_of_serves hs hname ht.verb_ne_delete ht.made_sublist
    rcases Cluster.meets_delete_route hdelete with ⟨deleteFailure, rfl, rfl, _⟩ | ⟨x, hx, rfl, rfl⟩
    · refine ⟨_, .leftBehind deleteFailure hbegun, ?_⟩
      intro route hroute
      cases hroute
      exact ⟨⟨submitted, deadline, List.mem_cons_self⟩, _, deleteFailure,
        List.mem_append_right _ List.mem_cons_self⟩
    · have hkey : (⟨(c.made submitted).metadata.namespaceOrEmpty,
          (c.made submitted).displayName⟩ : Key) = submitted.key := Cluster.key_made c submitted
      rw [hkey, hbegun.find?_route] at hx
      cases hx
      rw [hkey]
      exact ⟨none, .takenBack _ hbegun, fun _ hl => nomatch hl⟩

end Endpoint

end TenantEndpoints
