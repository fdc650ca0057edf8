import TenantEndpoints.Proofs.Endpoint.Course

/-!
# Creations without interference

When no call fails but for what the cluster says, a creation under a free key
succeeds if it finds the keys of all children free as well, and one under a taken key
is in conflict and changes nothing. Where everything is owned, the keys of the children
are free if that of the route is.
-/
namespace TenantEndpoints.Endpoint

section Calm
variable {ignoreConflicts : Bool} {deadline : Instant} {c c' : Cluster} {t : List Exchange}

/-- Seeing to a shared middleware does not fail, and creates at most that. -/
theorem Step.Plays.ensured {m : Middleware} {ended : Option Failure}
    (h : (Step.ensure m).Plays ignoreConflicts deadline t ended) (hs : c.Serves .none t c') :
    ended = none ∧ (c' = c ∨ c.find? .middleware m.key = none ∧ c' = c.grown m) := by
  have hget {failure : Failure} {t' : List Exchange}
      (hs : c.Serves .none
        (⟨.get .middleware m.key.ns m.key.name, deadline, .error failure⟩ :: t') c') :
      failure.isNotFound = true ∧ c.find? .middleware m.key = none ∧ c.Serves .none t' c' := by
    obtain ⟨c₁, hmeets, hrest⟩ := hs
    obtain ⟨rfl, ⟨r, hne, _⟩ | ⟨failure', he, hmay | ⟨hnone, rfl⟩⟩⟩ := Cluster.meets_get hmeets
    · cases hne
    · exact hmay.elim
    · cases he
      exact ⟨rfl, hnone, hrest⟩
  have hcreate {outcome : Except Failure Middleware} (hfree : c.find? .middleware m.key = none)
      (hs : c.Serves .none [⟨.create m, deadline, outcome⟩] c') :
      (∃ m', outcome = .ok m') ∧ c' = c.grown m := by
    obtain ⟨c₁, hmeets, rfl⟩ := hs
    rcases Cluster.meets_create hmeets with ⟨_, _, _, hmay | hfound⟩ | ⟨_, he, hc⟩
    · exact hmay.elim
    · exact absurd hfree hfound.1
    · exact ⟨⟨_, he⟩, hc⟩
  cases h with
  | found m m' =>
    obtain ⟨c₁, hmeets, rfl⟩ := hs
    exact ⟨rfl, .inl (Cluster.meets_get hmeets).1⟩
  | unclear m failure hf =>
    obtain ⟨hnf, _⟩ := hget hs
    rw [hf] at hnf
    cases hnf
  | made m m' failure hf =>
    obtain ⟨_, hfree, hs⟩ := hget hs
    exact ⟨rfl, .inr ⟨hfree, (hcreate hfree hs).2⟩⟩
  | ignored m failure conflict hf hi hc =>
    obtain ⟨_, hfree, hs⟩ := hget hs
    obtain ⟨⟨m', he⟩, _⟩ := hcreate hfree hs
    cases he
  | failed m failure refusal hf hr =>
    obtain ⟨_, hfree, hs⟩ := hget hs
    obtain ⟨⟨m', he⟩, _⟩ := hcreate hfree hs
    cases he

/-- Submitting a resource under a free key does not fail. -/
theorem Step.Plays.submitted_of_free {k : Kind} {r : Resource k} {ended : Option Failure}
    (h : (Step.submit r).Plays ignoreConflicts deadline t ended) (hs : c.Serves .none t c')
    (hfree : c.find? k r.key = none) : ended = none ∧ c' = c.grown r := by
  cases h with
  | submitted r r' =>
    obtain ⟨c₁, hmeets, rfl⟩ := hs
    rcases Cluster.meets_create hmeets with ⟨_, hne, _⟩ | ⟨_, _, hc⟩
    · cases hne
    · exact ⟨rfl, hc⟩
  | refused r failure =>
    obtain ⟨c₁, hmeets, rfl⟩ := hs
    rcases Cluster.meets_create hmeets with ⟨_, _, _, hmay | hfound⟩ | ⟨_, hne, _⟩
    · exact hmay.elim
    · exact absurd hfree hfound.1
    · cases hne

/-- A step that has hope and finds its key free is passed. -/
theorem Step.Plays.passed_of_free {step : Step} {ended : Option Failure}
    (h : step.Plays ignoreConflicts deadline t ended) (hs : c.Serves .none t c')
    (hhope : ∀ failure, step ≠ .hopeless failure)
    (hfree : ∀ {k : Kind} {r : Resource k}, step.submitted? = some ⟨r⟩ → c.find? k r.key = none) :
    ended = none ∧ (c' = c ∨ ∃ (k : Kind) (r : Resource k), step.resource? = some ⟨r⟩ ∧
      c' = c.grown r) := by
  cases step with
  | hopeless failure => exact absurd rfl (hhope failure)
  | submit r =>
    obtain ⟨hended, hc⟩ := h.submitted_of_free hs (hfree rfl)
    exact ⟨hended, .inr ⟨_, r, rfl, hc⟩⟩
  | ensure m =>
    obtain ⟨hended, hc | ⟨_, hc⟩⟩ := h.ensured hs
    · exact ⟨hended, .inl hc⟩
    · exact ⟨hended, .inr ⟨_, m, rfl, hc⟩⟩

theorem submissions_subset (steps : List (Stage × Step)) :
    ∀ r ∈ submissions steps, r ∈ resources steps := by
  intro r hr
  obtain ⟨⟨stage, step⟩, hstep, hr⟩ := List.mem_flatMap.1 hr
  refine List.mem_flatMap.2 ⟨(stage, step), hstep, ?_⟩
  cases step with
  | hopeless failure => cases hr
  | submit x => exact hr
  | ensure m => cases hr

/-- Steps that all have hope and find their keys free are passed. -/
theorem Taken.passed_of_free {steps : List (Stage × Step)} {ended : Option (Stage × Failure)}
    (h : Taken ignoreConflicts deadline steps t ended) (hs : c.Serves .none t c')
    (hhope : ∀ s ∈ steps, ∀ failure, s.2 ≠ .hopeless failure)
    (hplaces : ((resources steps).map place).Nodup)
    (hfree : ∀ {k : Kind} {r : Resource k}, ⟨r⟩ ∈ submissions steps → c.find? k r.key = none) :
    ended = none := by
  have hfirst {stage : Stage} {step : Step} {steps : List (Stage × Step)} {c : Cluster}
      (hfree : ∀ {k : Kind} {r : Resource k}, ⟨r⟩ ∈ submissions ((stage, step) :: steps) →
        c.find? k r.key = none) {k : Kind} {r : Resource k}
      (hr : step.submitted? = some ⟨r⟩) : c.find? k r.key = none := by
    apply hfree
    rw [submissions, List.flatMap_cons, hr]
    exact List.mem_cons_self
  induction h generalizing c with
  | finished => rfl
  | @passed stage step steps t t' ended hp ht ih =>
    obtain ⟨c₁, hs₁, hs₂⟩ := Cluster.serves_append.1 hs
    obtain ⟨hhope₁, hhope₂⟩ := List.forall_mem_cons.1 hhope
    obtain ⟨_, hc⟩ := hp.passed_of_free hs₁ hhope₁ (hfirst hfree)
    rw [resources, List.flatMap_cons, List.map_append, List.nodup_append] at hplaces
    refine ih hs₂ hhope₂ hplaces.2.1 fun {k r} hr => ?_
    have hold : c.find? k r.key = none := hfree (by
      rw [submissions, List.flatMap_cons]
      exact List.mem_append_right _ hr)
    rcases hc with rfl | ⟨k', x, hx, rfl⟩
    · exact hold
    · rw [Cluster.find?_grown_of_ne c x, hold]
      rintro rfl hkey
      have hmem := submissions_subset steps _ hr
      refine hplaces.2.2 (place ⟨x⟩) ?_ _ (List.mem_map_of_mem hmem) (congrArg (Prod.mk k) hkey.symm)
      rw [hx]
      exact List.mem_cons_self
  | stopped steps hp =>
    obtain ⟨hended, _⟩ := hp.passed_of_free hs (List.forall_mem_cons.1 hhope).1 (hfirst hfree)
    cases hended

end Calm

section Saga
variable {config : Config} {useBasicAuth : Bool} {submitted : IngressRoute} {deadline : Instant}
  {t : List Exchange} {c c' : Cluster} {exempt : Key → Prop}

/-- The steps for a route are passed if the keys of its children were free before. -/
theorem steps_of_free {credentials : Credentials} {ended : Option (Stage × Failure)}
    (h : Taken config.shared.ignoreConflicts deadline
      (steps config useBasicAuth (c.made submitted) credentials) t ended)
    (hs : (c.grown submitted).Serves .none t c') (hname : submitted.metadata.name ≠ none)
    (hfree : ∀ {k : Kind} {r : Resource k}, ChildOf (c.made submitted) r → c.find? k r.key = none) :
    ended = none := by
  obtain ⟨owner, howner, _⟩ := exists_ownerReference?_made c hname
  refine h.passed_of_free hs ?_ ?_ ?_
  · simp only [steps, howner]
    cases useBasicAuth <;> simp
  · rw [resources_steps howner]
    exact nodup_places howner
  · intro k r hr
    rw [submissions_steps howner] at hr
    have hchild := childOf_of_mem_children howner hr
    rw [Cluster.find?_grown_of_ne c submitted, hfree hchild]
    rintro rfl
    obtain ⟨derive, hd, _⟩ := hchild.name
    cases hd

/-- A saga that finds the keys of its route and of the route's children free is completed. -/
theorem saga_of_free {r : Except Failure Created}
    (h : Saga config useBasicAuth submitted deadline t r) (hs : c.Serves .none t c')
    (hname : submitted.metadata.name ≠ none)
    (hroute : c.find? .ingressRoute submitted.key = none)
    (hfree : ∀ {k : Kind} {r : Resource k}, ChildOf (c.made submitted) r → c.find? k r.key = none) :
    ∃ owner credentials rs,
      Begun config useBasicAuth submitted c owner credentials rs c' ∧
      (children useBasicAuth (c.made submitted) owner credentials).Sublist rs ∧
      (∀ m ∈ config.shared.both, c'.find? .middleware m.key ≠ none) ∧
      r = .ok ⟨c.made submitted, if useBasicAuth then some credentials else none⟩ := by
  obtain ⟨left, houtcome, _⟩ := outcome_of_saga h hs hname
  cases h with
  | refused failure =>
    obtain ⟨c₁, hcreate, rfl⟩ := hs
    rcases Cluster.meets_create hcreate with ⟨_, _, _, hmay | hfound⟩ | ⟨_, hne, _⟩
    · exact hmay.elim
    · exact absurd hroute hfound.1
    · cases hne
  | completed route credentials ht =>
    generalize hr : (Except.ok _ : Except Failure Created) = r at houtcome ⊢
    cases houtcome with
    | completed hbegun hchildren hshared =>
      exact ⟨_, _, _, hbegun, hchildren, hshared fun _ _ _ _ hmay => hmay.elim, rfl⟩
    | unmade | takenBack | leftBehind => cases hr
  | takenBack route credentials ht now deleted =>
    obtain ⟨c₁, hcreate, hs⟩ := hs
    rcases Cluster.meets_create hcreate with ⟨_, hne, _⟩ | ⟨_, he, rfl⟩
    · cases hne
    cases he
    obtain ⟨c₂, hs, _⟩ := Cluster.serves_append.1 hs
    cases steps_of_free ht hs hname hfree

/-- A saga that finds the key of its route taken does nothing. -/
theorem saga_of_taken {r : Except Failure Created}
    (h : Saga config useBasicAuth submitted deadline t r) (hs : c.Serves .none t c')
    (hroute : c.find? .ingressRoute submitted.key ≠ none) :
    c' = c ∧ r = .error (.taken .ingressRoute submitted.key.ns submitted.key.name) := by
  cases h with
  | refused failure =>
    obtain ⟨c₁, hcreate, rfl⟩ := hs
    rcases Cluster.meets_create hcreate with ⟨_, he, hc, hmay | ⟨_, hf⟩⟩ | ⟨_, hne, _⟩
    · exact hmay.elim
    · cases he
      exact ⟨hc, by rw [hf]⟩
    · cases hne
  | completed | takenBack =>
    obtain ⟨c₁, hcreate, _⟩ := hs
    rcases Cluster.meets_create hcreate with ⟨_, hne, _⟩ | ⟨hfree, _⟩
    · cases hne
    · exact absurd hfree hroute

/-- What comes of a saga without interference. Where the key of its route is free the keys of
its children are, too: under that of the route each would have a parent. -/
theorem saga_calm {r : Except Failure Created}
    (h : Saga config useBasicAuth submitted deadline t r) (hs : c.Serves .none t c')
    (hname : submitted.metadata.name ≠ none) (howned : Owned exempt c)
    (hexempt : Exempts config.shared exempt) :
    (c.find? .ingressRoute submitted.key ≠ none ∧ c' = c ∧
        r = .error (.taken .ingressRoute submitted.key.ns submitted.key.name)) ∨
      ∃ owner credentials rs,
        Begun config useBasicAuth submitted c owner credentials rs c' ∧
        (children useBasicAuth (c.made submitted) owner credentials).Sublist rs ∧
        r = .ok ⟨c.made submitted, if useBasicAuth then some credentials else none⟩ := by
  by_cases hroute : c.find? .ingressRoute submitted.key = none
  · have hfree {k : Kind} {r : Resource k} (hchild : ChildOf (c.made submitted) r) :
        c.find? k r.key = none := howned.find?_child hexempt.underived hchild hroute
    obtain ⟨owner, credentials, rs, hbegun, hchildren, _, hr⟩ := saga_of_free h hs hname hroute hfree
    exact .inr ⟨owner, credentials, rs, hbegun, hchildren, hr⟩
  · exact .inl ⟨hroute, saga_of_taken h hs hroute⟩

end Saga

end TenantEndpoints.Endpoint
