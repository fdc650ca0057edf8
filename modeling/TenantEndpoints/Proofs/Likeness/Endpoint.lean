import TenantEndpoints.Proofs.Likeness.Program

/-!
# Endpoints that are alike

What is drawn for an endpoint goes into its rules, into the prefixes to strip and
into its secret, and it goes no further: no operation on endpoints decides by it
what to do next, names a resource after it, or tells of it.
-/
namespace TenantEndpoints

/-- Texts that were drawn. -/
inductive DrawnText : String → String → Prop
  | ofDrawn {l l' : List Char} (h : Drawn l l') : DrawnText (String.ofList l) (String.ofList l')

theorem PublicId.drawText_alike (length : Nat) :
    Program.Alike DrawnText (drawText length) (drawText length) :=
  (Program.Alike.perform (.draw length)).bind fun _ _ h => .done (.ofDrawn h)

theorem PublicId.allocate_alike (length count : Nat) (tenant : String) :
    Program.Alike (List.Forall₂ PublicId.Alike) (allocate length count tenant)
      (allocate length count tenant) := by
  induction count with
  | zero => exact .done .nil
  | succ count ih =>
    refine (Program.Alike.perform (.draw length)).bind fun _ _ htoken => ?_
    exact ih.bind fun _ _ hids => .done (.cons (.ofDrawn htoken _) hids)

theorem Credentials.generate_alike : Program.Alike Credentials.Alike generate generate := by
  refine (PublicId.drawText_alike length).bind fun _ _ huser => ?_
  refine (PublicId.drawText_alike length).bind fun _ _ hpassword => ?_
  cases huser with
  | ofDrawn huser =>
    cases hpassword with
    | ofDrawn hpassword => exact .done (.drawn huser hpassword)

namespace SharedMiddlewares

theorem ensureExists_alike (name ns : String) (build : Except Failure Middleware)
    (ignoreConflicts : Bool) (deadline : Instant) :
    Attempt.Alike Eq (ensureExists name ns build ignoreConflicts deadline)
      (ensureExists name ns build ignoreConflicts deadline) := by
  refine (Attempt.outcome_alike (.get .middleware ns name) deadline).bind fun _ _ hfound => ?_
  cases hfound with
  | ok => exact .pure rfl
  | error failure =>
    dsimp only
    split
    · exact .done (.error failure)
    · refine (Attempt.ofExcept_alike (.refl Resource.Alike.refl build)).bind fun _ _ hm => ?_
      refine (Attempt.outcome_alike (.create hm) deadline).bind fun _ _ hcreated => ?_
      cases hcreated with
      | ok => exact .lift (.log _)
      | error failure =>
        dsimp only
        split
        · exact .lift (.log _)
        · exact .throw failure

end SharedMiddlewares

namespace Endpoint
variable {route route' : IngressRoute}

theorem zipWith_alike {ids ids' : List String} (h : List.Forall₂ PublicId.Alike ids ids')
    (names : List String) :
    List.Forall₂ ExposedPort.Alike (List.zipWith ExposedPort.mk ids names)
      (List.zipWith ExposedPort.mk ids' names) := by
  induction h generalizing names with
  | nil => exact .nil
  | cons hid _ ih =>
    cases names with
    | nil => exact .nil
    | cons name names => exact .cons ⟨hid, rfl⟩ (ih names)

theorem route_plan_alike (config : Config) (request : EndpointRequest) (service : Service)
    (domain : String) {ports ports' : List ExposedPort}
    (h : List.Forall₂ ExposedPort.Alike ports ports') :
    (plan config request service domain ports).route.Alike
      (plan config request service domain ports').route := by
  refine ⟨rfl, rfl, List.rel_map (fun p p' hp => ?_) h, rfl⟩
  rw [RoutePlan.rule, RoutePlan.rule, hp.portName_eq]
  exact .made hp.publicId (host domain) _ _

theorem atStage_alike {R : α → β → Prop} {a : Attempt α} {b : Attempt β} (h : Attempt.Alike R a b)
    (stage : Stage) : Attempt.Alike R (atStage stage a) (atStage stage b) :=
  h.adapt _

theorem provisionBasicAuth_alike (h : route.Alike route') (owner : OwnerReference)
    (deadline : Instant) :
    Attempt.Alike Credentials.Alike (provisionBasicAuth route owner deadline)
      (provisionBasicAuth route' owner deadline) := by
  refine (Attempt.Alike.lift Credentials.generate_alike).bind fun c c' hc => ?_
  have hsecret := Attempt.call_alike (.create (basicAuthSecret_alike h owner hc)) deadline
  have hmiddleware := Attempt.call_alike (.create (basicAuth_alike h owner)) deadline
  refine (atStage_alike hsecret .secret).bind fun _ _ _ => ?_
  exact (atStage_alike hmiddleware .basicAuth).bind fun _ _ _ => .pure hc

theorem provision_alike (config : Config) (useBasicAuth : Bool) (h : route.Alike route')
    (deadline : Instant) :
    Attempt.Alike (Option.Rel Credentials.Alike) (provision config useBasicAuth route deadline)
      (provision config useBasicAuth route' deadline) := by
  have hshared {c c' : Option Credentials} (hc : Option.Rel Credentials.Alike c c') :
      Attempt.Alike (Option.Rel Credentials.Alike)
        (do atStage .activity (config.shared.ensureActivity deadline)
            atStage .cache (config.shared.ensureCache deadline)
            return c)
        (do atStage .activity (config.shared.ensureActivity deadline)
            atStage .cache (config.shared.ensureCache deadline)
            return c') := by
    refine (atStage_alike (SharedMiddlewares.ensureExists_alike ..) .activity).bind fun _ _ _ => ?_
    refine (atStage_alike (SharedMiddlewares.ensureExists_alike ..) .cache).bind fun _ _ _ => ?_
    exact .pure hc
  unfold provision
  rw [ownerReference?_eq h, h.displayName_eq]
  refine (atStage_alike (Attempt.ofExcept_alike (.refl Eq.refl _)) .stripPrefix).bind
    fun owner _ howner => ?_
  cases howner
  have hstrip := Attempt.call_alike (.create (stripPrefix_alike h owner)) deadline
  refine (atStage_alike hstrip .stripPrefix).bind fun _ _ _ => ?_
  cases useBasicAuth with
  | true =>
    have hcredentials := provisionBasicAuth_alike h owner deadline
    exact (hcredentials.map fun _ _ => .some).bind fun _ _ => hshared
  | false => exact (Attempt.Alike.pure .none).bind fun _ _ => hshared

/-- What is to be deleted is named in the metadata, in which the routes do not differ. -/
theorem compensate_alike (h : route.Alike route') (stage : Stage) (failure : Failure)
    (deadline : Instant) :
    Program.Alike Eq (compensate route stage failure deadline)
      (compensate route' stage failure deadline) := by
  unfold compensate
  rw [h.metadata_eq, h.displayName_eq]
  refine (Program.Alike.log _).bind fun _ _ _ => ?_
  refine (Program.Alike.perform .now).bind fun now _ hnow => ?_
  cases hnow
  refine (Program.Alike.perform (.call (.delete ..) _)).bind fun _ _ hdeleted => ?_
  cases hdeleted with
  | ok => exact .done rfl
  | error failure => exact (Program.Alike.log _).bind fun _ _ _ => .done rfl

structure Created.Alike (c c' : Created) : Prop where
  route : c.route.Alike c'.route
  credentials : Option.Rel Credentials.Alike c.credentials c'.credentials

/-- Until ids are allocated nothing has been drawn, and both sides go on in the same way. All that
is logged of the ports is how many they are. -/
theorem create_alike (config : Config) (request : EndpointRequest) (service : Service)
    (deadline : Instant) :
    Attempt.Alike Created.Alike (create config request service deadline)
      (create config request service deadline) := by
  unfold create
  refine (Attempt.ofExcept_alike (.refl Eq.refl _)).bind fun _ _ _ => ?_
  dsimp only
  split
  · exact .done (.error _)
  refine Attempt.baseUrl_alike.bind fun domain _ hdomain => ?_
  cases hdomain
  refine (Attempt.Alike.lift (PublicId.allocate_alike ..)).bind fun ids ids' hids => ?_
  have hports := zipWith_alike hids (config.ports.eligible service)
  have hsubmitted := route_plan_alike config request service domain hports
  refine (Attempt.call_alike (.create hsubmitted) deadline).bind fun route route' hroute => ?_
  rw [hports.length_eq]
  refine (Attempt.Alike.lift (.log _)).bind fun _ _ _ => ?_
  refine (Attempt.Alike.lift (provision_alike config request.useBasicAuth hroute deadline)).bind
    fun _ _ hprovided => ?_
  cases hprovided with
  | ok hcredentials => exact .pure ⟨hroute, hcredentials⟩
  | error e =>
    refine (Attempt.Alike.lift (compensate_alike hroute e.1 e.2 deadline)).bind
      fun failure _ hfailure => ?_
    cases hfailure
    exact .throw failure

theorem list_alike (ns : String) (selector : Selector) (deadline : Instant) :
    Attempt.Alike (List.Forall₂ Resource.Alike) (list ns selector deadline)
      (list ns selector deadline) :=
  Attempt.call_alike (.list .ingressRoute ns selector) deadline

theorem get_alike (ns name : String) (deadline : Instant) :
    Attempt.Alike Resource.Alike (get ns name deadline) (get ns name deadline) :=
  Attempt.call_alike (.get .ingressRoute ns name) deadline

theorem delete_alike (ns name : String) (deadline : Instant) :
    Attempt.Alike Eq (delete ns name deadline) (delete ns name deadline) := by
  refine (Attempt.call_alike (.delete .ingressRoute ns name) deadline).bind fun _ _ _ => ?_
  exact .lift (.log _)

theorem count_alike (ns : String) (selector : Selector) (deadline : Instant) :
    Attempt.Alike Eq (count ns selector deadline) (count ns selector deadline) :=
  (list_alike ns selector deadline).bind fun _ _ h => .pure h.length_eq

theorem credentials_alike (ns name : String) (deadline : Instant) :
    Attempt.Alike (Option.Rel Credentials.Alike) (credentials ns name deadline)
      (credentials ns name deadline) := by
  refine (Attempt.outcome_alike (.get .secret ns (secretName name)) deadline).bind
    fun _ _ hfound => ?_
  cases hfound with
  | ok hsecret =>
    exact (Attempt.ofExcept_alike ((Credentials.ofSecret_alike hsecret).mapError _)).map
      fun _ _ => .some
  | error failure =>
    dsimp only
    split
    · exact .pure .none
    · exact .throw failure

end Endpoint

end TenantEndpoints
