import Mathlib.Data.List.Forall2
import TenantEndpoints.Proofs.Endpoint.Credentials
import TenantEndpoints.Proofs.Endpoint.Routing

/-!
# Resources that are alike

Two texts that were drawn may differ, and so may what is made of them: a public
id begins with a token, and credentials are drawn as a whole. Resources are alike
if they differ in nothing else. What is read from alike resources again is alike,
although it is read from the text of a rule or from the bytes of a secret.
-/
namespace TenantEndpoints

/-- Two texts of one length that may have been drawn. -/
structure Drawn (drawn drawn' : List Char) : Prop where
  length_eq : drawn.length = drawn'.length
  left : ∀ c ∈ drawn, c ∈ RandomSource.alphabet
  right : ∀ c ∈ drawn', c ∈ RandomSource.alphabet

theorem Drawn.nil : Drawn [] [] := ⟨rfl, List.forall_mem_nil _, List.forall_mem_nil _⟩

/-- Two outcomes are the same failure, or successes that are related. -/
inductive OutcomeAlike (R : α → β → Prop) : Except ε α → Except ε β → Prop
  | error (e : ε) : OutcomeAlike R (.error e) (.error e)
  | ok {a : α} {b : β} (h : R a b) : OutcomeAlike R (.ok a) (.ok b)

theorem OutcomeAlike.refl {R : α → α → Prop} (h : ∀ a, R a a) (x : Except ε α) :
    OutcomeAlike R x x := by
  cases x with
  | error e => exact .error e
  | ok a => exact .ok (h a)

theorem OutcomeAlike.mapError {R : α → β → Prop} {x : Except ε α} {x' : Except ε β}
    (h : OutcomeAlike R x x') (f : ε → ε') : OutcomeAlike R (x.mapError f) (x'.mapError f) := by
  cases h with
  | error e => exact .error (f e)
  | ok h => exact .ok h

/-- Ids that begin with different tokens and go on alike. -/
inductive PublicId.Alike : String → String → Prop
  | ofDrawn {token token' : List Char} (h : Drawn token token') (rest : List Char) :
    PublicId.Alike (String.ofList (token.map Char.toLower ++ rest))
      (String.ofList (token'.map Char.toLower ++ rest))

theorem PublicId.Alike.refl (id : String) : PublicId.Alike id id := by
  have h := PublicId.Alike.ofDrawn Drawn.nil id.toList
  rwa [List.map_nil, List.nil_append, String.ofList_toList] at h

/-- The same credentials, or credentials that were drawn. -/
inductive Credentials.Alike : Credentials → Credentials → Prop
  | same (c : Credentials) : Credentials.Alike c c
  | drawn {user user' password password' : List Char} (huser : Drawn user user')
      (hpassword : Drawn password password') :
    Credentials.Alike ⟨String.ofList user, String.ofList password⟩
      ⟨String.ofList user', String.ofList password'⟩

/-- The same rule, or rules for alike ids on one host. -/
inductive RouteRule.Alike : RouteRule → RouteRule → Prop
  | same (r : RouteRule) : RouteRule.Alike r r
  | made {id id' : String} (h : PublicId.Alike id id') (host : String)
      (middlewares : List ObjectRef) (services : List BackendService) :
    RouteRule.Alike ⟨hostPathText host id, middlewares, services⟩
      ⟨hostPathText host id', middlewares, services⟩

namespace RouteRule.Alike
variable {r r' : RouteRule}

theorem services_eq (h : RouteRule.Alike r r') : r.services = r'.services := by
  cases h <;> rfl

theorem host?_eq (h : RouteRule.Alike r r') : r.host? = r'.host? := by
  cases h with
  | same => rfl
  | made h host middlewares services =>
    obtain ⟨inside, hinside⟩ := exists_between?_hostMark host
    exact (hinside _).trans (hinside _).symm

/-- The path prefixes that are read are alike: if they are read from the ids at all,
then the tokens are read as they are, because there is no backtick in them. -/
theorem pathPrefix? (h : RouteRule.Alike r r') :
    Option.Rel PublicId.Alike r.pathPrefix? r'.pathPrefix? := by
  cases h with
  | same =>
    cases r.pathPrefix? with
    | none => exact .none
    | some id => exact .some (.refl id)
  | made h host middlewares services =>
    cases h with
    | @ofDrawn token token' h rest =>
      by_cases hmark : prefixMark <:+: host.toList
      · obtain ⟨inside, hinside⟩ := exists_between?_prefixMark hmark
        simp only [RouteRule.pathPrefix?, hinside]
        exact .some (.refl inside)
      · obtain ⟨inside, hinside⟩ := exists_between?_segment hmark rest
        have hleft := PublicId.backtick_not_mem_toLower h.left
        have hright := PublicId.backtick_not_mem_toLower h.right
        simp only [RouteRule.pathPrefix?, hinside _ hleft, hinside _ hright]
        exact .some (.ofDrawn h inside)

end RouteRule.Alike

structure RouteSpec.Alike (s s' : RouteSpec) : Prop where
  entryPoints_eq : s.entryPoints = s'.entryPoints
  rules : List.Forall₂ RouteRule.Alike s.rules s'.rules
  tls_eq : s.tls = s'.tls

/-- The same middleware, or ones that strip alike ids. -/
inductive MiddlewareSpec.Alike : MiddlewareSpec → MiddlewareSpec → Prop
  | same (s : MiddlewareSpec) : MiddlewareSpec.Alike s s
  | stripPrefix {ids ids' : List String} (h : List.Forall₂ PublicId.Alike ids ids') :
    MiddlewareSpec.Alike (.stripPrefix (ids.map ("/" ++ ·))) (.stripPrefix (ids'.map ("/" ++ ·)))

/-- The same secret, or ones with alike credentials, as submitted or as stored. -/
inductive SecretSpec.Alike : SecretSpec → SecretSpec → Prop
  | same (s : SecretSpec) : SecretSpec.Alike s s
  | submitted {c c' : Credentials} (h : Credentials.Alike c c') :
    SecretSpec.Alike (.ofCredentials c) (.ofCredentials c')
  | stored {c c' : Credentials} (h : Credentials.Alike c c') :
    SecretSpec.Alike (SecretSpec.ofCredentials c).stored (SecretSpec.ofCredentials c').stored

theorem SecretSpec.Alike.store {s s' : SecretSpec} (h : SecretSpec.Alike s s') :
    SecretSpec.Alike s.stored s'.stored := by
  cases h with
  | same => exact .same _
  | submitted h => exact .stored h
  | stored h => exact .stored h

/-- What resources of a kind have beside their metadata is alike. -/
def Kind.SpecAlike : (k : Kind) → k.Spec → k.Spec → Prop
  | .ingressRoute => RouteSpec.Alike
  | .middleware => MiddlewareSpec.Alike
  | .secret => SecretSpec.Alike
  | .service => Eq

theorem Kind.SpecAlike.refl {k : Kind} (s : k.Spec) : k.SpecAlike s s := by
  cases k with
  | ingressRoute => exact ⟨rfl, List.forall₂_same.2 fun r _ => .same r, rfl⟩
  | middleware => exact MiddlewareSpec.Alike.same s
  | secret => exact SecretSpec.Alike.same s
  | service => exact Eq.refl s

/-- Resources that differ only in ids and credentials that were drawn. -/
structure Resource.Alike {k : Kind} (r r' : Resource k) : Prop where
  metadata_eq : r.metadata = r'.metadata
  spec : k.SpecAlike r.spec r'.spec

namespace Resource.Alike
variable {k : Kind} {r r' : Resource k}

theorem refl (r : Resource k) : r.Alike r := ⟨rfl, .refl r.spec⟩

theorem displayName_eq (h : r.Alike r') : r.displayName = r'.displayName :=
  congrArg Metadata.displayName h.metadata_eq

theorem labels_eq (h : r.Alike r') : r.labels = r'.labels :=
  congrArg Metadata.labelMap h.metadata_eq

theorem key_eq (h : r.Alike r') : r.key = r'.key := by
  rw [Resource.key, Resource.key, h.metadata_eq, h.displayName_eq]

theorem stored (h : r.Alike r') : r.stored.Alike r'.stored := by
  refine ⟨by simp only [metadata_stored, h.metadata_eq], ?_⟩
  cases k with
  | ingressRoute | middleware | service => exact h.spec
  | secret => exact SecretSpec.Alike.store h.spec

theorem withUid (h : r.Alike r') (uid : String) : (r.withUid uid).Alike (r'.withUid uid) :=
  ⟨by simp only [Resource.withUid, h.metadata_eq], h.spec⟩

/-- Nothing of a service is drawn. -/
theorem eq_of_service {s s' : Service} (h : s.Alike s') : s = s' := by
  obtain ⟨metadata, spec⟩ := s
  obtain ⟨metadata', spec'⟩ := s'
  obtain ⟨hmetadata, hspec⟩ := h
  cases hmetadata
  cases (hspec : spec = spec')
  rfl

end Resource.Alike

/-- Alike secrets are read alike, in whichever form they are. -/
theorem Credentials.ofSecret_alike {s s' : Secret} (h : s.Alike s') :
    OutcomeAlike Credentials.Alike (ofSecret s) (ofSecret s') := by
  obtain ⟨metadata, spec⟩ := s
  obtain ⟨metadata', spec'⟩ := s'
  obtain ⟨hmetadata, hspec⟩ := h
  cases (hspec : SecretSpec.Alike spec spec') with
  | same =>
    cases hmetadata
    exact .refl Credentials.Alike.same _
  | submitted hc =>
    rw [ofSecret_of_spec (.inl rfl), ofSecret_of_spec (.inl rfl)]
    exact .ok hc
  | stored hc =>
    rw [ofSecret_of_spec (.inr rfl), ofSecret_of_spec (.inr rfl)]
    exact .ok hc

namespace Endpoint

structure ExposedPort.Alike (p p' : ExposedPort) : Prop where
  publicId : PublicId.Alike p.publicId p'.publicId
  portName_eq : p.portName = p'.portName

section Routes
variable {route route' : IngressRoute}

theorem exposedPorts_alike (h : route.Alike route') :
    List.Forall₂ ExposedPort.Alike (exposedPorts route) (exposedPorts route') := by
  refine List.rel_filterMap (fun r r' hr => ?_) h.spec.rules
  have hprefix := hr.pathPrefix?
  generalize r.pathPrefix? = id?, r'.pathPrefix? = id?' at hprefix
  rw [hr.services_eq]
  cases hprefix with
  | none => exact .none
  | some hid =>
    cases r'.services.head? with
    | none => exact .none
    | some service => exact .some ⟨hid, rfl⟩

theorem ownerReference?_eq (h : route.Alike route') :
    ownerReference? route = ownerReference? route' := by
  simp only [ownerReference?, h.metadata_eq]

theorem ownedMetadata_eq (h : route.Alike route') (name : String) (owner : OwnerReference) :
    ownedMetadata route name owner = ownedMetadata route' name owner := by
  simp only [ownedMetadata, h.metadata_eq]

theorem stripPrefix_alike (h : route.Alike route') (owner : OwnerReference) :
    (stripPrefix route owner).Alike (stripPrefix route' owner) := by
  refine ⟨?_, MiddlewareSpec.Alike.stripPrefix ?_⟩
  · rw [stripPrefix, stripPrefix, ownedMetadata_eq h, h.displayName_eq]
  · exact List.rel_filterMap (fun r r' hr => hr.pathPrefix?) h.spec.rules

theorem basicAuth_alike (h : route.Alike route') (owner : OwnerReference) :
    (basicAuth route owner).Alike (basicAuth route' owner) := by
  rw [basicAuth, basicAuth, ownedMetadata_eq h, h.displayName_eq]
  exact .refl _

theorem basicAuthSecret_alike (h : route.Alike route') (owner : OwnerReference)
    {c c' : Credentials} (hc : c.Alike c') :
    (basicAuthSecret route owner c).Alike (basicAuthSecret route' owner c') := by
  refine ⟨?_, SecretSpec.Alike.submitted hc⟩
  rw [basicAuthSecret, basicAuthSecret, ownedMetadata_eq h, h.displayName_eq]

end Routes

end Endpoint

end TenantEndpoints
