import TenantEndpoints.CommandLine.Arguments
import TenantEndpoints.Proofs.Endpoint.Calm
import TenantEndpoints.Proofs.Endpoint.Endings
import TenantEndpoints.Proofs.Endpoint.Naming
import TenantEndpoints.Proofs.Endpoint.Routing
import TenantEndpoints.Proofs.Specimen

/-!
# What a program can do that has started

The arguments are looked at once, when the program starts, and a creation relies on them
much later. It asks for a domain, for tokens and for eligible ports. Of the arguments with
which the program starts only an empty domain is in its way: it makes every creation fail
before its first call. With any other, a creation succeeds in all places that are vacant.
-/
namespace TenantEndpoints

namespace Endpoint

section Vacant
variable {config : Config} {creation : Creation} {s : Surroundings} {w : World}
  {domain : String} {ids : List String}

/-- A creation that is not refused fails without a domain, and nothing has been done. -/
theorem run_create_of_no_domain {failure : Failure}
    (hrefusal : refusal? config creation.request creation.service = none)
    (hdomain : s.domain = .error failure) :
    (creation.program config).run s w = ⟨.error failure, w, []⟩ := by
  rw [Creation.program, run_create_eq, hrefusal]
  simp [Program.run, World.perform, hdomain]

theorem value_allocation (config : Config) (creation : Creation) (s : Surroundings) (w : World) :
    (allocation config creation.request creation.service (World.answerer s) w).value =
      (PublicId.tokens s.random w.drawn config.idLength
        (config.ports.eligible creation.service).length).map
          (PublicId.ofToken · creation.request.userId) := by
  rw [← PublicId.value_allocate, Program.run_value_eq_play]
  rfl

/-- Every id is in the text of a rule of its own. -/
theorem texts_submission {request : EndpointRequest} {service : Service}
    (hlength : ids.length = (config.ports.eligible service).length) :
    (submission config request service domain ids).spec.rules.map RouteRule.text =
      ids.map (RouteRule.hostPathText (host domain)) := by
  have hids := publicIds_ports hlength
  calc (submission config request service domain ids).spec.rules.map RouteRule.text
      = (List.zipWith ExposedPort.mk ids (config.ports.eligible service)).map
          (RouteRule.hostPathText (host domain) ∘ ExposedPort.publicId) := by
        simp only [submission, RoutePlan.route, List.map_map]
        rfl
    _ = ids.map (RouteRule.hostPathText (host domain)) := by rw [← List.map_map, hids]

/-- In places that are vacant, and with a domain, a creation that is not refused provides its
endpoint and both shared middlewares, whether or not these were there before. -/
theorem provided_of_vacant (hcalm : w.rules = [])
    (hrefusal : refusal? config creation.request creation.service = none)
    (hdomain : s.domain = .ok domain) (hvacant : Vacant w.cluster creation.key) :
    let run := (creation.program config).run s w
    let ids := (allocation config creation.request creation.service (World.answerer s) w).value
    ∃ created, run.value = .ok created ∧ Provided run.world.cluster creation created ∧
      (∀ m ∈ config.shared.both, run.world.cluster.find? .middleware m.key ≠ none) ∧
      created.route = w.cluster.made (submission config creation.request creation.service domain ids) := by
  intro run ids
  have hrules : ∀ r ∈ w.rules, r.Keeps .none := by simp [hcalm]
  have hserves := (World.serves_play s (creation.program config) hrules).1
  have hsaga : Saga config creation.request.useBasicAuth
      (submission config creation.request creation.service domain ids) creation.deadline
      ((creation.program config).exchanges s w)
      ((creation.program config).play (World.answerer s) w).value :=
    saga_of_accepted hrefusal hdomain
  rw [← Program.run_value_eq_play] at hsaga
  rw [← Program.run_world_eq_play] at hserves
  have hfree {k : Kind} {derive : String → String} (hd : derive ∈ derivations k) :
      w.cluster.find? k ⟨creation.key.ns, derive creation.key.name⟩ = none :=
    hvacant k _ (.child hd)
  obtain ⟨owner, credentials, rs, hbegun, hchildren, hshared, hvalue⟩ :=
    saga_of_free hsaga hserves (Option.some_ne_none creation.request.name) (hvacant _ _ .route)
      fun hchild => hvacant _ _ hchild.ownPlace
  have hwhole := hbegun.whole_of_free hfree hchildren
  exact ⟨_, hvalue, ⟨hbegun.find?_route, owner, credentials, hwhole, rfl⟩, hshared, rfl⟩

end Vacant

end Endpoint

namespace CommandLine
open Endpoint

/-- A command line is read in an environment, and what is read does not keep the program from
starting. -/
structure Starts (argv : List String) (environment : Environment) (a : Arguments) : Prop where
  read : Arguments.read argv environment = .ok a
  faultless : a.startFault? = none

theorem startFault?_eq_none_iff {a : Arguments} : a.startFault? = none ↔ 0 < a.pathIdLength := by
  simp [Arguments.startFault?, Nat.pos_iff_ne_zero]

theorem domain_eq_error {a : Arguments} (h : a.domainBaseUrl = "") :
    a.domain = .error (.internal .unconfiguredDomain) := if_pos h

theorem domain_eq_ok {a : Arguments} (h : a.domainBaseUrl ≠ "") : a.domain = .ok a.domainBaseUrl :=
  if_neg h

/-- The arguments with which the program starts let it create endpoints, whatever else they are,
if their domain is not empty: then every creation in vacant places succeeds that is in order
and has a port to expose. Every rule takes an id with a token of its own that is as long
as was asked for, and so it is not empty. If the domain is empty, every such creation fails
before its first call, and nothing has been done. -/
theorem started_program_provisions {argv : List String} {environment : Environment}
    {a : Arguments} (h : Starts argv environment a) (creation : Creation) (random : RandomSource)
    (w : World) (hcalm : w.rules = []) (hvalid : creation.request.validate = .ok ())
    (heligible : a.config.ports.eligible creation.service ≠ []) :
    let run := (creation.program a.config).run ⟨random, a.domain⟩ w
    let tokens := PublicId.tokens random w.drawn a.pathIdLength
      (a.config.ports.eligible creation.service).length
    (a.domainBaseUrl ≠ "" → Vacant w.cluster creation.key →
      ∃ created, run.value = .ok created ∧ Provided run.world.cluster creation created ∧
        (∀ m ∈ a.config.shared.both, run.world.cluster.find? .middleware m.key ≠ none) ∧
        created.route.spec.rules.map RouteRule.text = tokens.map fun token =>
          RouteRule.hostPathText (host a.domainBaseUrl)
            (PublicId.ofToken token creation.request.userId)) ∧
    (tokens ≠ [] ∧ ∀ token ∈ tokens, token.length = a.pathIdLength ∧ token ≠ []) ∧
    (a.domainBaseUrl = "" → run = ⟨.error (.internal .unconfiguredDomain), w, []⟩) := by
  intro run tokens
  let s : Surroundings := ⟨random, a.domain⟩
  have hrefusal : refusal? a.config creation.request creation.service = none :=
    (refusal?_eq_none_iff hvalid).2 heligible
  have hlength : 0 < a.pathIdLength := startFault?_eq_none_iff.1 h.faultless
  refine ⟨fun hdomain hvacant => ?_, ⟨?_, fun token htoken => ?_⟩, fun hdomain => ?_⟩
  · have hresolved : s.domain = .ok a.domainBaseUrl := domain_eq_ok hdomain
    obtain ⟨created, hvalue, hprovided, hshared, hroute⟩ :=
      provided_of_vacant hcalm hrefusal hresolved hvacant
    refine ⟨created, hvalue, hprovided, hshared, ?_⟩
    have hids : (allocation a.config creation.request creation.service (World.answerer s) w).value =
        tokens.map (PublicId.ofToken · creation.request.userId) :=
      value_allocation a.config creation s w
    have hcount : (tokens.map (PublicId.ofToken · creation.request.userId)).length =
        (a.config.ports.eligible creation.service).length := by
      rw [List.length_map, PublicId.length_tokens]
    calc created.route.spec.rules.map RouteRule.text
        = (submission a.config creation.request creation.service a.domainBaseUrl
            (tokens.map (PublicId.ofToken · creation.request.userId))).spec.rules.map
              RouteRule.text := by
          rw [hroute, hids]
          rfl
      _ = (tokens.map (PublicId.ofToken · creation.request.userId)).map
            (RouteRule.hostPathText (host a.domainBaseUrl)) := texts_submission hcount
      _ = _ := List.map_map
  · apply List.ne_nil_of_length_pos
    rw [PublicId.length_tokens]
    exact List.length_pos_iff.2 heligible
  · have htaken := PublicId.length_of_mem_tokens htoken
    exact ⟨htaken, List.ne_nil_of_length_pos (by omega)⟩
  · have hunresolved : s.domain = .error (.internal .unconfiguredDomain) := domain_eq_error hdomain
    exact run_create_of_no_domain hrefusal hunresolved

/-- Settings as small and as empty as they may be, with the domain from the environment, and an
activity middleware that somebody else has put there. -/
theorem sparse_settings_provision :
    let environment : Environment := fun name =>
      if name = "KOTAL_DOMAIN_BASE_URL" then some "kotal.cloud" else none
    let argv : List String := ["--path-id-length=1", "--entry-points=", "--excluded-port-names=",
      "--shared-middleware-namespace=", "--activity-buffer-size=0", "--cache-expiry=0",
      "--request-timeout-ms=0", "--ignore-shared-conflicts"]
    let a : Arguments :=
      { apiAddress := .v4 [0, 0, 0, 0] 8080, domainBaseUrl := "kotal.cloud", pathIdLength := 1
        entryPoints := [""], tlsSecretName := none, sharedMiddlewareNamespace := ""
        excludedPortNames := [""]
        activity := { bufferSize := 0, batchSize := 100, flushInterval := "5s" }
        cache := { redisPoolSize := 10, cacheExpiry := 0 }
        requestTimeoutMs := 0, ignoreSharedConflicts := true }
    let other : Middleware := { a.config.shared.activityMiddleware with spec := .stripPrefix [] }
    let w : World := { cluster := ({} : Cluster).grown other, clock := 50, drawn := 3 }
    let creation : Creation :=
      { request := Specimen.endpoint "one" "al-ice" true
        service := Specimen.service [some "ws", some "rpc"], deadline := 20 }
    let run := (creation.program a.config).run ⟨fun i => if i = 3 then 'Z' else '7', a.domain⟩ w
    Starts argv environment a ∧ ∃ created, run.value = .ok created ∧
      Provided run.world.cluster creation created ∧
      created.route.spec.rules.map RouteRule.text =
        ["Host(\x60endpoints.kotal.cloud\x60) && PathPrefix(\x60/zalice\x60)",
         "Host(\x60endpoints.kotal.cloud\x60) && PathPrefix(\x60/7alice\x60)"] := by
  intro environment argv a other w creation run
  have hstarts : Starts argv environment a := ⟨rfl, rfl⟩
  have hshared : a.config.shared.activityMiddleware ∈ a.config.shared.both := List.mem_cons_self ..
  have hplace : ¬ OwnPlace creation.key .middleware a.config.shared.activityMiddleware.key :=
    not_ownPlace_shared hshared
  have hvacant : Vacant w.cluster creation.key := (vacant_empty creation.key).grown hplace
  obtain ⟨hprovides, -, -⟩ := started_program_provisions hstarts creation
    (fun i => if i = 3 then 'Z' else '7') w rfl
    (EndpointRequest.validate_eq_ok_iff.2 (by decide +kernel)) (by decide +kernel)
  obtain ⟨created, hvalue, hprovided, -, htexts⟩ := hprovides (by decide) hvacant
  exact ⟨hstarts, created, hvalue, hprovided, htexts.trans (by decide +kernel)⟩

/-- An empty domain does not keep the program from starting. -/
theorem unconfigured_domain_starts :
    let a : Arguments :=
      { apiAddress := .v4 [0, 0, 0, 0] 8080, domainBaseUrl := "", pathIdLength := 16
        entryPoints := ["websecure"], tlsSecretName := none, sharedMiddlewareNamespace := "kotal"
        excludedPortNames := ["ws", "p2p"]
        activity := { bufferSize := 1000, batchSize := 100, flushInterval := "5s" }
        cache := { redisPoolSize := 10, cacheExpiry := 15 }
        requestTimeoutMs := 10000, ignoreSharedConflicts := false }
    let creation : Creation :=
      { request := Specimen.endpoint "one" "alice" false
        service := Specimen.node, deadline := 10000 }
    let run := (creation.program a.config).run ⟨fun _ => 'A', a.domain⟩ {}
    Starts ["--domain-base-url="] (fun _ => none) a ∧ creation.request.validate = .ok () ∧
      a.config.ports.eligible creation.service = ["rpc"] ∧ Vacant {} creation.key ∧
      run.value = .error (.internal .unconfiguredDomain) := by
  intro a creation run
  have hvalid : creation.request.validate = .ok () :=
    EndpointRequest.validate_eq_ok_iff.2 (by decide +kernel)
  have heligible : a.config.ports.eligible creation.service = ["rpc"] :=
    (Specimen.eligible_service _ _).trans (by decide +kernel)
  have hrefusal : refusal? a.config creation.request creation.service = none :=
    (refusal?_eq_none_iff hvalid).2 (by simp [heligible])
  exact ⟨⟨rfl, rfl⟩, hvalid, heligible, vacant_empty _,
    congrArg Run.value (run_create_of_no_domain hrefusal rfl)⟩

end CommandLine

end TenantEndpoints
