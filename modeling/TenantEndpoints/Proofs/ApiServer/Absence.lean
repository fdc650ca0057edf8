import TenantEndpoints.Proofs.ApiServer.Session
import TenantEndpoints.Proofs.Http.Disclosure
import TenantEndpoints.Proofs.Http.Listing
import TenantEndpoints.Proofs.Specimen

/-!
# What absence and conflict lead to

There are three places where a failure decides what is done next: a shared middleware
is created if it is absent, a conflict about it may be ignored, and an endpoint without a
secret has no credentials. In a session with the API server the failure is then always a
refusal with the very code for it.
-/
namespace TenantEndpoints

/-- Whether an outcome is a failure of some sort. -/
def failsAs (sort : Failure → Bool) : Except Failure α → Bool
  | .ok _ => false
  | .error failure => sort failure

namespace SharedMiddlewares

theorem run_ensureExists_eq (name ns : String) (build : Except Failure Middleware)
    (ignoreConflicts : Bool) (deadline : Instant) :
    (ensureExists name ns build ignoreConflicts deadline).run =
      .step (.call (.get .middleware ns name) deadline) fun
        | .ok _ => .done (.ok ())
        | .error failure =>
          if failure.isNotFound then
            match build with
            | .error fault => .done (.error fault)
            | .ok m => .step (.call (.create m) deadline) fun
              | .ok _ => logInfo "Created shared middleware" [("namespace", ns), ("name", name)] >>=
                fun _ => .done (.ok ())
              | .error conflict =>
                if ignoreConflicts && conflict.isConflict then
                  logInfo "Shared middleware was created concurrently"
                    [("namespace", ns), ("name", name)] >>= fun _ => .done (.ok ())
                else .done (.error conflict)
          else .done (.error failure) := by
  unfold ensureExists
  rw [Attempt.run_outcome_bind]
  refine congrArg (Program.step _) (funext fun found => ?_)
  cases found with
  | ok _ => rfl
  | error failure =>
    cases hf : failure.isNotFound with
    | false =>
      simp only [hf]
      rfl
    | true =>
      simp only [hf]
      cases build with
      | error fault => rfl
      | ok m =>
        change (Attempt.outcome (.create m) deadline >>= _ : Attempt Unit).run = _
        rw [Attempt.run_outcome_bind]
        refine congrArg (Program.step _) (funext fun made => ?_)
        cases made with
        | ok _ => rfl
        | error conflict => cases ignoreConflicts && conflict.isConflict <;> rfl

/-- What comes of ensuring a middleware, by what was found and what was made. -/
def ensured (ignoreConflicts : Bool) :
    (found made : Except Failure Middleware) → Except Failure Unit
  | .ok _, _ => .ok ()
  | .error failure, made =>
    if failure.isNotFound then
      match made with
      | .ok _ => .ok ()
      | .error conflict =>
        if ignoreConflicts && conflict.isConflict then .ok () else .error conflict
    else .error failure

section Ensured
variable {ignoreConflicts : Bool} {found made : Except Failure Middleware} {failure : Failure}

theorem ensured_eq_ok_iff : ensured ignoreConflicts found made = .ok () ↔
    (∃ m, found = .ok m) ∨ failsAs Failure.isNotFound found = true ∧
      ((∃ m, made = .ok m) ∨ failsAs Failure.isConflict made = true ∧ ignoreConflicts = true) := by
  cases found with
  | ok m => simp [ensured]
  | error failure =>
    cases hf : failure.isNotFound with
    | false => simp [ensured, failsAs, hf]
    | true =>
      cases made with
      | ok m => simp [ensured, failsAs, hf]
      | error conflict => simp [ensured, failsAs, hf, and_comm]

theorem found_or_made_of_ensured_eq_error (h : ensured ignoreConflicts found made = .error failure) :
    failsAs Failure.isNotFound found = false ∧ found = .error failure ∨
      failsAs Failure.isNotFound found = true ∧ made = .error failure := by
  cases found with
  | ok m => cases h
  | error failure' =>
    simp only [ensured] at h
    cases hf : failure'.isNotFound with
    | false =>
      rw [hf, if_neg Bool.false_ne_true] at h
      cases h
      exact .inl ⟨hf, rfl⟩
    | true =>
      rw [hf, if_pos rfl] at h
      refine .inr ⟨hf, ?_⟩
      cases made with
      | ok m => cases h
      | error conflict =>
        dsimp only at h
        split at h
        · cases h
        · cases h
          rfl

end Ensured

/-- Whoever answers, a middleware is made if none was found, and not otherwise. -/
theorem play_ensureExists {name ns : String} {m : Middleware} {deadline : Instant}
    {answerer : Answerer σ} {s s₁ s₂ : σ} {found made : Except Failure Middleware}
    (hfound : answerer s (.call (.get .middleware ns name) deadline) = (found, s₁))
    (hmade : answerer s₁ (.call (.create m) deadline) = (made, s₂)) (ignoreConflicts : Bool) :
    let play := (ensureExists name ns (.ok m) ignoreConflicts deadline).run.play answerer s
    play.value = ensured ignoreConflicts found made ∧
      play.encounters = ⟨s, .get .middleware ns name, deadline, found⟩ ::
        if failsAs Failure.isNotFound found then [⟨s₁, .create m, deadline, made⟩] else [] := by
  rw [run_ensureExists_eq]
  simp only [Program.play, hfound, Encounter.ofEffect, List.singleton_append]
  cases found with
  | ok m' => exact ⟨rfl, rfl⟩
  | error failure =>
    cases hf : failure.isNotFound with
    | false => simp [ensured, failsAs, hf, Program.play]
    | true =>
      simp only [ensured, failsAs, hf, if_true, Program.play, hmade, Encounter.ofEffect]
      cases made with
      | ok m' => exact ⟨rfl, rfl⟩
      | error conflict =>
        by_cases hc : (ignoreConflicts && conflict.isConflict) = true
        · simp only [if_pos hc]
          exact ⟨rfl, rfl⟩
        · simp only [if_neg hc]
          exact ⟨rfl, rfl⟩

/-- One that could not be built is not made. -/
theorem play_ensureExists_unbuilt {name ns : String} {deadline : Instant} {answerer : Answerer σ}
    {s s₁ : σ} {found : Except Failure Middleware}
    (hfound : answerer s (.call (.get .middleware ns name) deadline) = (found, s₁))
    (fault : Failure) (ignoreConflicts : Bool) :
    let play := (ensureExists name ns (.error fault) ignoreConflicts deadline).run.play answerer s
    play.value = ensured false found (.error fault) ∧
      play.encounters = [⟨s, .get .middleware ns name, deadline, found⟩] := by
  rw [run_ensureExists_eq]
  simp only [Program.play, hfound, Encounter.ofEffect, List.singleton_append]
  cases found with
  | ok m => exact ⟨rfl, rfl⟩
  | error failure => cases hf : failure.isNotFound <;> simp [ensured, hf, Program.play]

end SharedMiddlewares

namespace Endpoint

theorem credentialsIn_eq_none_iff {found : Except Failure Secret} :
    credentialsIn found = .ok none ↔ failsAs Failure.isNotFound found = true := by
  cases found with
  | ok secret =>
    simp only [credentialsIn, failsAs]
    cases Credentials.ofSecret secret <;> exact iff_of_false (by rintro ⟨⟩) (by rintro ⟨⟩)
  | error failure => cases hf : failure.isNotFound <;> simp [credentialsIn, failsAs, hf]

end Endpoint

namespace Http
open Endpoint

/-- What a lookup of an endpoint gives, by the route and the secret that were found. -/
def displayed (name user : String) (found : Except Failure IngressRoute)
    (secret : Except Failure Secret) : Except Failure Response :=
  match visible name user found with
  | .error failure => .error failure
  | .ok route => (credentialsIn secret).map fun credentials =>
    { status := 200, body := some (View.ofRoute route credentials).toJson }

theorem value_play_get {ns name : String} {deadline : Instant} {answerer : Answerer σ} {s s₁ : σ}
    {found : Except Failure IngressRoute}
    (hfound : answerer s (.call (.get .ingressRoute ns name) deadline) = (found, s₁))
    (user : String) : ((Http.get ns name user deadline).run.play answerer s).value =
      displayed name user found
        (answerer s₁ (.call (.get .secret ns (secretName name)) deadline)).1 := by
  rw [run_get_eq]
  simp only [Program.play, hfound, displayed]
  cases visible name user found <;> rfl

/-- An endpoint is shown without credentials exactly if no secret was found. -/
theorem basicAuth?_of_displayed {name user : String} {found : Except Failure IngressRoute}
    {secret : Except Failure Secret} {response : Response}
    (h : responseOf (displayed name user found secret) = response)
    (hshown : response.status = 200) :
    response.basicAuth? = none ↔ failsAs Failure.isNotFound secret = true := by
  unfold displayed at h
  have hfails {failure : Failure} (h : responseOf (.error failure) = response) : False := by
    have hstatus := le_status_error failure
    rw [h, hshown] at hstatus
    exact absurd hstatus (by decide)
  cases hvisible : visible name user found with
  | error failure =>
    rw [hvisible] at h
    exact (hfails h).elim
  | ok route =>
    rw [hvisible] at h
    rw [← credentialsIn_eq_none_iff]
    cases hcredentials : credentialsIn secret with
    | error failure =>
      rw [hcredentials] at h
      exact (hfails h).elim
    | ok credentials =>
      rw [hcredentials] at h
      subst h
      have hbasicAuth : (View.ofRoute route credentials).toJson.get? "basicAuth" =
          credentials.map Credentials.toJson := get?_toJson _
      simp [Response.basicAuth?, responseOf, Except.map, hbasicAuth]

end Http

namespace ApiServer.Session

section Outcome
variable {σ : Type u} {serve : Server σ} {x : Session σ} {c : Call} {deadline : Instant}

/-- What fails and what is refused agree if they do where something fails. -/
theorem failsAs_iff {sort : Failure → Bool} {code : UInt16}
    (h : ∀ failure, x.outcome serve c deadline = .error failure →
      (sort failure = true ↔ x.Refused serve c deadline code)) :
    failsAs sort (x.outcome serve c deadline) = true ↔ x.Refused serve c deadline code := by
  cases houtcome : x.outcome serve c deadline with
  | ok answer =>
    refine iff_of_false (by simp [failsAs]) fun hrefused => ?_
    obtain ⟨failure, hfailure⟩ := hrefused.outcome_eq
    cases houtcome.symm.trans hfailure
  | error failure => exact h failure houtcome

theorem failsAs_isNotFound_iff : failsAs Failure.isNotFound (x.outcome serve c deadline) = true ↔
    x.Refused serve c deadline 404 := failsAs_iff fun _ => isNotFound_iff

theorem failsAs_isConflict_iff : failsAs Failure.isConflict (x.outcome serve c deadline) = true ↔
    x.Refused serve c deadline 409 := failsAs_iff fun _ => isConflict_iff

end Outcome

/-- A middleware is created exactly if the server has said that it is absent. That succeeds, or
else the server has said that it is there by then and conflicts are ignored. -/
structure EnsuredAsTold {σ : Type u} (serve : Server σ) (x : Session σ) (look : Call) (m : Middleware)
    (ignoreConflicts : Bool) (deadline : Instant)
    (play : Play (Session σ) (Except Failure Unit)) : Prop where
  calls : ∀ e ∈ play.encounters, e.exchange.call = look ∨ e.exchange.call = .create m
  creates : (∃ e ∈ play.encounters, e.exchange.call.verb = .create) ↔
    x.Refused serve look deadline 404
  succeeds : play.value = .ok () ↔ (∃ found, x.outcome serve look deadline = .ok found) ∨
    x.Refused serve look deadline 404 ∧
      ((∃ made, (x.after serve look deadline).outcome serve (.create m) deadline = .ok made) ∨
        (x.after serve look deadline).Refused serve (.create m) deadline 409 ∧
          ignoreConflicts = true)
  fails : ∀ failure, play.value = .error failure →
    ¬ x.Refused serve look deadline 404 ∧ x.outcome serve look deadline = .error failure ∨
      x.Refused serve look deadline 404 ∧
        (x.after serve look deadline).outcome serve (.create m) deadline = .error failure

variable {σ : Type u} (serve : Server σ) (s : Surroundings) (x : Session σ) (ns name : String)
  (deadline : Instant)

theorem ensureExists_asTold (m : Middleware) (ignoreConflicts : Bool) :
    EnsuredAsTold serve x (.get .middleware ns name) m ignoreConflicts deadline
      ((SharedMiddlewares.ensureExists name ns (.ok m) ignoreConflicts deadline).run.play
        (answerer serve s) x) := by
  let look : Call := .get .middleware ns name
  let x' := x.after serve look deadline
  generalize hplay : (SharedMiddlewares.ensureExists name ns (.ok m) ignoreConflicts
    deadline).run.play (answerer serve s) x = play
  obtain ⟨hvalue, hencounters⟩ : play.value = SharedMiddlewares.ensured ignoreConflicts
        (x.outcome serve look deadline) (x'.outcome serve (.create m) deadline) ∧
      play.encounters = ⟨x, look, deadline, x.outcome serve look deadline⟩ ::
        if failsAs Failure.isNotFound (x.outcome serve look deadline) then
          [⟨x', .create m, deadline, x'.outcome serve (.create m) deadline⟩] else [] := by
    rw [← hplay]
    exact SharedMiddlewares.play_ensureExists rfl rfl ignoreConflicts
  refine ⟨?_, ?_, ?_, fun failure hfailure => ?_⟩
  · intro e he
    rw [hencounters] at he
    rcases List.mem_cons.1 he with rfl | he
    · exact .inl rfl
    split at he
    · cases List.mem_singleton.1 he
      exact .inr rfl
    · cases he
  · rw [hencounters, ← failsAs_isNotFound_iff]
    split
    · next h => simp [look, h, Call.verb]
    · next h => simp [look, h, Call.verb]
  · rw [hvalue, SharedMiddlewares.ensured_eq_ok_iff, failsAs_isNotFound_iff,
      failsAs_isConflict_iff]
  · rw [hvalue] at hfailure
    rw [← failsAs_isNotFound_iff, Bool.not_eq_true]
    exact SharedMiddlewares.found_or_made_of_ensured_eq_error hfailure

/-- A middleware that could not be built is not created, though the server may have said that it
is absent. -/
theorem ensureExists_unbuilt_asTold (fault : Failure) (ignoreConflicts : Bool) :
    let look : Call := .get .middleware ns name
    let play := (SharedMiddlewares.ensureExists name ns (.error fault) ignoreConflicts
      deadline).run.play (answerer serve s) x
    (∀ e ∈ play.encounters, e.exchange.call = look) ∧
      (play.value = .ok () ↔ ∃ found, x.outcome serve look deadline = .ok found) ∧
      ∀ failure, play.value = .error failure →
        ¬ x.Refused serve look deadline 404 ∧ x.outcome serve look deadline = .error failure ∨
          x.Refused serve look deadline 404 ∧ failure = fault := by
  intro look play
  obtain ⟨hvalue, hencounters⟩ : play.value = SharedMiddlewares.ensured false
        (x.outcome serve look deadline) (.error fault) ∧
      play.encounters = [⟨x, look, deadline, x.outcome serve look deadline⟩] :=
    SharedMiddlewares.play_ensureExists_unbuilt rfl fault ignoreConflicts
  refine ⟨fun e he => ?_, ?_, fun failure hfailure => ?_⟩
  · rw [hencounters] at he
    cases List.mem_singleton.1 he
    rfl
  · rw [hvalue, SharedMiddlewares.ensured_eq_ok_iff]
    exact or_iff_left (by simp)
  · rw [hvalue] at hfailure
    rw [← failsAs_isNotFound_iff, Bool.not_eq_true]
    refine (SharedMiddlewares.found_or_made_of_ensured_eq_error hfailure).imp_right ?_
    rintro ⟨habsent, ⟨⟩⟩
    exact ⟨habsent, rfl⟩

/-- An endpoint has no credentials exactly if the server has said that its secret is absent. -/
theorem credentials_asTold :
    let look : Call := .get .secret ns (Endpoint.secretName name)
    let value := ((Endpoint.credentials ns name deadline).run.play (answerer serve s) x).value
    let absent := x.Refused serve look deadline 404
    (value = .ok none ↔ absent) ∧
      ∀ failure, x.outcome serve look deadline = .error failure → ¬ absent →
        value = .error failure := by
  intro look value absent
  have hvalue : value = Endpoint.credentialsIn (x.outcome serve look deadline) := by
    unfold value
    rw [Endpoint.run_credentials_eq]
    rfl
  refine ⟨?_, fun failure hfailure hnot => ?_⟩
  · rw [hvalue, Endpoint.credentialsIn_eq_none_iff, failsAs_isNotFound_iff]
  · rw [hvalue, hfailure, Endpoint.credentialsIn, if_neg]
    rwa [isNotFound_iff hfailure]

/-- An endpoint that is shown is shown without credentials exactly if the server has said that
its secret is absent. -/
theorem get_asTold {config : Endpoint.Config} {timeoutMs : Nat} {request : Http.Request}
    {user : String} (h : Http.Demand.ofRequest request = .ok (.get ns name user))
    {response : Http.Response}
    (hresponse : ((Http.serve config timeoutMs request).play (answerer serve s) x).value =
      .ok response) (hshown : response.status = 200) :
    let deadline := x.clock + timeoutMs
    let x' := x.after serve (.get .ingressRoute ns name) deadline
    response.basicAuth? = none ↔
      x'.Refused serve (.get .secret ns (Endpoint.secretName name)) deadline 404 := by
  intro deadline x'
  have hserve : ((Http.serve config timeoutMs request).play (answerer serve s) x).value =
      .ok (Http.responseOf
        ((Http.get ns name user deadline).run.play (answerer serve s) x).value) :=
    Http.play_serve_of_demand h (answerer serve s) x
  rw [hserve, Http.value_play_get rfl] at hresponse
  rw [← failsAs_isNotFound_iff]
  exact Http.basicAuth?_of_displayed (Except.ok.inj hresponse) hshown

/-- What a failure says was said by the server, with the one code that it gave. By that alone a
shared middleware is created if it can be built, a conflict about it is ignored, and an endpoint
is taken for one without credentials; whatever else goes wrong is returned as what it is. -/
theorem signals_only_as_told :
    (∀ (a : Action) (timeoutMs : Nat) (script : Script),
      (∀ failure, (ApiServer.exchange a timeoutMs script).outcome = .error failure →
        Tells a (a.RefusedWith timeoutMs script) failure) ∧
      ∀ code code', a.RefusedWith timeoutMs script code → a.RefusedWith timeoutMs script code' →
        code = code') ∧
    (∀ (m : Middleware) (ignoreConflicts : Bool),
      EnsuredAsTold serve x (.get .middleware ns name) m ignoreConflicts deadline
        ((SharedMiddlewares.ensureExists name ns (.ok m) ignoreConflicts deadline).run.play
          (answerer serve s) x)) ∧
    (∀ (fault : Failure) (ignoreConflicts : Bool),
      let look : Call := .get .middleware ns name
      let play := (SharedMiddlewares.ensureExists name ns (.error fault) ignoreConflicts
        deadline).run.play (answerer serve s) x
      (∀ e ∈ play.encounters, e.exchange.call = look) ∧
        (play.value = .ok () ↔ ∃ found, x.outcome serve look deadline = .ok found) ∧
        ∀ failure, play.value = .error failure →
          ¬ x.Refused serve look deadline 404 ∧ x.outcome serve look deadline = .error failure ∨
            x.Refused serve look deadline 404 ∧ failure = fault) ∧
    (let look : Call := .get .secret ns (Endpoint.secretName name)
      let value := ((Endpoint.credentials ns name deadline).run.play (answerer serve s) x).value
      (value = .ok none ↔ x.Refused serve look deadline 404) ∧
        ∀ failure, x.outcome serve look deadline = .error failure →
          ¬ x.Refused serve look deadline 404 → value = .error failure) ∧
    ∀ (config : Endpoint.Config) (timeoutMs : Nat) (request : Http.Request) (user : String)
      (response : Http.Response), Http.Demand.ofRequest request = .ok (.get ns name user) →
      ((Http.serve config timeoutMs request).play (answerer serve s) x).value = .ok response →
      response.status = 200 →
        let deadline := x.clock + timeoutMs
        (response.basicAuth? = none ↔
          (x.after serve (.get .ingressRoute ns name) deadline).Refused serve
            (.get .secret ns (Endpoint.secretName name)) deadline 404) :=
  ⟨fun _ _ _ => ⟨fun _ => tells_exchange, fun _ _ h h' => h.unique h'⟩,
    ensureExists_asTold serve s x ns name deadline,
    ensureExists_unbuilt_asTold serve s x ns name deadline,
    credentials_asTold serve s x ns name deadline,
    fun _ _ _ _ _ hdemand hvalue hshown => get_asTold serve s x ns name hdemand hvalue hshown⟩

/-- A server that knows a route and nothing else, and that takes all names for taken. -/
theorem ensured_where_absent_and_taken :
    let route := "\x7b\"metadata\":\x7b\"name\":\"one\",\"labels\":\x7b" ++
      "\"kotal.io/user-id\":\"alice\"\x7d\x7d,\"spec\":\x7b\"entryPoints\":[],\"routes\":[]\x7d\x7d"
    let serve : Server Unit := fun _ a => match a with
      | .call (.get .ingressRoute _ _) => (⟨some 5, .ok ⟨200, route⟩⟩, ())
      | .call (.create _) => (⟨some 5, .ok ⟨409, ""⟩⟩, ())
      | _ => (⟨some 5, .ok ⟨404, ""⟩⟩, ())
    let s := Specimen.plain
    let x : Session Unit := { server := () }
    let shared : SharedMiddlewares := {}
    let look : Call := .get .middleware "default" "one"
    let play := (SharedMiddlewares.ensureExists "one" "default" (.ok shared.cacheMiddleware) true
      1000).run.play (answerer serve s) x
    let request := Specimen.request "GET" "/one" "alice" ""
    let answer := ((Http.serve Specimen.config 1000 request).play (answerer serve s) x).value
    x.Refused serve look 1000 404 ∧
      (∃ failure, x.outcome serve look 1000 = .error failure ∧
        Tells (.call look) (x.Refused serve look 1000) failure) ∧
      (∃ e ∈ play.encounters, e.exchange.call.verb = .create) ∧ play.value = .ok () ∧
      ((Endpoint.credentials "default" "one" 1000).run.play (answerer serve s) x).value = .ok none ∧
      Http.Demand.ofRequest request = .ok (.get "default" "one" "alice") ∧
      ∃ response, answer = .ok response ∧ response.status = 200 ∧ response.basicAuth? = none := by
  intro route serve s x shared look play request answer
  obtain ⟨htells, hensured, _, ⟨hnone, _⟩, hshown⟩ :=
    signals_only_as_told serve s x "default" "one" 1000
  have hsent {a : Action} (h : a.request.isOk = true) : ∃ request, a.request = .ok request := by
    cases hrequest : a.request with
    | ok request => exact ⟨request, rfl⟩
    | error failure =>
      rw [hrequest] at h
      cases h
  have habsent {a : Action} {timeoutMs : Nat} (h : a.request.isOk = true) (htime : 5 ≤ timeoutMs) :
      a.RefusedWith timeoutMs ⟨some 5, .ok ⟨404, ""⟩⟩ 404 :=
    ⟨hsent h, ⟨5, rfl, Nat.lt_of_lt_of_le (by decide) htime, htime⟩,
      ⟨404, ""⟩, rfl, by decide, by decide, by decide +kernel⟩
  have hlook : x.Refused serve look 1000 404 := habsent (by decide +kernel) (by decide)
  have htaken : (x.after serve look 1000).Refused serve (.create shared.cacheMiddleware) 1000 409 :=
    ⟨hsent (by decide +kernel), ⟨5, rfl, by decide +kernel, by decide +kernel⟩,
      ⟨409, ""⟩, rfl, by decide, by decide, by decide +kernel⟩
  have hsecret : x.Refused serve (.get .secret "default" (Endpoint.secretName "one")) 1000 404 :=
    habsent (by decide +kernel) (by decide)
  have hsecret' : (x.after serve (.get .ingressRoute "default" "one") 1000).Refused serve
      (.get .secret "default" (Endpoint.secretName "one")) 1000 404 :=
    habsent (by decide +kernel) (by decide +kernel)
  have hoperation : Http.Operation.select? request.method request.target.path =
      some (.get "default" "one") := by decide +kernel
  have hdemand : Http.Demand.ofRequest request = .ok (.get "default" "one" "alice") :=
    Http.Demand.ofRequest_eq hoperation (by decide +kernel)
  have hstatus : answer.toOption.map Http.Response.status = some 200 := by decide +kernel
  obtain ⟨failure, hfailure⟩ := hlook.outcome_eq
  have hplay := hensured shared.cacheMiddleware true
  obtain ⟨response, hanswer, hstatus⟩ := Http.exists_eq_ok hstatus
  exact ⟨hlook, ⟨failure, hfailure, (htells _ _ _).1 _ hfailure⟩, hplay.creates.2 hlook,
    hplay.succeeds.2 (.inr ⟨hlook, .inr ⟨htaken, rfl⟩⟩), hnone.2 hsecret, hdemand, response,
    hanswer, hstatus, (hshown _ 1000 request "alice" response hdemand hanswer hstatus).2 hsecret'⟩

end ApiServer.Session

end TenantEndpoints
