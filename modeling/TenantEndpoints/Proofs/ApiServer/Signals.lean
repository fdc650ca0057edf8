import TenantEndpoints.ApiServer.Action

/-!
# What failures say of answers

That a resource is absent or taken is told by a failure only when the server has said
so, with the code for it and in time. Everything else that goes wrong is told apart from
that, and with the resource that it has gone wrong with.
-/
namespace TenantEndpoints.ApiServer

/-- An action was sent, and refused with a code in time. -/
structure Action.RefusedWith (a : Action) (timeoutMs : Nat) (script : Script) (code : UInt16) :
    Prop where
  sent : ∃ request, a.request = .ok request
  inTime : ∃ delay, script.delay = some delay ∧ 0 < timeoutMs ∧ delay ≤ timeoutMs
  refused : ∃ response, script.reply = .ok response ∧ 400 ≤ response.status ∧
    response.status < 600 ∧ (ErrorStatus.ofResponse response.status response.body).code = code

/-- A failure of an action says with which code it was refused, or that it went wrong without
one. A resource without a namespace is refused before it is sent. -/
structure Tells (a : Action) (refusedWith : UInt16 → Prop) (failure : Failure) : Prop where
  notFound : failure.class = .notFound ↔ refusedWith 404
  conflict : failure.class = .conflict ↔ refusedWith 409
  validation : failure.class = .validation ↔
    refusedWith 400 ∨ refusedWith 422 ∨ a.lacksNamespace = true
  internal : failure.class = .internal →
    ∃ rest, failure.message = a.kind.name ++ " " ++ a.ns ++ "/" ++ a.name ++ ": " ++ rest

section Failures
variable {a : Action} {refusedWith : UInt16 → Prop}

theorem message_internal (t : Trouble) (k : Kind) (ns name : String) :
    ∃ rest, (t.internal k ns name).message = k.name ++ " " ++ ns ++ "/" ++ name ++ ": " ++ rest := by
  obtain ⟨cause, causes, hcauses⟩ : ∃ cause causes, t.causes = cause :: causes :=
    List.exists_cons_of_ne_nil (by cases t <;> exact List.cons_ne_nil _ _)
  have hchain : (t.internal k ns name).message =
      ": ".intercalate ((k.name ++ " " ++ resourceId ns name) :: cause :: causes) := by
    rw [← hcauses]
    rfl
  refine ⟨": ".intercalate (cause :: causes), ?_⟩
  rw [hchain, String.intercalate_cons_cons]
  simp only [resourceId, String.append_assoc]

theorem message_timedOut (k : Kind) (ns name : String) :
    ∃ rest, (Failure.internal (.timedOut k ns name)).message =
      k.name ++ " " ++ ns ++ "/" ++ name ++ ": " ++ rest := by
  have hmessage : (Failure.internal (.timedOut k ns name)).message =
      k.name ++ " " ++ resourceId ns name ++ ": request timed out" := rfl
  have htext : ": request timed out" = ": " ++ "request timed out" := by decide
  refine ⟨"request timed out", ?_⟩
  rw [hmessage, htext, resourceId]
  simp only [String.append_assoc]

/-- What goes wrong without a refusal says that it did, and where. -/
theorem tells_internal {failure : Failure} (hclass : failure.class = .internal)
    (hmessage : ∃ rest, failure.message = a.kind.name ++ " " ++ a.ns ++ "/" ++ a.name ++ ": " ++ rest)
    (hnamed : a.lacksNamespace = false)
    (hnone : ∀ code ∈ [404, 409, 400, 422], ¬ refusedWith code) : Tells a refusedWith failure := by
  simp only [List.forall_mem_cons] at hnone
  obtain ⟨h404, h409, h400, h422, _⟩ := hnone
  exact ⟨by simp [hclass, h404], by simp [hclass, h409], by simp [hclass, h400, h422, hnamed],
    fun _ => hmessage⟩

theorem fail_refused (a : Action) (e : ErrorStatus) : a.fail (.refused e) =
    if e.code = 404 then .absent a.kind a.ns a.name
    else if e.code = 409 then .taken a.kind a.ns a.name
    else if e.code = 400 ∨ e.code = 422 then .invalid (.reported e.message)
    else (Trouble.refused e).internal a.kind a.ns a.name := rfl

/-- The code alone decides what a refusal is told as. -/
theorem class_refused (a : Action) (e : ErrorStatus) : (a.fail (.refused e)).class =
    if e.code = 404 then .notFound else if e.code = 409 then .conflict
    else if e.code = 400 ∨ e.code = 422 then .validation else .internal := by
  rw [fail_refused, apply_ite Failure.class, apply_ite Failure.class, apply_ite Failure.class]
  rfl

theorem tells_refused (e : ErrorStatus) (hnamed : a.lacksNamespace = false)
    (hrefused : ∀ code, refusedWith code ↔ e.code = code) :
    Tells a refusedWith (a.fail (.refused e)) where
  notFound := by
    rw [class_refused, hrefused]
    grind
  conflict := by
    rw [class_refused, hrefused]
    grind
  validation := by
    rw [class_refused, hrefused, hrefused, hnamed]
    grind
  internal hclass := by
    rw [class_refused] at hclass
    rw [fail_refused]
    have hinternal : ¬ e.code = 404 ∧ ¬ e.code = 409 ∧ ¬ (e.code = 400 ∨ e.code = 422) := by
      grind
    rw [if_neg hinternal.1, if_neg hinternal.2.1, if_neg hinternal.2.2]
    exact message_internal _ _ _ _

/-- Whether an action is sent. -/
theorem request_eq (a : Action) : a.request =
    if a.lacksNamespace = true then .error (.invalid (.missingNamespace a.kind a.name))
    else if (a.needsName && a.name = "") = true then .error (a.fail .emptyName)
    else match Http.Target.ofPath a.parts.2.1 with
      | .ok target => .ok
        { method := a.parts.1, target, body := a.parts.2.2
          contentType := a.parts.2.2.map fun _ => Action.jsonType }
      | .error fault => .error (a.fail (.invalidUri fault)) := by
  unfold Action.request
  cases a.lacksNamespace with
  | true => rfl
  | false =>
    cases a.needsName && a.name = "" with
    | true => rfl
    | false => rfl

theorem lacksNamespace_of_request {request : Request} (h : a.request = .ok request) :
    a.lacksNamespace = false := by
  rw [request_eq] at h
  split at h
  · cases h
  · next hlacks => exact Bool.eq_false_iff.2 hlacks

/-- An action that is not sent lacks a namespace, or could not be put into a request. -/
theorem tells_request {failure : Failure} (h : a.request = .error failure)
    (hnone : ∀ code, ¬ refusedWith code) : Tells a refusedWith failure := by
  rw [request_eq] at h
  split at h
  · next hlacks =>
    cases h
    have hclass : (Failure.invalid (.missingNamespace a.kind a.name)).class = .validation := rfl
    exact ⟨by simp [hclass, hnone], by simp [hclass, hnone], by simp [hclass, hlacks],
      fun hinternal => nomatch hinternal⟩
  next hlacks =>
  have hnamed := Bool.eq_false_iff.2 hlacks
  split at h
  · cases h
    exact tells_internal rfl (message_internal _ _ _ _) hnamed fun code _ => hnone code
  split at h
  · cases h
  · cases h
    exact tells_internal rfl (message_internal _ _ _ _) hnamed fun code _ => hnone code

end Failures

/-- What is refused fails. -/
theorem Action.RefusedWith.outcome_eq {a : Action} {timeoutMs : Nat} {script : Script} {code : UInt16}
    (h : a.RefusedWith timeoutMs script code) :
    ∃ failure, (exchange a timeoutMs script).outcome = .error failure := by
  obtain ⟨request, hrequest⟩ := h.sent
  obtain ⟨delay, hdelay, hpositive, hle⟩ := h.inTime
  obtain ⟨response, hreply, hlow, hhigh, _⟩ := h.refused
  have hintime : script.delay.filter (fun delay => 0 < timeoutMs && delay ≤ timeoutMs) =
      some delay := by
    rw [hdelay]
    exact Option.filter_some_pos (by simp [hpositive, hle])
  refine ⟨a.fail (.refused (.ofResponse response.status response.body)), ?_⟩
  simp only [exchange, hrequest, hintime, Action.conclude, hreply, hlow, hhigh, and_self, if_true]

/-- A refusal has one code. -/
theorem Action.RefusedWith.unique {a : Action} {timeoutMs : Nat} {script : Script}
    {code code' : UInt16} (h : a.RefusedWith timeoutMs script code)
    (h' : a.RefusedWith timeoutMs script code') : code = code' := by
  obtain ⟨response, hreply, _, _, hcode⟩ := h.refused
  obtain ⟨response', hreply', _, _, hcode'⟩ := h'.refused
  cases hreply.symm.trans hreply'
  exact hcode.symm.trans hcode'

/-- A failure of an action says with which code it was refused. -/
theorem tells_exchange {a : Action} {timeoutMs : Nat} {script : Script} {failure : Failure}
    (h : (exchange a timeoutMs script).outcome = .error failure) :
    Tells a (a.RefusedWith timeoutMs script) failure := by
  unfold exchange at h
  split at h
  · next hrequest =>
    cases h
    refine tells_request hrequest fun code hrefused => ?_
    obtain ⟨request, hsent⟩ := hrefused.sent
    cases hrequest.symm.trans hsent
  next request hrequest =>
  have hnamed := lacksNamespace_of_request hrequest
  dsimp only at h
  split at h
  · next delay hdelay =>
    obtain ⟨hdelay, hintime⟩ := Option.filter_eq_some_iff.1 hdelay
    simp only [Bool.and_eq_true, decide_eq_true_eq] at hintime
    unfold Action.conclude at h
    split at h
    · next cause hreply =>
      cases h
      refine tells_internal rfl (message_internal _ _ _ _) hnamed fun code _ hrefused => ?_
      obtain ⟨response, hresponse, _⟩ := hrefused.refused
      cases hreply.symm.trans hresponse
    · next response hreply =>
      split at h
      · next hstatus =>
        cases h
        refine tells_refused _ hnamed fun code => ⟨fun hrefused => ?_, fun hcode => ?_⟩
        · obtain ⟨response', hresponse, _, _, hcode⟩ := hrefused.refused
          cases hreply.symm.trans hresponse
          exact hcode
        · exact ⟨⟨request, hrequest⟩, ⟨delay, hdelay, hintime⟩, response, hreply, hstatus.1,
            hstatus.2, hcode⟩
      · next hstatus =>
        split at h
        · cases h
        · cases h
          refine tells_internal rfl (message_internal _ _ _ _) hnamed fun code _ hrefused => ?_
          obtain ⟨response', hresponse, hlow, hhigh, _⟩ := hrefused.refused
          cases hreply.symm.trans hresponse
          exact hstatus ⟨hlow, hhigh⟩
  · next hlate =>
    cases h
    refine tells_internal rfl (message_timedOut _ _ _) hnamed fun code _ hrefused => ?_
    obtain ⟨delay, hdelay, hpositive, hle⟩ := hrefused.inTime
    rw [hdelay, Option.filter_some_pos (by simp [hpositive, hle])] at hlate
    cases hlate

end TenantEndpoints.ApiServer
