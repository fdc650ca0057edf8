import TenantEndpoints.Labels.Basic

/-!
# What selectors select

Some labels of an endpoint are set, some are taken over from its backend, and the
rest are as wished for. Those that say who made an endpoint and whose it is are found
on it as they were set, whatever labels its backend has or were wished for. A selector
of a listing selects by these and by what it is narrowed down to.
-/
namespace TenantEndpoints

namespace Labels

/-- The value that a label takes over from the backend, or else the one wished for. -/
def effective (backend desired : Labels) (key : String) : Option String :=
  (backend.find? key).or (desired.find? key)

theorem find?_propagate (backend labels : Labels) (key key' : String) :
    (propagate backend labels key).find? key' =
      if key' = key then effective backend labels key else labels.find? key' := by
  unfold propagate effective
  cases backend.find? key with
  | some value => exact SortedMap.find?_insert labels key key' value
  | none =>
    by_cases h : key' = key
    · rw [if_pos h, h]
      rfl
    · rw [if_neg h]

/-- Labels that are not taken over stay as they are wished for. -/
theorem find?_foldl_propagate (backend desired : Labels) (keys : List String) (key : String) :
    (keys.foldl (propagate backend) desired).find? key =
      if key ∈ keys then effective backend desired key else desired.find? key := by
  induction keys generalizing desired with
  | nil => simp
  | cons first keys ih =>
    rw [List.foldl_cons, ih]
    by_cases hfirst : key = first
    · subst hfirst
      have htaken : effective backend (propagate backend desired key) key =
          effective backend desired key := by
        rw [effective, find?_propagate, if_pos rfl, effective]
        cases backend.find? key <;> rfl
      rw [htaken, find?_propagate, if_pos rfl, ite_self, if_pos List.mem_cons_self]
    · simp only [effective, find?_propagate, List.mem_cons, hfirst, if_false, false_or]

/-- Where each label of an endpoint comes from. -/
theorem find?_ofEndpoint (backend : Labels) (tenant : String) (desired : Labels) (key : String) :
    (ofEndpoint backend tenant desired).find? key =
      if key = kind then deriveKind? (backend.find? component)
      else if key = userId then some tenant
      else if key = createdBy then some createdByValue
      else if key ∈ propagated then effective backend desired key
      else desired.find? key := by
  rw [← find?_foldl_propagate backend desired propagated key]
  unfold ofEndpoint
  cases deriveKind? (backend.find? component) with
  | some k => simp only [SortedMap.find?_insert]
  | none =>
    by_cases h : key = kind
    · rw [if_pos h, h]
      exact SortedMap.find?_erase_self _ _
    · rw [if_neg h]
      dsimp only
      rw [SortedMap.find?_erase_of_ne _ h]
      simp only [SortedMap.find?_insert]

theorem find?_ofEndpoint_userId (backend : Labels) (tenant : String) (desired : Labels) :
    (ofEndpoint backend tenant desired).find? userId = some tenant := by
  rw [find?_ofEndpoint, if_neg (by decide), if_pos rfl]

theorem find?_ofEndpoint_createdBy (backend : Labels) (tenant : String) (desired : Labels) :
    (ofEndpoint backend tenant desired).find? createdBy = some createdByValue := by
  rw [find?_ofEndpoint, if_neg (by decide), if_neg (by decide), if_pos rfl]

end Labels

namespace Selector

theorem selects_iff {s : Selector} {labels : Labels} : s.selects labels = true ↔
    ∀ key value, s.requirements.find? key = some value → labels.find? key = some value := by
  unfold selects
  rw [List.all_eq_true]
  constructor
  · intro h key value hfound
    exact of_decide_eq_true (h _ (SortedMap.mem_of_find?_eq_some hfound))
  · intro h e he
    exact decide_eq_true (h e.1 e.2 (SortedMap.find?_eq_some_of_mem he))

/-- One more label asked for is one more condition. -/
theorem selects_with {s : Selector} {key value : String} {labels : Labels}
    (h : s.requirements.find? key = none) :
    (s.with key value).selects labels = true ↔
      s.selects labels = true ∧ labels.find? key = some value := by
  rw [selects_iff, selects_iff]
  unfold «with»
  constructor
  · intro hall
    refine ⟨fun key' value' hfound => hall key' value' ?_, hall key value ?_⟩
    · rw [SortedMap.find?_insert_of_ne, hfound]
      rintro rfl
      rw [h] at hfound
      cases hfound
    · exact SortedMap.find?_insert_self _ _ _
  · rintro ⟨hall, hkey⟩ key' value' hfound
    dsimp only at hfound
    rw [SortedMap.find?_insert] at hfound
    split at hfound
    · next he =>
      cases hfound
      rw [he, hkey]
    · exact hall key' value' hfound

end Selector

namespace ListFilter

/-- Whether a label is as it is wished for; an empty wish is none. -/
def fits (wish label : Option String) : Bool := wish.all fun value => value = "" || label = some value

theorem selects_narrow {s : Selector} {key : String} {wish : Option String} {labels : Labels}
    (h : s.requirements.find? key = none) :
    (narrow s key wish).selects labels = true ↔
      s.selects labels = true ∧ fits wish (labels.find? key) = true := by
  unfold narrow fits
  cases wish with
  | none => simp
  | some value =>
    by_cases hv : value = ""
    · simp [hv]
    · simp [hv, Selector.selects_with h]

theorem find?_narrow_of_ne {s : Selector} {key key' : String} (wish : Option String)
    (h : key' ≠ key) : (narrow s key wish).requirements.find? key' = s.requirements.find? key' := by
  unfold narrow
  cases wish with
  | none => rfl
  | some value =>
    dsimp only
    split
    · rfl
    · exact SortedMap.find?_insert_of_ne _ _ h

/-- An empty wish narrows nothing down. -/
theorem narrow_of_idle {s : Selector} {key : String} {wish : Option String}
    (h : wish = none ∨ wish = some "") : narrow s key wish = s := by
  rcases h with rfl | rfl <;> rfl

/-- A filter selects the endpoints made here with the labels wished for. -/
theorem selects_selector {f : ListFilter} {labels : Labels} : f.selector.selects labels = true ↔
    labels.find? Labels.createdBy = some Labels.createdByValue ∧
      fits f.protocol (labels.find? Labels.protocol) = true ∧
      fits f.network (labels.find? Labels.network) = true ∧
      fits f.userId (labels.find? Labels.userId) = true := by
  have hmade {key : String} (h : key ≠ Labels.createdBy) :
      (Selector.empty.with Labels.createdBy Labels.createdByValue).requirements.find? key = none :=
    SortedMap.find?_insert_of_ne _ _ h
  unfold selector
  dsimp only
  rw [selects_narrow, selects_narrow, selects_narrow (hmade (by decide)), Selector.selects_with rfl]
  · have hempty : Selector.empty.selects labels = true := rfl
    simp only [hempty, true_and, and_assoc]
  · rw [find?_narrow_of_ne _ (by decide), hmade (by decide)]
  · rw [find?_narrow_of_ne _ (by decide), find?_narrow_of_ne _ (by decide), hmade (by decide)]

end ListFilter

end TenantEndpoints
