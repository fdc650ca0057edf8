import TenantEndpoints.SortedMap

/-!
# Maps that agree

Two maps that answer all lookups alike, up to what is made of the answers, list
alike as well. This is how a listing of one store is compared with a listing of
another, without looking at how either is kept. A map made of a list of entries
answers with what stands last there.
-/
namespace TenantEndpoints.SortedMap

variable {κ : Type u} {ν : Type v} {μ : Type w} {α : Type x} [Ord κ]

/-- Makes something of each value. -/
def mapValues (f : ν → α) (m : SortedMap κ ν) : SortedMap κ α :=
  ⟨m.entries.map fun e => (e.1, f e.2), List.pairwise_map.2 m.sorted⟩

@[simp] theorem values_mapValues (f : ν → α) (m : SortedMap κ ν) :
    (m.mapValues f).values = m.values.map f := by
  simp [values, mapValues]

section Lookup
variable [DecidableEq κ]

omit [Ord κ] in
theorem lookupEntry_map (f : ν → α) (k : κ) (es : List (κ × ν)) :
    lookupEntry k (es.map fun e => (e.1, f e.2)) = (lookupEntry k es).map f := by
  induction es with
  | nil => rfl
  | cons e es ih =>
    rw [List.map_cons, lookupEntry, lookupEntry]
    by_cases hk : k = e.1
    · rw [if_pos hk, if_pos hk]
      rfl
    · rw [if_neg hk, if_neg hk, ih]

@[simp] theorem find?_mapValues (f : ν → α) (m : SortedMap κ ν) (k : κ) :
    (m.mapValues f).find? k = (m.find? k).map f :=
  lookupEntry_map f k m.entries

variable [Std.TransOrd κ]

/-- What is made of the values is listed alike if it is looked up alike. -/
theorem map_values_eq {m : SortedMap κ ν} {n : SortedMap κ μ} {f : ν → α} {g : μ → α}
    (h : ∀ k, (m.find? k).map f = (n.find? k).map g) : m.values.map f = n.values.map g := by
  have hmap : m.mapValues f = n.mapValues g := by
    apply ext_find?
    intro k
    rw [find?_mapValues, find?_mapValues, h]
  rw [← values_mapValues, ← values_mapValues, hmap]

variable [Std.LawfulEqOrd κ]

/-- Adding all entries of a map to the empty one only changes their values. -/
theorem find?_insertAll_map (f : ν → α) (m : SortedMap κ ν) (k : κ) :
    ((∅ : SortedMap κ α).insertAll (m.entries.map fun e => (e.1, f e.2))).find? k =
      (m.find? k).map f := by
  have hentries := entries_insertAll_of_sorted (∅ : SortedMap κ α)
    (m.entries.map fun e => (e.1, f e.2)) (List.pairwise_map.2 m.sorted)
  rw [find?, hentries]
  exact lookupEntry_map f k m.entries

end Lookup

/-- What stands last under a key in a list of entries. -/
def IsLast (es : List (κ × ν)) (k : κ) (v : ν) : Prop :=
  ∃ before after, es = before ++ (k, v) :: after ∧ k ∉ after.map Prod.fst

omit [Ord κ] in
theorem isLast_cons {e : κ × ν} {es : List (κ × ν)} {k : κ} {v : ν} :
    IsLast (e :: es) k v ↔ IsLast es k v ∨ e = (k, v) ∧ k ∉ es.map Prod.fst := by
  constructor
  · rintro ⟨before, after, he, hafter⟩
    cases before with
    | nil =>
      cases he
      exact .inr ⟨rfl, hafter⟩
    | cons d before =>
      cases he
      exact .inl ⟨before, after, rfl, hafter⟩
  · rintro (⟨before, after, rfl, hafter⟩ | ⟨rfl, hes⟩)
    · exact ⟨e :: before, after, rfl, hafter⟩
    · exact ⟨[], es, rfl, hes⟩

section Later
variable [DecidableEq κ] [Std.TransOrd κ] [Std.LawfulEqOrd κ]

/-- Whatever was in a map before, later entries have the last word. -/
theorem find?_insertAll_eq_some_iff {m : SortedMap κ ν} {es : List (κ × ν)} {k : κ} {v : ν} :
    (m.insertAll es).find? k = some v ↔
      IsLast es k v ∨ k ∉ es.map Prod.fst ∧ m.find? k = some v := by
  induction es generalizing m with
  | nil =>
    have hnone : ¬ IsLast ([] : List (κ × ν)) k v := by
      rintro ⟨before, after, he, -⟩
      cases before <;> cases he
    simp [insertAll, hnone]
  | cons e es ih =>
    change ((m.insert e.1 e.2).insertAll es).find? k = some v ↔ _
    rw [ih, find?_insert, isLast_cons, List.map_cons, List.mem_cons]
    by_cases hk : k = e.1
    · have he : e = (k, v) ↔ e.2 = v := by
        rw [Prod.ext_iff, hk]
        exact and_iff_right rfl
      rw [if_pos hk, Option.some.injEq, he]
      simp [hk, and_comm]
    · have he : e ≠ (k, v) := fun he => hk (he ▸ rfl)
      rw [if_neg hk]
      simp [hk, he]

theorem find?_ofList_eq_some_iff {es : List (κ × ν)} {k : κ} {v : ν} :
    (ofList es).find? k = some v ↔ IsLast es k v := by
  rw [ofList, find?_insertAll_eq_some_iff]
  simp

end Later

end TenantEndpoints.SortedMap
