import TenantEndpoints.Text.Split

/-!
# Pieces of texts

Texts without a separator are the pieces of what is put together from them with
separators between them, and separators at both ends are trimmed away. The last piece
is what follows the last separator.
-/
namespace TenantEndpoints.Text

variable {α : Type} [DecidableEq α] {sep x : α} {p s : List α}

/-- A separator ends the pieces before it and begins those after it. -/
theorem pieces_append (p s : List α) : pieces sep (p ++ sep :: s) = pieces sep p ++ pieces sep s := by
  induction p with
  | nil => simp [pieces]
  | cons c p ih =>
    by_cases hc : c = sep
    · rw [List.cons_append, pieces, pieces, if_pos hc, if_pos hc, ih, List.cons_append]
    · obtain ⟨q, qs, hq⟩ := List.exists_cons_of_ne_nil (pieces_ne_nil sep p)
      simp only [List.cons_append, pieces, if_neg hc, ih, hq]

theorem pieces_of_not_mem (h : sep ∉ p) : pieces sep p = [p] := by
  induction p with
  | nil => rfl
  | cons c p ih =>
    obtain ⟨hne, hp⟩ := not_or.1 (mt List.mem_cons.2 h)
    rw [pieces, if_neg (Ne.symm hne), ih hp]

/-- Texts put together with separators between them are cut where each of them is cut. -/
theorem pieces_intercalate {ps : List (List α)} (hne : ps ≠ []) :
    pieces sep ([sep].intercalate ps) = ps.flatMap (pieces sep) := by
  induction ps with
  | nil => exact absurd rfl hne
  | cons p ps ih =>
    cases ps with
    | nil => simp
    | cons q qs =>
      rw [List.intercalate_cons_cons, List.append_assoc, List.singleton_append, pieces_append,
        ih (List.cons_ne_nil q qs)]
      rfl

/-- Splitting at a separator loses nothing but the separators. -/
theorem flatten_pieces (sep : α) (s : List α) : (pieces sep s).flatten = s.filter (· ≠ sep) := by
  induction s with
  | nil => simp [pieces]
  | cons c s ih =>
    by_cases hc : c = sep
    · simp [pieces, hc, ih]
    · obtain ⟨q, qs, hq⟩ := List.exists_cons_of_ne_nil (pieces_ne_nil sep s)
      rw [hq] at ih
      simpa [pieces, hc, hq] using ih

theorem not_mem_of_mem_pieces (h : p ∈ pieces sep s) : sep ∉ p := by
  intro hsep
  have hmem := List.mem_flatten.2 ⟨p, h, hsep⟩
  rw [flatten_pieces] at hmem
  simp at hmem

/-- The last piece is what follows the last separator, or everything if there is none. -/
theorem getLast?_pieces_eq_some_iff :
    (pieces sep s).getLast? = some p ↔ sep ∉ p ∧ (s = p ∨ ∃ before, s = before ++ sep :: p) := by
  constructor
  · intro h
    have hp : sep ∉ p := not_mem_of_mem_pieces (List.mem_of_getLast? h)
    refine ⟨hp, ?_⟩
    by_cases hs : sep ∈ s.reverse
    · obtain ⟨after, before, hsplit, hafter⟩ := List.eq_append_cons_of_mem hs
      have hwhole : s = before.reverse ++ sep :: after.reverse := by
        rw [← List.reverse_reverse s, hsplit]
        simp
      have hlast : sep ∉ after.reverse := by rwa [List.mem_reverse]
      rw [hwhole, pieces_append, pieces_of_not_mem hlast, List.getLast?_concat] at h
      cases h
      exact .inr ⟨before.reverse, hwhole⟩
    · rw [List.mem_reverse] at hs
      rw [pieces_of_not_mem hs] at h
      cases h
      exact .inl rfl
  · rintro ⟨hp, rfl | ⟨before, rfl⟩⟩
    · rw [pieces_of_not_mem hp]
      rfl
    · rw [pieces_append, pieces_of_not_mem hp, List.getLast?_concat]

/-- What has no separator in it stands before the first one. -/
theorem cutAtFirst_append_cons (h : sep ∉ p) (s : List α) :
    cutAtFirst sep (p ++ sep :: s) = (p, some s) := by
  induction p with
  | nil => rw [List.nil_append, cutAtFirst, if_pos rfl]
  | cons c p ih =>
    obtain ⟨hne, hp⟩ := not_or.1 (mt List.mem_cons.2 h)
    rw [List.cons_append, cutAtFirst, if_neg (Ne.symm hne), ih hp]

end TenantEndpoints.Text
