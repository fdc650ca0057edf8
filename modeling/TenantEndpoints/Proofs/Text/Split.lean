import TenantEndpoints.Text.Split

/-!
# The first occurrence of a pattern

When a text is put together from parts, a pattern first occurs where it was put,
unless it already occurs within what comes before, or begins there and goes on in
what follows.
-/
namespace TenantEndpoints.Text

section Split
variable {α : Type} {pattern before rest : List α}

/-- Where there is no first element of a pattern, there is no occurrence of it either. -/
theorem not_infix_of_not_mem {x : α} {s : List α} (hx : x ∉ before) : ¬ x :: s <:+: before :=
  fun h => hx (h.subset List.mem_cons_self)

theorem infix_of_infix_append {x : α} {s : List α} (hx : x ∉ before)
    (h : x :: s <:+: before ++ rest) : x :: s <:+: rest := by
  induction before with
  | nil => exact h
  | cons c before ih =>
    obtain ⟨hne, hrest⟩ := not_or.1 (mt List.mem_cons.2 hx)
    rcases List.infix_cons_iff.1 h with h | h
    · exact absurd (List.cons_prefix_cons.1 h).1 hne
    · exact ih hrest h

variable [DecidableEq α]

theorem splitAtFirst?_append_self (hne : pattern ≠ []) (after : List α) :
    splitAtFirst? pattern (pattern ++ after) = some ([], after) := by
  cases pattern with
  | nil => exact absurd rfl hne
  | cons c s =>
    have hprefix : (c :: s).isPrefixOf (c :: (s ++ after)) = true :=
      List.isPrefixOf_iff_prefix.2 (List.prefix_append (c :: s) after)
    rw [List.cons_append, splitAtFirst?, if_pos hprefix]
    simp

/-- What has no occurrence in it, and in which none begins that goes on in what
follows, stands before the first occurrence. -/
theorem splitAtFirst?_append (hwithin : ¬ pattern <:+: before)
    (hacross : ∀ u v, pattern = u ++ v → u ≠ [] → v ≠ [] → u <:+ before → ¬ v <+: rest) :
    splitAtFirst? pattern (before ++ rest) =
      (splitAtFirst? pattern rest).map fun r => (before ++ r.1, r.2) := by
  induction before with
  | nil => simp
  | cons c before ih =>
    have hnot : ¬ pattern <+: c :: (before ++ rest) := by
      rintro ⟨t, ht⟩
      rcases List.append_eq_append_iff.1 (ht.trans (List.cons_append ..).symm) with
        ⟨v, he, _⟩ | ⟨v, he, hrest⟩
      · exact hwithin (he ▸ (List.prefix_append pattern v).isInfix)
      · by_cases hv : v = []
        · rw [hv, List.append_nil] at he
          exact hwithin (he ▸ List.infix_refl pattern)
        · exact hacross _ v he (List.cons_ne_nil c before) hv (List.suffix_refl _)
            ⟨t, hrest.symm⟩
    have ih := ih (fun h => hwithin (List.infix_cons h))
      fun u v he hu hv hbefore => hacross u v he hu hv (hbefore.trans (List.suffix_cons c before))
    rw [List.cons_append, splitAtFirst?, if_neg (mt List.isPrefixOf_iff_prefix.1 hnot), ih,
      Option.map_map]
    rfl

/-- What has not even the first element of a pattern in it stands before its first occurrence. -/
theorem splitAtFirst?_append_of_not_mem {x : α} {s : List α} (hx : x ∉ before) :
    splitAtFirst? (x :: s) (before ++ rest) =
      (splitAtFirst? (x :: s) rest).map fun r => (before ++ r.1, r.2) := by
  refine splitAtFirst?_append (not_infix_of_not_mem hx) fun u v he hu _ hbefore => ?_
  obtain ⟨_, _, rfl⟩ := List.exists_cons_of_ne_nil hu
  cases he
  exact absurd (hbefore.subset List.mem_cons_self) hx

/-- A pattern of two different elements cannot begin right before it. -/
theorem splitAtFirst?_pair {x y : α} (hne : x ≠ y) (hwithin : ¬ [x, y] <:+: before)
    (after : List α) : splitAtFirst? [x, y] (before ++ [x, y] ++ after) = some (before, after) := by
  have hacross : ∀ u v, [x, y] = u ++ v → u ≠ [] → v ≠ [] → u <:+ before →
      ¬ v <+: [x, y] ++ after := by
    intro u v he hu hv _ hprefix
    obtain ⟨a, u, rfl⟩ := List.exists_cons_of_ne_nil hu
    obtain ⟨b, v, rfl⟩ := List.exists_cons_of_ne_nil hv
    cases u with
    | nil =>
      cases he
      exact hne (List.cons_prefix_cons.1 hprefix).1.symm
    | cons a' u => cases u <;> cases he
  rw [List.append_assoc, splitAtFirst?_append hwithin hacross,
    splitAtFirst?_append_self (List.cons_ne_nil x [y])]
  simp

theorem eq_append_of_splitAtFirst? {s after : List α}
    (h : splitAtFirst? pattern s = some (before, after)) : s = before ++ pattern ++ after := by
  induction s generalizing before with
  | nil =>
    simp only [splitAtFirst?] at h
    split at h
    · next hempty =>
      cases h
      rw [hempty]
      rfl
    · cases h
  | cons c s ih =>
    simp only [splitAtFirst?] at h
    split at h
    · next hprefix =>
      cases h
      exact (List.prefix_iff_eq_append.1 (List.isPrefixOf_iff_prefix.1 hprefix)).symm
    · obtain ⟨⟨before, after⟩, hrest, he⟩ := Option.map_eq_some_iff.1 h
      cases he
      rw [ih hrest]
      rfl

/-- The first occurrence of a pattern has none before it. -/
theorem not_infix_of_splitAtFirst? (hne : pattern ≠ []) {s after : List α}
    (h : splitAtFirst? pattern s = some (before, after)) : ¬ pattern <:+: before := by
  induction s generalizing before with
  | nil =>
    simp only [splitAtFirst?, if_neg hne] at h
    cases h
  | cons c s ih =>
    simp only [splitAtFirst?] at h
    split at h
    · cases h
      exact fun hinfix => hne (List.infix_nil.1 hinfix)
    · next hnot =>
      obtain ⟨⟨before, after⟩, hrest, he⟩ := Option.map_eq_some_iff.1 h
      cases he
      intro hinfix
      rcases List.infix_cons_iff.1 hinfix with hbegins | hinfix
      · apply hnot
        rw [eq_append_of_splitAtFirst? hrest, List.append_assoc]
        exact List.isPrefixOf_iff_prefix.2 (hbegins.trans (List.prefix_append (c :: before) _))
      · exact ih hrest hinfix

/-- Where there is an occurrence, there is a first one. -/
theorem exists_splitAtFirst? {s : List α} (h : pattern <:+: s) :
    ∃ before after, splitAtFirst? pattern s = some (before, after) := by
  induction s with
  | nil => exact ⟨[], [], by simp [splitAtFirst?, List.infix_nil.1 h]⟩
  | cons c s ih =>
    by_cases hprefix : pattern <+: c :: s
    · exact ⟨[], _, by rw [splitAtFirst?, if_pos (List.isPrefixOf_iff_prefix.2 hprefix)]⟩
    · obtain ⟨before, after, hrest⟩ := ih ((List.infix_cons_iff.1 h).resolve_left hprefix)
      refine ⟨c :: before, after, ?_⟩
      rw [splitAtFirst?, if_neg (mt List.isPrefixOf_iff_prefix.1 hprefix), hrest]
      rfl

/-- What follows a first occurrence does not bear on where it is. -/
theorem splitAtFirst?_append_right {s after : List α}
    (h : splitAtFirst? pattern s = some (before, after)) (rest : List α) (hne : pattern ≠ []) :
    splitAtFirst? pattern (s ++ rest) = some (before, after ++ rest) := by
  induction s generalizing before with
  | nil => simp [splitAtFirst?, hne] at h
  | cons c s ih =>
    have hlength : pattern.length ≤ (c :: s).length := by
      simp [eq_append_of_splitAtFirst? h]
      omega
    rw [splitAtFirst?] at h
    split at h
    · next hprefix =>
      have hprefix' : pattern <+: c :: (s ++ rest) :=
        (List.isPrefixOf_iff_prefix.1 hprefix).trans (List.prefix_append (c :: s) rest)
      cases h
      rw [List.cons_append, splitAtFirst?, if_pos (List.isPrefixOf_iff_prefix.2 hprefix'),
        ← List.cons_append, List.drop_append_of_le_length hlength]
    · next hnot =>
      obtain ⟨⟨before, after⟩, hrest, he⟩ := Option.map_eq_some_iff.1 h
      have hnot' : ¬ pattern <+: c :: (s ++ rest) := fun hprefix =>
        hnot (List.isPrefixOf_iff_prefix.2 (List.prefix_of_prefix_length_le hprefix
          (List.prefix_append (c :: s) rest) hlength))
      cases he
      rw [List.cons_append, splitAtFirst?, if_neg (mt List.isPrefixOf_iff_prefix.1 hnot'),
        ih hrest]
      rfl

end Split

end TenantEndpoints.Text
