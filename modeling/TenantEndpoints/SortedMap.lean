/-!
# Maps kept in key order

A finite map is its list of entries, strictly increasing by key. Two maps with
the same answers to every lookup are equal (`ext_find?`), so a map may be
compared, printed and listed without ever choosing an order.
-/
namespace TenantEndpoints

/-- A finite map whose entries are strictly increasing by key. -/
structure SortedMap (κ : Type u) (ν : Type v) [Ord κ] where
  entries : List (κ × ν)
  sorted : entries.Pairwise fun a b => compare a.1 b.1 = .lt

namespace SortedMap

section Entries
variable {κ : Type u} {ν : Type v}

/-- The value of the first entry with this key. -/
def lookupEntry [DecidableEq κ] (k : κ) : List (κ × ν) → Option ν
  | [] => none
  | e :: es => if k = e.1 then some e.2 else lookupEntry k es

variable [Ord κ]

/-- Puts an entry in its place, replacing the entry of the same key. -/
def insertEntry (k : κ) (v : ν) : List (κ × ν) → List (κ × ν)
  | [] => [(k, v)]
  | e :: es => match compare k e.1 with
    | .lt => (k, v) :: e :: es
    | .eq => (k, v) :: es
    | .gt => e :: insertEntry k v es

theorem mem_insertEntry {k : κ} {v : ν} {e : κ × ν} {es : List (κ × ν)}
    (h : e ∈ insertEntry k v es) : e = (k, v) ∨ e ∈ es := by
  induction es with
  | nil => simpa [insertEntry] using h
  | cons d es ih =>
    unfold insertEntry at h
    split at h
    · simpa using h
    · rcases List.mem_cons.1 h with h | h <;> simp [h]
    · rcases List.mem_cons.1 h with h | h
      · simp [h]
      · rcases ih h with h | h <;> simp [h]

variable [Std.TransOrd κ]

theorem compare_self_ne_lt (k : κ) : compare k k ≠ .lt := by
  rw [(Std.ReflCmp.compare_self : compare k k = .eq)]
  exact Ordering.noConfusion

variable [Std.LawfulEqOrd κ]

theorem pairwise_insertEntry (k : κ) (v : ν) {es : List (κ × ν)}
    (h : es.Pairwise fun a b => compare a.1 b.1 = .lt) :
    (insertEntry k v es).Pairwise fun a b => compare a.1 b.1 = .lt := by
  induction es with
  | nil => simp [insertEntry]
  | cons d es ih =>
    have hd := List.pairwise_cons.1 h
    unfold insertEntry
    split
    · next hlt =>
      refine List.pairwise_cons.2 ⟨fun e he => ?_, h⟩
      rcases List.mem_cons.1 he with rfl | he
      · exact hlt
      · exact Std.TransCmp.lt_trans hlt (hd.1 e he)
    · next heq =>
      have hk : k = d.1 := Std.LawfulEqOrd.eq_of_compare heq
      exact List.pairwise_cons.2 ⟨fun e he => hk ▸ hd.1 e he, hd.2⟩
    · next hgt =>
      refine List.pairwise_cons.2 ⟨fun e he => ?_, ih hd.2⟩
      rcases mem_insertEntry he with rfl | he
      · exact Std.OrientedCmp.gt_iff_lt.1 hgt
      · exact hd.1 e he

omit [Std.TransOrd κ] in
theorem lookupEntry_insertEntry [DecidableEq κ] (k k' : κ) (v : ν) (es : List (κ × ν)) :
    lookupEntry k' (insertEntry k v es) = if k' = k then some v else lookupEntry k' es := by
  induction es with
  | nil => simp [insertEntry, lookupEntry]
  | cons e es ih =>
    unfold insertEntry
    split
    · simp [lookupEntry]
    · next heq =>
      have hk : k = e.1 := Std.LawfulEqOrd.eq_of_compare heq
      by_cases h : k' = e.1 <;> simp [lookupEntry, hk, h]
    · next hgt =>
      by_cases h : k' = k
      · have hne : k ≠ e.1 := by
          intro hk
          rw [hk, (Std.ReflCmp.compare_self : compare e.1 e.1 = .eq)] at hgt
          cases hgt
        rw [lookupEntry, if_neg (h ▸ hne), ih]
        simp [h]
      · simp [lookupEntry, h, ih]

omit [Std.LawfulEqOrd κ] in
/-- An entry beyond all others goes to the end. -/
theorem insertEntry_of_forall_lt {k : κ} (v : ν) {es : List (κ × ν)}
    (h : ∀ e ∈ es, compare e.1 k = .lt) : insertEntry k v es = es ++ [(k, v)] := by
  induction es with
  | nil => rfl
  | cons e es ih =>
    have hgt : compare k e.1 = .gt := Std.OrientedCmp.gt_iff_lt.2 (h e (by simp))
    simp [insertEntry, hgt, ih fun d hd => h d (by simp [hd])]

end Entries

variable {κ : Type u} {ν : Type v} [Ord κ]

def empty : SortedMap κ ν := ⟨[], .nil⟩

instance : EmptyCollection (SortedMap κ ν) := ⟨empty⟩
instance : Inhabited (SortedMap κ ν) := ⟨empty⟩

def isEmpty (m : SortedMap κ ν) : Bool := m.entries.isEmpty

def keys (m : SortedMap κ ν) : List κ := m.entries.map (·.1)

def values (m : SortedMap κ ν) : List ν := m.entries.map (·.2)

def filter (m : SortedMap κ ν) (p : κ → ν → Bool) : SortedMap κ ν :=
  ⟨m.entries.filter fun e => p e.1 e.2, m.sorted.filter _⟩

instance [DecidableEq κ] [DecidableEq ν] : DecidableEq (SortedMap κ ν)
  | ⟨a, _⟩, ⟨b, _⟩ => decidable_of_iff (a = b) (by simp)

section Lookup
variable [DecidableEq κ]

def find? (m : SortedMap κ ν) (k : κ) : Option ν := lookupEntry k m.entries

def erase (m : SortedMap κ ν) (k : κ) : SortedMap κ ν := m.filter fun k' _ => k' ≠ k

end Lookup

section Build
variable [Std.TransOrd κ] [Std.LawfulEqOrd κ]

def insert (m : SortedMap κ ν) (k : κ) (v : ν) : SortedMap κ ν :=
  ⟨insertEntry k v m.entries, pairwise_insertEntry k v m.sorted⟩

/-- Adds entries one after the other. -/
def insertAll (m : SortedMap κ ν) (es : List (κ × ν)) : SortedMap κ ν :=
  es.foldl (fun m e => m.insert e.1 e.2) m

/-- Later entries replace earlier ones of the same key. -/
def ofList (es : List (κ × ν)) : SortedMap κ ν := empty.insertAll es

theorem entries_insertAll_of_sorted (m : SortedMap κ ν) (es : List (κ × ν))
    (h : (m.entries ++ es).Pairwise fun a b => compare a.1 b.1 = .lt) :
    (m.insertAll es).entries = m.entries ++ es := by
  induction es generalizing m with
  | nil => simp [insertAll]
  | cons e es ih =>
    have he : (m.insert e.1 e.2).entries = m.entries ++ [e] :=
      insertEntry_of_forall_lt e.2 fun d hd => (List.pairwise_append.1 h).2.2 d hd e (by simp)
    have := ih (m.insert e.1 e.2) (by simpa [he] using h)
    simpa [insertAll, he] using this

omit [Std.TransOrd κ] [Std.LawfulEqOrd κ] in
theorem ext_entries {m n : SortedMap κ ν} (h : m.entries = n.entries) : m = n := by
  obtain ⟨es, hs⟩ := m
  subst h
  rfl

omit [Std.TransOrd κ] [Std.LawfulEqOrd κ] in
@[simp] theorem filter_true (m : SortedMap κ ν) : (m.filter fun _ _ => true) = m :=
  ext_entries (by simp [filter])

@[simp] theorem ofList_entries (m : SortedMap κ ν) : ofList m.entries = m :=
  ext_entries (entries_insertAll_of_sorted empty m.entries m.sorted)

end Build

section Laws
variable [DecidableEq κ]

@[simp] theorem find?_empty (k : κ) : (empty : SortedMap κ ν).find? k = none := rfl

theorem mem_of_find?_eq_some {m : SortedMap κ ν} {k : κ} {v : ν} (h : m.find? k = some v) :
    (k, v) ∈ m.entries := by
  obtain ⟨es, hs⟩ := m
  simp only [find?] at h ⊢
  clear hs
  induction es with
  | nil => simp [lookupEntry] at h
  | cons e es ih =>
    by_cases hk : k = e.1
    · simp only [lookupEntry, hk, if_true, Option.some.injEq] at h
      simp [hk, ← h]
    · simp only [lookupEntry, hk, if_false] at h
      simpa using .inr (ih h)

theorem find?_filter_keys (m : SortedMap κ ν) (p : κ → Bool) (k : κ) :
    (m.filter fun k' _ => p k').find? k = if p k then m.find? k else none := by
  obtain ⟨es, hs⟩ := m
  simp only [filter, find?]
  clear hs
  induction es with
  | nil => simp [lookupEntry]
  | cons e es ih =>
    by_cases hk : k = e.1
    · by_cases hp : p e.1
      · simp [lookupEntry, hk, hp]
      · simp only [List.filter_cons, hk, hp] at ih ⊢
        simpa using ih
    · by_cases hp : p e.1 <;> simp [lookupEntry, hk, hp, ih]

@[simp] theorem find?_erase_self (m : SortedMap κ ν) (k : κ) : (m.erase k).find? k = none := by
  unfold erase
  rw [find?_filter_keys m (fun x => decide (x ≠ k)) k]
  simp

theorem find?_erase_of_ne (m : SortedMap κ ν) {k k' : κ} (h : k' ≠ k) :
    (m.erase k).find? k' = m.find? k' := by
  unfold erase
  rw [find?_filter_keys m (fun x => decide (x ≠ k)) k']
  simp [h]

variable [Std.TransOrd κ]

theorem find?_eq_some_of_mem {m : SortedMap κ ν} {k : κ} {v : ν}
    (h : (k, v) ∈ m.entries) : m.find? k = some v := by
  obtain ⟨es, hs⟩ := m
  simp only [find?] at h ⊢
  induction es with
  | nil => simp at h
  | cons e es ih =>
    have hd := List.pairwise_cons.1 hs
    rcases List.mem_cons.1 h with rfl | h
    · simp [lookupEntry]
    · have hne : k ≠ e.1 := by
        rintro rfl
        exact compare_self_ne_lt _ (hd.1 (e.1, v) h)
      simpa [lookupEntry, hne] using ih hd.2 h

theorem find?_filter (m : SortedMap κ ν) (p : κ → ν → Bool) (k : κ) :
    (m.filter p).find? k = (m.find? k).filter (p k) := by
  cases h : m.find? k with
  | none =>
    cases hf : (m.filter p).find? k with
    | none => rfl
    | some v =>
      have hv := (List.mem_filter.1 (mem_of_find?_eq_some hf)).1
      rw [find?_eq_some_of_mem hv] at h
      cases h
  | some v =>
    have hv := mem_of_find?_eq_some h
    by_cases hp : p k v = true
    · rw [Option.filter_some_pos hp]
      exact find?_eq_some_of_mem (List.mem_filter.2 ⟨hv, hp⟩)
    · rw [Option.filter_some_neg (by simpa using hp)]
      cases hf : (m.filter p).find? k with
      | none => rfl
      | some v' =>
        have hv' := List.mem_filter.1 (mem_of_find?_eq_some hf)
        rw [find?_eq_some_of_mem hv'.1] at h
        cases h
        exact absurd hv'.2 hp

/-- A map is determined by its lookups. -/
theorem ext_find? {m n : SortedMap κ ν} (h : ∀ k, m.find? k = n.find? k) : m = n := by
  have hmem : ∀ e, e ∈ m.entries ↔ e ∈ n.entries := fun e =>
    ⟨fun he => mem_of_find?_eq_some (by rw [← h]; exact find?_eq_some_of_mem he),
      fun he => mem_of_find?_eq_some (by rw [h]; exact find?_eq_some_of_mem he)⟩
  obtain ⟨es, hs⟩ := m
  obtain ⟨ds, ht⟩ := n
  simp only [mk.injEq] at hmem ⊢
  clear h
  have notLess {a : κ × ν} {l : List (κ × ν)}
      (hl : ∀ b ∈ l, compare a.1 b.1 = .lt) : a ∉ l :=
    fun ha => compare_self_ne_lt _ (hl a ha)
  induction es generalizing ds with
  | nil =>
    cases ds with
    | nil => rfl
    | cons d ds => simpa using (hmem d)
  | cons e es ih =>
    cases ds with
    | nil => simpa using (hmem e)
    | cons d ds =>
      have he := List.pairwise_cons.1 hs
      have hd := List.pairwise_cons.1 ht
      have hed : e = d := by
        rcases List.mem_cons.1 ((hmem e).1 (by simp)) with rfl | h1
        · rfl
        rcases List.mem_cons.1 ((hmem d).2 (by simp)) with rfl | h2
        · rfl
        exact absurd (Std.TransCmp.lt_trans (hd.1 e h1) (he.1 d h2)) (compare_self_ne_lt _)
      subst hed
      rw [ih he.2 ds hd.2 fun x => ?_]
      have hx := hmem x
      constructor
      · intro hxe
        rcases List.mem_cons.1 (hx.1 (by simp [hxe])) with rfl | h1
        · exact absurd hxe (notLess he.1)
        · exact h1
      · intro hxd
        rcases List.mem_cons.1 (hx.2 (by simp [hxd])) with rfl | h1
        · exact absurd hxd (notLess hd.1)
        · exact h1

variable [Std.LawfulEqOrd κ]

theorem find?_insert (m : SortedMap κ ν) (k k' : κ) (v : ν) :
    (m.insert k v).find? k' = if k' = k then some v else m.find? k' :=
  lookupEntry_insertEntry k k' v m.entries

@[simp] theorem find?_insert_self (m : SortedMap κ ν) (k : κ) (v : ν) :
    (m.insert k v).find? k = some v := by
  simp [find?_insert]

theorem find?_insert_of_ne (m : SortedMap κ ν) {k k' : κ} (v : ν) (h : k' ≠ k) :
    (m.insert k v).find? k' = m.find? k' := by
  simp [find?_insert, h]

end Laws

end SortedMap

end TenantEndpoints
