import TenantEndpoints.Json.Kept
import TenantEndpoints.Proofs.Json.ReadBack

/-!
# Kept parts are read back

A part that is kept is read as the value to write. Reading that value again gives it
once more, and what was added for a missing field is as good as read.
-/
namespace TenantEndpoints.Json.Kept

/-- Whatever is read of a part that is there is read back. -/
def Stable (p : Part) : Prop := ∀ d v, d ≠ .value .null → p d = some v → ReadBack p v v

/-- A field whose part is stable, and so is what is written where it is missing. -/
structure Field.Sound (f : Field) : Prop where
  part : Stable f.part
  missing : ∀ v, f.missing = .written v → ReadBack f.part v v

section Parts

theorem stable_map {α : Type} {read? : Draft → Option α} {write : α → Json}
    (h : ∀ d x, read? d = some x → ReadBack read? (write x) x) :
    Stable fun d => (read? d).map write := by
  intro d v _ hread
  obtain ⟨x, hx, rfl⟩ := Option.map_eq_some_iff.1 hread
  obtain ⟨hreads, hne⟩ := h d x hx
  exact ⟨by rw [hreads]; rfl, hne⟩

theorem stable_text : Stable text := stable_map fun _ s _ => readBack_string s

/-- A number that has been read is small enough to be read again. -/
theorem readBack_signed {bits : Nat} {d : Draft} {n : Int} (h : d.signed? bits = some n) :
    ReadBack (Draft.signed? bits) (.integer n) n := by
  obtain ⟨v, _, hv⟩ := Option.bind_eq_some_iff.1 h
  have hbounds : Json.signed? bits (.integer n) = some n := by
    unfold Json.signed? integerWithin? at hv ⊢
    split at hv
    · split at hv
      · next hwithin =>
        cases hv
        exact if_pos hwithin
      · cases hv
    · cases hv
  refine ⟨?_, by simp [canonical]⟩
  rw [canonical]
  · exact hbounds
  all_goals exact fun _ he => nomatch he

theorem canonical_eq_null {v : Json} (h : v.canonical = .null) : v = .null := by
  cases v with
  | null => rfl
  | _ => simp [canonical] at h

theorem stable_anything : Stable anything := by
  intro d v hd hread
  obtain ⟨v', hv', rfl⟩ := Option.map_eq_some_iff.1 hread
  have hne : v' ≠ .null := by
    rintro rfl
    exact hd (Draft.value?_eq_some hv')
  refine ⟨?_, ?_⟩
  · change some v'.canonical.canonical.canonical = _
    rw [canonical_canonical, canonical_canonical]
  · rw [canonical_canonical]
    exact fun he => hne (canonical_eq_null he)

theorem mem_of_mapM {α β : Type} {f : α → Option β} {xs : List α} {ys : List β}
    (h : xs.mapM f = some ys) : ∀ y ∈ ys, ∃ x ∈ xs, f x = some y := by
  induction xs generalizing ys with
  | nil =>
    cases h
    exact fun _ hy => nomatch hy
  | cons x xs ih =>
    rw [List.mapM_cons] at h
    obtain ⟨y, hy, h⟩ := Option.bind_eq_some_iff.1 h
    obtain ⟨ys', hys, h⟩ := Option.bind_eq_some_iff.1 h
    cases h
    refine List.forall_mem_cons.2 ⟨⟨x, List.mem_cons_self, hy⟩, fun y' hy' => ?_⟩
    obtain ⟨x', hx', he⟩ := ih hys y' hy'
    exact ⟨x', List.mem_cons_of_mem _ hx', he⟩

/-- The items of a list may not be `null`. -/
theorem stable_listOf {item : Part} (h : Stable item) (hnull : item (.value .null) = none) :
    Stable (listOf item) := by
  refine stable_map fun d vs hread => ?_
  obtain ⟨items, _, hitems⟩ := Option.bind_eq_some_iff.1 hread
  have hback : ∀ v ∈ vs, item (.value (id v).canonical) = some v := by
    intro v hv
    obtain ⟨d', _, hd'⟩ := mem_of_mapM hitems v hv
    have hne : d' ≠ .value .null := by
      rintro rfl
      rw [hnull] at hd'
      cases hd'
    exact (h d' v hne hd').reads
  rw [← List.map_id vs]
  simpa only [List.map_id] using readBack_list hback

end Parts

section Records
variable {known : String → Prop} {written : List (String × Option Json)} {fs ms : Fields}

/-- What is found of a field was found before, or was read from something that is there. -/
theorem found_or_exists {α : Type} {name : String} {read? : Draft → Option α} {x : α}
    {found : Option α} (h : fs.foldlM (fun found m =>
      if m.1 ≠ name then some found else present read? m.2) found = some (some x)) :
    found = some x ∨ ∃ d, d ≠ .value .null ∧ read? d = some x := by
  induction fs generalizing found with
  | nil => exact .inl (Option.some.inj h)
  | cons m fs ih =>
    rw [List.foldlM_cons] at h
    obtain ⟨found', hfound, h⟩ := Option.bind_eq_some_iff.1 h
    rcases ih h with rfl | hread
    · split at hfound
      · exact .inl (Option.some.inj hfound)
      · by_cases hnull : m.2 = .value .null
        · rw [hnull] at hfound
          cases hfound
        · rw [present_of_ne_null hnull] at hfound
          obtain ⟨_, hread, he⟩ := Option.map_eq_some_iff.1 hfound
          cases he
          exact .inr ⟨m.2, hnull, hread⟩
    · exact .inr hread

theorem exists_of_last {α : Type} {name : String} {read? : Draft → Option α} {x : α}
    (h : fs.last name read? = some (some x)) : ∃ d, d ≠ .value .null ∧ read? d = some x := by
  rw [last_eq] at h
  rcases found_or_exists h with he | hread
  · cases he
  · exact hread

/-- What is to be written of a field is the same after it has been written. -/
theorem read?_of_written {f : Field} (hf : f.Sound) (h : Written known written ms)
    (hname : known f.name) {v? : Option Json} (hfield : written.lookup f.name = some v?)
    (hread : f.read? fs = some v?) : f.read? ms = some v? := by
  unfold Field.read? at hread ⊢
  obtain ⟨found, hfound, hread⟩ := Option.bind_eq_some_iff.1 hread
  have hback {v : Json} (hv : v? = some v) (hpart : ReadBack f.part v v) :
      ms.last f.name f.part = some v? := by
    rw [hv] at hfield ⊢
    exact h.last hname hfield (.some hpart)
  cases found with
  | some v =>
    cases hread
    obtain ⟨d, hne, hd⟩ := exists_of_last hfound
    rw [hback rfl (hf.part d v hne hd)]
    rfl
  | none =>
    cases hm : f.missing with
    | omitted =>
      rw [hm] at hread
      cases hread
      rw [h.last hname hfield .none]
      rfl
    | written v =>
      rw [hm] at hread
      cases hread
      rw [hback rfl (hf.missing v hm)]
      rfl
    | refused =>
      rw [hm] at hread
      cases hread

theorem fields_of_written {parts : List Field} (hsound : ∀ f ∈ parts, f.Sound)
    (h : Written known written ms) (hnames : ∀ f ∈ parts, known f.name)
    {kept : List (String × Option Json)} (hfields : ∀ e ∈ kept, written.lookup e.1 = some e.2)
    (hread : fields parts fs = some kept) : fields parts ms = some kept := by
  unfold fields at hread ⊢
  induction parts generalizing kept with
  | nil => exact hread
  | cons f parts ih =>
    rw [List.mapM_cons] at hread ⊢
    obtain ⟨e, he, hread⟩ := Option.bind_eq_some_iff.1 hread
    obtain ⟨es, hes, hread⟩ := Option.bind_eq_some_iff.1 hread
    cases hread
    obtain ⟨v?, hv, rfl⟩ := Option.map_eq_some_iff.1 he
    obtain ⟨hf, hsound⟩ := List.forall_mem_cons.1 hsound
    obtain ⟨hname, hnames⟩ := List.forall_mem_cons.1 hnames
    obtain ⟨hfield, hfields⟩ := List.forall_mem_cons.1 hfields
    rw [read?_of_written hf h hname hfield hv, ih hsound hnames hfields hes]
    rfl

theorem names_of_fields {known : List Field} {kept : List (String × Option Json)}
    (h : fields known fs = some kept) : kept.map (·.1) = known.map Field.name := by
  unfold fields at h
  induction known generalizing kept with
  | nil =>
    cases h
    rfl
  | cons f known ih =>
    rw [List.mapM_cons] at h
    obtain ⟨e, he, h⟩ := Option.bind_eq_some_iff.1 h
    obtain ⟨es, hes, h⟩ := Option.bind_eq_some_iff.1 h
    cases h
    obtain ⟨v?, _, rfl⟩ := Option.map_eq_some_iff.1 he
    rw [List.map_cons, List.map_cons, ih hes]

theorem stable_recordOf {known : List Field} (hnodup : (known.map Field.name).Nodup)
    (hsound : ∀ f ∈ known, f.Sound) : Stable (recordOf known) := by
  refine stable_map fun d kept hread => ?_
  obtain ⟨fs, _, hfs⟩ := Option.bind_eq_some_iff.1 hread
  have hkept : (kept.map (·.1)).Nodup := by
    rw [names_of_fields hfs]
    exact hnodup
  exact readBack_lenient hkept fun ms hms => fields_of_written hsound hms
    (fun _ _ => trivial) (fun e he => SortedMap.lookup_of_mem hkept he) hfs

end Records

end TenantEndpoints.Json.Kept
