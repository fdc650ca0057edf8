import Mathlib.Data.List.Nodup
import TenantEndpoints.Json.Record
import TenantEndpoints.Proofs.SortedMap

/-!
# What is written is read back

A record is written with each of its fields at most once, so that it can be looked up
again by name in whatever order the members are kept. What is read back is the value
that was written, part by part: a text from its string, a list from its items, a map
from its entries and a record from its fields. What is left out on writing has to be
what is missing on reading, so no part is written as `null`.
-/
namespace TenantEndpoints

namespace SortedMap
variable {κ : Type u} {ν : Type v} [DecidableEq κ]

theorem lookup_of_mem {es : List (κ × ν)} (h : (es.map (·.1)).Nodup) {e : κ × ν} (he : e ∈ es) :
    es.lookup e.1 = some e.2 := by
  induction es with
  | nil => cases he
  | cons d es ih =>
    obtain ⟨hnot, hnodup⟩ := List.nodup_cons.1 h
    rw [List.lookup_cons]
    rcases List.mem_cons.1 he with rfl | he
    · rw [beq_self_eq_true]
    · have hne : e.1 ≠ d.1 := by
        intro hkey
        exact hnot (List.mem_map.2 ⟨e, he, hkey⟩)
      rw [beq_eq_false_iff_ne.2 hne]
      exact ih hnodup he

/-- Looking up what is made of the values finds what is made of the value. -/
theorem lookup_map (f : ν → α) (k : κ) (es : List (κ × ν)) :
    (es.map fun e => (e.1, f e.2)).lookup k = (es.lookup k).map f := by
  induction es with
  | nil => rfl
  | cons e es ih =>
    rw [List.map_cons, List.lookup_cons, List.lookup_cons]
    cases k == e.1 with
    | true => rfl
    | false => exact ih

theorem lookup_eq_lookupEntry (k : κ) (es : List (κ × ν)) : es.lookup k = lookupEntry k es := by
  induction es with
  | nil => rfl
  | cons e es ih =>
    rw [List.lookup_cons, lookupEntry, ih]
    by_cases hk : k = e.1
    · rw [if_pos hk, beq_iff_eq.2 hk]
    · rw [if_neg hk, beq_eq_false_iff_ne.2 hk]

variable [Ord κ] [Std.TransOrd κ] [Std.LawfulEqOrd κ]

/-- Entries that are put into a map are all found there. -/
theorem find?_insertAll {es : List (κ × ν)} (h : (es.map (·.1)).Nodup) (m : SortedMap κ ν) (k : κ) :
    (m.insertAll es).find? k = (es.lookup k).or (m.find? k) := by
  induction es generalizing m with
  | nil => rfl
  | cons e es ih =>
    obtain ⟨hnot, hnodup⟩ := List.nodup_cons.1 h
    change ((m.insert e.1 e.2).insertAll es).find? k = _
    rw [ih hnodup, find?_insert, List.lookup_cons]
    by_cases hk : k = e.1
    · have hnone : es.lookup k = none := by
        refine List.lookup_eq_none_iff.2 fun d hd => bne_iff_ne.2 fun he => hnot ?_
        exact List.mem_map.2 ⟨d, hd, he.symm.trans hk⟩
      rw [if_pos hk, hnone, beq_iff_eq.2 hk]
      rfl
    · rw [if_neg hk, beq_eq_false_iff_ne.2 hk]

theorem lookup_ofList {es : List (κ × ν)} (h : (es.map (·.1)).Nodup) (k : κ) :
    (ofList es).entries.lookup k = es.lookup k := by
  rw [lookup_eq_lookupEntry]
  exact (find?_insertAll h empty k).trans Option.or_none

omit [DecidableEq κ] [Std.LawfulEqOrd κ] in
theorem nodup_keys (m : SortedMap κ ν) : (m.entries.map (·.1)).Nodup := by
  refine List.pairwise_map.2 (m.sorted.imp fun {a b} hlt => ?_)
  intro he
  rw [he] at hlt
  exact compare_self_ne_lt _ hlt

omit [DecidableEq κ] in
/-- Values that are changed keep their places. -/
theorem entries_ofList_map (m : SortedMap κ ν) (f : ν → α) :
    (ofList (m.entries.map fun e => (e.1, f e.2))).entries = m.entries.map fun e => (e.1, f e.2) :=
  congrArg entries (ofList_entries (m.mapValues f))

end SortedMap

namespace Json

/-- What can be looked up by the names that are known is what was written. -/
structure Written (known : String → Prop) (fields : List (String × Option Json)) (ms : Fields) :
    Prop where
  nodup : (ms.map (·.1)).Nodup
  lookup (name : String) (h : known name) :
    ms.lookup name = (fields.lookup name).join.map fun v => .value v.canonical

section Record
variable {fields : List (String × Option Json)}

theorem sublist_names (fields : List (String × Option Json)) :
    ((fields.filterMap fun f => f.2.map fun v => (f.1, v)).map (·.1)).Sublist
      (fields.map (·.1)) := by
  induction fields with
  | nil => exact .slnil
  | cons f fields ih =>
    obtain ⟨name, _ | v⟩ := f
    · exact ih.cons name
    · exact ih.cons_cons name

theorem lookup_filterMap (h : (fields.map (·.1)).Nodup) (name : String) :
    (fields.filterMap fun f => f.2.map fun v => (f.1, v)).lookup name =
      (fields.lookup name).join := by
  induction fields with
  | nil => rfl
  | cons f fields ih =>
    obtain ⟨hnot, hnodup⟩ := List.nodup_cons.1 h
    obtain ⟨name', v?⟩ := f
    rw [List.lookup_cons]
    by_cases hname : name = name'
    · have hnone : (fields.filterMap fun f => f.2.map fun v => (f.1, v)).lookup name = none := by
        refine List.lookup_eq_none_iff.2 fun m hm => bne_iff_ne.2 fun he => hnot ?_
        exact (sublist_names fields).subset (List.mem_map.2 ⟨m, hm, he.symm.trans hname⟩)
      rw [beq_iff_eq.2 hname]
      cases v? with
      | none => exact hnone
      | some v =>
        change List.lookup name ((name', v) :: _) = _
        rw [List.lookup_cons, beq_iff_eq.2 hname]
        rfl
    · rw [beq_eq_false_iff_ne.2 hname]
      cases v? with
      | none => exact ih hnodup
      | some v =>
        change List.lookup name ((name', v) :: _) = _
        rw [List.lookup_cons, beq_eq_false_iff_ne.2 hname]
        exact ih hnodup

theorem canonical_record_ne_null : (record fields).canonical ≠ .null := by
  unfold record canonical
  exact fun h => nomatch h

theorem items?_record : (Draft.value (record fields).canonical).items? = none := by
  unfold record canonical
  rfl

/-- A record that was written has its fields as members, in the order of their names. -/
theorem members?_record (h : (fields.map (·.1)).Nodup) :
    ∃ ms, (Draft.value (record fields).canonical).members? = some ms ∧
      Written (fun _ => True) fields ms := by
  let given := fields.filterMap fun f => f.2.map fun v => (f.1, v)
  let sorted := SortedMap.ofList (given.map fun m => (m.1, canonical m.2))
  have hgiven : ((given.map fun m => (m.1, canonical m.2)).map (·.1)).Nodup := by
    rw [List.map_map]
    exact h.sublist (sublist_names fields)
  have hcanonical : (record fields).canonical = .object sorted.entries := by
    rw [record, canonical, canonicalMembers_eq_map]
  refine ⟨sorted.entries.map fun m => (m.1, .value m.2), by rw [hcanonical]; rfl, ?_,
    fun name _ => ?_⟩
  · rw [List.map_map]
    exact sorted.nodup_keys
  · rw [SortedMap.lookup_map, SortedMap.lookup_ofList hgiven, SortedMap.lookup_map,
      lookup_filterMap h, Option.map_map]
    rfl

theorem lookup_filter {names : List String} {name : String} (hname : name ∈ names) (ms : Fields) :
    (ms.filter (·.1 ∈ names)).lookup name = ms.lookup name := by
  induction ms with
  | nil => rfl
  | cons m ms ih =>
    by_cases hm : m.1 ∈ names
    · rw [List.filter_cons_of_pos (by simpa using hm), List.lookup_cons, List.lookup_cons, ih]
    · have hne : name ≠ m.1 := fun he => hm (he ▸ hname)
      rw [List.filter_cons_of_neg (by simpa using hm), List.lookup_cons,
        beq_eq_false_iff_ne.2 hne, ih]

/-- No known field of it is repeated. -/
theorem positional?_record (h : (fields.map (·.1)).Nodup) (names : List String) :
    ∃ ms, (Draft.value (record fields).canonical).positional? names = some ms ∧
      Written (· ∈ names) fields ms := by
  obtain ⟨ms, hms, hwritten⟩ := members?_record h
  have hnodup : ((ms.filter (·.1 ∈ names)).map (·.1)).Nodup :=
    hwritten.nodup.sublist (List.filter_sublist.map _)
  refine ⟨ms.filter (·.1 ∈ names), ?_, hnodup, fun name hname => ?_⟩
  · simp only [Draft.positional?, items?_record, Draft.distinct?, hms, Option.bind_eq_bind,
      Option.bind_some, if_pos hnodup]
  · rw [lookup_filter hname]
    exact hwritten.lookup name trivial

end Record

/-- What is written of a value is read as the value. -/
structure ReadBack (read? : Draft → Option α) (v : Json) (x : α) : Prop where
  reads : read? (.value v.canonical) = some x
  ne_null : v.canonical ≠ .null

section Values
variable {α : Type} {read? : Draft → Option α} {write : α → Json}

theorem readBack_string (s : String) : ReadBack Draft.string? (.string s) s :=
  ⟨by simp [canonical, Draft.string?, Draft.value?, Json.string?], by simp [canonical]⟩

theorem readBack_bool (b : Bool) : ReadBack Draft.bool? (.bool b) b :=
  ⟨by simp [canonical, Draft.bool?, Draft.value?, Json.bool?], by simp [canonical]⟩

theorem canonicalItems_eq_map (vs : List Json) : canonicalItems vs = vs.map canonical := by
  induction vs with
  | nil => simp [canonicalItems]
  | cons v vs ih => simp [canonicalItems, ih]

theorem readBack_list {xs : List α} (h : ∀ x ∈ xs, read? (.value (write x).canonical) = some x) :
    ReadBack (Draft.listOf? read?) (.array (xs.map write)) xs := by
  refine ⟨?_, by simp [canonical]⟩
  have hitems : (xs.map fun x => Draft.value (write x).canonical).mapM read? = some xs := by
    induction xs with
    | nil => rfl
    | cons x xs ih =>
      obtain ⟨hx, hxs⟩ := List.forall_mem_cons.1 h
      rw [List.map_cons, List.mapM_cons, hx, ih hxs]
      rfl
  rw [canonical, canonicalItems_eq_map, List.map_map]
  change ((List.map _ (xs.map _)).mapM read? : Option (List α)) = _
  rw [List.map_map]
  exact hitems

/-- A map is written with its entries in their order. -/
theorem readBack_map {m : SortedMap String α}
    (h : ∀ e ∈ m.entries, read? (.value (write e.2).canonical) = some e.2) :
    ReadBack (Draft.mapOf? read?) (ofMap write m) m := by
  have hcanonical : (ofMap write m).canonical =
      .object (m.entries.map fun e => (e.1, (write e.2).canonical)) := by
    rw [ofMap, canonical, canonicalMembers_eq_map, List.map_map]
    exact congrArg Json.object (m.entries_ofList_map fun x => (write x).canonical)
  refine ⟨?_, by rw [hcanonical]; exact fun he => nomatch he⟩
  have hentries (es : List (String × α))
      (h : ∀ e ∈ es, read? (.value (write e.2).canonical) = some e.2) :
      (es.map fun e => (e.1, Draft.value (write e.2).canonical)).mapM
        (fun m => do some (m.1, ← read? m.2)) = some es := by
    induction es with
    | nil => rfl
    | cons e es ih =>
      obtain ⟨he, hes⟩ := List.forall_mem_cons.1 h
      rw [List.map_cons, List.mapM_cons, ih hes, he]
      rfl
  rw [hcanonical]
  unfold Draft.mapOf?
  have hmembers : (Draft.value (.object (m.entries.map fun e =>
      (e.1, (write e.2).canonical)))).members? =
        some (m.entries.map fun e => (e.1, Draft.value (write e.2).canonical)) := by
    change some (List.map _ (m.entries.map _)) = _
    rw [List.map_map]
    rfl
  rw [hmembers]
  change Option.bind ((m.entries.map _).mapM _) _ = _
  rw [hentries m.entries h]
  exact congrArg some m.ofList_entries

section Fields
variable {known : String → Prop} {names : List String} {fields : List (String × Option Json)}
  {ms : Fields} {name : String} {v? : Option Json} {x? : Option α}

/-- What is read of a field of a lenient record that is there. -/
def present (read? : Draft → Option α) : Draft → Option (Option α)
  | .value .null => some none
  | d => (read? d).map some

theorem optional_eq (ms : Fields) (name : String) (read? : Draft → Option α) :
    ms.optional name read? = match ms.lookup name with
      | none => some none
      | some d => present read? d := by
  unfold Fields.optional
  cases ms.lookup name with
  | none => rfl
  | some d =>
    cases d with
    | value v => cases v <;> rfl
    | _ => rfl

theorem present_of_ne_null {d : Draft} (h : d ≠ .value .null) : present read? d = (read? d).map some := by
  unfold present
  split
  · exact absurd rfl h
  · rfl

theorem readBack_option {x? : Option α} (h : ∀ x, x? = some x → ReadBack read? (write x) x) :
    Option.Rel (ReadBack read?) (x?.map write) x? := by
  cases x? with
  | none => exact .none
  | some x => exact .some (h x rfl)

theorem Written.required (h : Written known fields ms) (hname : known name) {v : Json} {x : α}
    (hfield : fields.lookup name = some (some v)) (hread : ReadBack read? v x) :
    ms.required name read? = some x := by
  rw [Fields.required, h.lookup name hname, hfield]
  exact hread.reads

theorem Written.optional (h : Written known fields ms) (hname : known name)
    (hfield : fields.lookup name = some v?) (hread : Option.Rel (ReadBack read?) v? x?) :
    ms.optional name read? = some x? := by
  rw [optional_eq, h.lookup name hname, hfield]
  cases hread with
  | none => rfl
  | @some v x hread =>
    change present read? (.value v.canonical) = _
    rw [present_of_ne_null (fun he => hread.ne_null (Draft.value.inj he)), hread.reads]
    rfl

theorem Written.defaulted (h : Written known fields ms) (hname : known name) {v : Json}
    {x x' : α} (hfield : fields.lookup name = some (some v)) (hread : ReadBack read? v x) :
    ms.defaulted name read? x' = some x := by
  rw [Fields.defaulted, h.lookup name hname, hfield]
  exact hread.reads

/-- A list that is not written when it is empty is empty where it is missing. -/
theorem Written.defaulted_nonEmpty (h : Written known fields ms) (hname : known name) {xs : List α}
    {v? : Option Json} (hfield : fields.lookup name = some v?)
    (hv : v? = if xs.isEmpty then none else some (.array (xs.map write)))
    (hread : ∀ x ∈ xs, read? (.value (write x).canonical) = some x) :
    ms.defaulted name (Draft.listOf? read?) [] = some xs := by
  rw [Fields.defaulted, h.lookup name hname, hfield, hv]
  cases xs with
  | nil => rfl
  | cons x xs => exact (readBack_list hread).reads

theorem last_eq (ms : Fields) (name : String) (read? : Draft → Option α) :
    ms.last name read? = ms.foldlM (fun found m =>
      if m.1 ≠ name then some found else present read? m.2) none := rfl

/-- Where no field is repeated, the last one with a name is the only one. -/
theorem last_eq_optional (h : (ms.map (·.1)).Nodup) (name : String)
    (read? : Draft → Option α) : ms.last name read? = ms.optional name read? := by
  have hpast {ms : Fields} (hnot : name ∉ ms.map (·.1)) (found : Option α) :
      ms.foldlM (fun found m => if m.1 ≠ name then some found else present read? m.2) found =
        some found := by
    induction ms with
    | nil => rfl
    | cons m ms ih =>
      have hne : m.1 ≠ name := fun he => hnot (he ▸ List.mem_cons_self)
      rw [List.foldlM_cons, if_pos hne]
      exact ih fun hmem => hnot (List.mem_cons_of_mem _ hmem)
  rw [last_eq, optional_eq]
  induction ms with
  | nil => rfl
  | cons m ms ih =>
    obtain ⟨hnot, hnodup⟩ := List.nodup_cons.1 h
    rw [List.foldlM_cons, List.lookup_cons]
    by_cases hm : m.1 = name
    · rw [hm, beq_self_eq_true, if_neg (fun hne => hne rfl)]
      dsimp only
      cases present read? m.2 with
      | none => rfl
      | some found => exact hpast (hm ▸ hnot) found
    · rw [if_pos hm, beq_eq_false_iff_ne.2 (Ne.symm hm)]
      exact ih hnodup

theorem Written.last (h : Written known fields ms) (hname : known name)
    (hfield : fields.lookup name = some v?) (hread : Option.Rel (ReadBack read?) v? x?) :
    ms.last name read? = some x? :=
  (last_eq_optional h.nodup name read?).trans (h.optional hname hfield hread)

/-- A positional record is read back if its fields are. -/
theorem readBack_positional (hnodup : (fields.map (·.1)).Nodup) {read : Fields → Option α} {x : α}
    (hread : ∀ ms, Written (· ∈ names) fields ms → read ms = some x) :
    ReadBack (fun d => (d.positional? names).bind read) (record fields) x := by
  obtain ⟨ms, hms, hwritten⟩ := positional?_record hnodup names
  refine ⟨?_, canonical_record_ne_null⟩
  rw [hms]
  exact hread ms hwritten

/-- A lenient record is read back if its fields are. -/
theorem readBack_lenient (hnodup : (fields.map (·.1)).Nodup) {read : Fields → Option α} {x : α}
    (hread : ∀ ms, Written (fun _ => True) fields ms → read ms = some x) :
    ReadBack (fun d => d.members?.bind read) (record fields) x := by
  obtain ⟨ms, hms, hwritten⟩ := members?_record hnodup
  refine ⟨?_, canonical_record_ne_null⟩
  rw [hms]
  exact hread ms hwritten

end Fields

end Values

end Json

end TenantEndpoints
