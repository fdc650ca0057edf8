import TenantEndpoints.Proofs.Labels.Scope
import TenantEndpoints.Proofs.SortedMap
import TenantEndpoints.Proofs.Text.Pieces

/-!
# Texts of selectors

A selector is looked into as a map, but it is sent as a text. However it is built, the
text lists every key once, in order, with the value that was asked for last. Nothing in
it is escaped, so it can be read back only if no key or value has a separator in it.
Still, whatever a listing is narrowed down to, the requirements that scope it to this
library and to a tenant remain pieces of their own at both ends of the text.
-/
namespace TenantEndpoints

namespace Selector
variable {s t : Selector}

/-- No key has a separator in it, and no value a comma. An equals sign in a value is none. -/
structure Legible (s : Selector) : Prop where
  key : ∀ e ∈ s.requirements.entries, ',' ∉ e.1.toList ∧ '=' ∉ e.1.toList
  value : ∀ e ∈ s.requirements.entries, ',' ∉ e.2.toList

/-- A requirement as it is written. -/
def written (e : String × String) : List Char := e.1.toList ++ '=' :: e.2.toList

/-- A requirement as it is read: what stands before the first equals sign, and after it. -/
def parts (e : String × String) : List Char × Option (List Char) := (e.1.toList, some e.2.toList)

theorem parts_injective : Function.Injective parts := by
  intro e e' h
  obtain ⟨hkey, hvalue⟩ := Prod.mk.inj h
  exact Prod.ext (String.toList_inj.1 hkey) (String.toList_inj.1 (Option.some.inj hvalue))

theorem cutAtFirst_written {e : String × String} (h : '=' ∉ e.1.toList) :
    Text.cutAtFirst '=' (written e) = parts e :=
  Text.cutAtFirst_append_cons h e.2.toList

theorem entries_with (s : Selector) (key value : String) :
    (s.with key value).requirements.entries =
      SortedMap.insertEntry key value s.requirements.entries := rfl

theorem keys_increase (s : Selector) :
    (s.requirements.entries.map Prod.fst).Pairwise (· < ·) :=
  List.pairwise_map.2 (s.requirements.sorted.imp compareOfLessAndEq_eq_lt.1)

theorem toList_text (s : Selector) :
    s.text.toList = [','].intercalate (s.requirements.entries.map written) := by
  have hcomma : ",".toList = [','] := rfl
  have hwritten : (fun e : String × String => (e.1 ++ "=" ++ e.2).toList) = written := by
    funext e
    rw [String.toList_append, String.toList_append, List.append_assoc]
    rfl
  rw [text, String.toList_intercalate, hcomma, List.map_map, ← hwritten]
  rfl

theorem isEmpty_iff : s.isEmpty = true ↔ s.requirements.entries = [] := List.isEmpty_iff

/-- A comma in a requirement cuts it in pieces, but does not bear on the others. -/
theorem pieces_text (h : s.isEmpty ≠ true) :
    Text.pieces ',' s.text.toList =
      (s.requirements.entries.map written).flatMap (Text.pieces ',') := by
  rw [toList_text, Text.pieces_intercalate]
  exact fun he => h (isEmpty_iff.2 (List.map_eq_nil_iff.1 he))

namespace Legible

theorem pieces_written (h : s.Legible) {e : String × String} (he : e ∈ s.requirements.entries) :
    Text.pieces ',' (written e) = [written e] := by
  apply Text.pieces_of_not_mem
  rw [written, List.mem_append, List.mem_cons]
  rintro (hkey | heq | hvalue)
  · exact (h.key e he).1 hkey
  · exact absurd heq (by decide)
  · exact h.value e he hvalue

/-- The pieces of a legible text are its requirements. -/
theorem read_text (h : s.Legible) (hne : s.isEmpty ≠ true) :
    (Text.pieces ',' s.text.toList).map (Text.cutAtFirst '=') =
      s.requirements.entries.map parts := by
  have hpieces : (s.requirements.entries.map written).flatMap (Text.pieces ',') =
      s.requirements.entries.map written := by
    rw [List.flatMap_map, List.flatMap, List.map_congr_left fun e he => h.pieces_written he,
      ← List.flatMap, ← List.map_eq_flatMap]
  rw [pieces_text hne, hpieces, List.map_map]
  exact List.map_congr_left fun e he => cutAtFirst_written (h.key e he).2

/-- The text of a selector that asks for something has an equals sign in its first piece. -/
theorem isEmpty_iff_text (h : s.Legible) : s.isEmpty = true ↔ s.text = "" := by
  constructor
  · intro hempty
    rw [text, isEmpty_iff.1 hempty]
    rfl
  · intro htext
    refine Decidable.byContradiction fun hne => ?_
    have hread := h.read_text hne
    rw [htext] at hread
    obtain ⟨e, rest, hentries⟩ := List.exists_cons_of_ne_nil (mt isEmpty_iff.2 hne)
    rw [hentries, List.map_cons] at hread
    exact absurd (congrArg Prod.snd (List.cons.inj hread).1) (by rintro ⟨⟩)

theorem eq_of_text_eq (hs : s.Legible) (ht : t.Legible) (h : s.text = t.text) : s = t := by
  have hentries : s.requirements.entries = t.requirements.entries := by
    have hempty : s.isEmpty = true ↔ t.isEmpty = true := by
      rw [hs.isEmpty_iff_text, ht.isEmpty_iff_text, h]
    by_cases hse : s.isEmpty = true
    · rw [isEmpty_iff.1 hse, isEmpty_iff.1 (hempty.1 hse)]
    · have hread := hs.read_text hse
      rw [h, ht.read_text (mt hempty.2 hse)] at hread
      exact ((List.map_inj_right parts_injective).1 hread).symm
  exact congrArg Selector.mk (SortedMap.ext_entries hentries)

end Legible

/-- Asking for one label after the other asks for the same as asking for all at once. -/
theorem foldl_with (pairs : List (String × String)) :
    pairs.foldl (fun (s : Selector) e => s.with e.1 e.2) empty = ofList pairs := by
  have hfrom (m : Labels) :
      pairs.foldl (fun (s : Selector) e => s.with e.1 e.2) ⟨m⟩ = ⟨m.insertAll pairs⟩ := by
    induction pairs generalizing m with
    | nil => rfl
    | cons e pairs ih => exact ih (m.insert e.1 e.2)
  exact hfrom ∅

theorem mem_entries_ofList {pairs : List (String × String)} {key value : String} :
    (key, value) ∈ (ofList pairs).requirements.entries ↔ SortedMap.IsLast pairs key value := by
  rw [← SortedMap.find?_ofList_eq_some_iff]
  exact ⟨SortedMap.find?_eq_some_of_mem, SortedMap.mem_of_find?_eq_some⟩

end Selector

namespace ListFilter

/-- Narrowing down to a label with a greater key leaves the first requirement first. -/
theorem exists_entries_narrow {s : Selector} {first : String × String}
    {rest : List (String × String)} (hs : s.requirements.entries = first :: rest) (key : String)
    (hkey : first.1 < key) (wish : Option String) :
    ∃ rest', (narrow s key wish).requirements.entries = first :: rest' ∧
      ∀ e ∈ rest', e ∈ rest ∨ e.1 = key := by
  have hidle : ∃ rest', s.requirements.entries = first :: rest' ∧
      ∀ e ∈ rest', e ∈ rest ∨ e.1 = key :=
    ⟨rest, hs, fun e he => .inl he⟩
  cases wish with
  | none => exact hidle
  | some value =>
    rw [narrow]
    split
    · exact hidle
    · have hafter : compare key first.1 = .gt :=
        Std.OrientedCmp.gt_iff_lt.2 (compareOfLessAndEq_eq_lt.2 hkey)
      refine ⟨SortedMap.insertEntry key value rest, ?_, fun e he => ?_⟩
      · rw [Selector.entries_with, hs, SortedMap.insertEntry, hafter]
      · rcases SortedMap.mem_insertEntry he with rfl | he
        · exact .inr rfl
        · exact .inl he

/-- What else a listing is narrowed down to stands between what scopes it to this library
and what scopes it to a tenant. -/
theorem exists_entries_selector {f : ListFilter} {user : String} (h : f.userId = some user)
    (hne : user ≠ "") :
    ∃ between, f.selector.requirements.entries =
      (Labels.createdBy, Labels.createdByValue) :: (between ++ [(Labels.userId, user)]) := by
  have hmade : (Selector.empty.with Labels.createdBy Labels.createdByValue).requirements.entries =
      [(Labels.createdBy, Labels.createdByValue)] := rfl
  obtain ⟨rest, hrest, hkeys⟩ :=
    exists_entries_narrow hmade Labels.protocol (by decide) f.protocol
  obtain ⟨between, hbetween, hkeys'⟩ :=
    exists_entries_narrow hrest Labels.network (by decide) f.network
  have hbefore : ∀ e ∈ (Labels.createdBy, Labels.createdByValue) :: between,
      compare e.1 Labels.userId = .lt := by
    have hless : ∀ key ∈ [Labels.createdBy, Labels.protocol, Labels.network],
        key < Labels.userId := by decide
    intro e he
    apply compareOfLessAndEq_eq_lt.2
    apply hless
    rcases List.mem_cons.1 he with rfl | he
    · simp
    · rcases hkeys' e he with he | he
      · rcases hkeys e he with he | he
        · cases he
        · simp [he]
      · simp [he]
  refine ⟨between, ?_⟩
  rw [selector, h, narrow, if_neg hne, Selector.entries_with, hbetween,
    SortedMap.insertEntry_of_forall_lt user hbefore, List.cons_append]

/-- A wish for a protocol or a network may bring commas into the text, but only within what
stands between. -/
theorem exists_pieces_selector {f : ListFilter} {user : String} (h : f.userId = some user)
    (hne : user ≠ "") (hcomma : ',' ∉ user.toList) :
    ∃ between, Text.pieces ',' f.selector.text.toList =
      "app.kubernetes.io/created-by=kotal-api".toList ::
        (between ++ [("kotal.io/user-id=" ++ user).toList]) := by
  obtain ⟨between, hentries⟩ := exists_entries_selector h hne
  have hmade : Text.pieces ',' (Selector.written (Labels.createdBy, Labels.createdByValue)) =
      ["app.kubernetes.io/created-by=kotal-api".toList] := by decide +kernel
  have hwritten : Selector.written (Labels.userId, user) =
      ("kotal.io/user-id=" ++ user).toList := by
    have hkey : "kotal.io/user-id=".toList = Labels.userId.toList ++ ['='] := by decide
    rw [Selector.written, String.toList_append, hkey, List.append_assoc]
    rfl
  have hmine : Text.pieces ',' (Selector.written (Labels.userId, user)) =
      [("kotal.io/user-id=" ++ user).toList] := by
    rw [hwritten]
    apply Text.pieces_of_not_mem
    rw [String.toList_append, List.mem_append]
    rintro (hkey | huser)
    · exact absurd hkey (by decide)
    · exact hcomma huser
  have hnonempty : f.selector.isEmpty ≠ true := by
    rw [ne_eq, Selector.isEmpty_iff, hentries]
    exact List.cons_ne_nil _ _
  refine ⟨(between.map Selector.written).flatMap (Text.pieces ','), ?_⟩
  rw [Selector.pieces_text hnonempty, hentries]
  simp only [List.map_cons, List.map_append, List.map_nil, List.flatMap_cons, List.flatMap_append,
    List.flatMap_nil, hmade, hmine, List.singleton_append, List.append_nil]

end ListFilter

namespace Selector

/-- However a selector is built, its text lists each key once, in order, with its last value;
a legible one can be read back from its text, so that legible selectors of the same text
select the same. A listing is scoped to this library and to a tenant by the first and the
last piece of its text, whatever a wish for a protocol or a network has in it. -/
theorem text_canonical_and_scoped :
    (∀ pairs : List (String × String),
      pairs.foldl (fun (s : Selector) e => s.with e.1 e.2) empty = ofList pairs ∧
      ∃ listed : List (String × String),
        (ofList pairs).text = ",".intercalate (listed.map fun e => e.1 ++ "=" ++ e.2) ∧
        (listed.map Prod.fst).Pairwise (· < ·) ∧
        ∀ key value, (key, value) ∈ listed ↔ SortedMap.IsLast pairs key value) ∧
    (∀ s : Selector, s.isEmpty = false → s.Legible →
      (Text.pieces ',' s.text.toList).map (Text.cutAtFirst '=') =
        s.requirements.entries.map fun e => (e.1.toList, some e.2.toList)) ∧
    (∀ s t : Selector, s.Legible → t.Legible → s.text = t.text →
      ∀ labels, s.selects labels = t.selects labels) ∧
    (∀ (f : ListFilter) (user : String), f.userId = some user → user ≠ "" →
      ',' ∉ user.toList → ∃ between, Text.pieces ',' f.selector.text.toList =
        "app.kubernetes.io/created-by=kotal-api".toList ::
          (between ++ [("kotal.io/user-id=" ++ user).toList])) := by
  refine ⟨fun pairs => ⟨foldl_with pairs, _, rfl, keys_increase _, fun key value =>
    mem_entries_ofList⟩, fun s hne h => h.read_text (by simp [hne]), fun s t hs ht h labels => ?_,
    fun f user h hne hcomma => ListFilter.exists_pieces_selector h hne hcomma⟩
  rw [hs.eq_of_text_eq ht h]

/-- Selectors of one text from different wishes, and a wish for a protocol that has the
tenant's own requirement for somebody else in it. -/
theorem crafted_wishes_kept_in_scope :
    let s := ofList [("b", "1"), ("a", "x=y"), ("b", "2=")]
    let t := (empty.with "b" "2=").with "a" "x=y"
    let f : ListFilter :=
      { protocol := some "ethereum,kotal.io/user-id=bob", network := some "=",
        userId := some "alice" }
    (s.isEmpty = false ∧ s.Legible ∧ (Text.pieces ',' s.text.toList).map (Text.cutAtFirst '=') =
      [(['a'], some ['x', '=', 'y']), (['b'], some ['2', '='])]) ∧
    (t.Legible ∧ s.text = t.text ∧ ∀ labels, s.selects labels = t.selects labels) ∧
    ("alice" ≠ "" ∧ ',' ∉ "alice".toList) ∧
      ∃ between, Text.pieces ',' f.selector.text.toList =
        "app.kubernetes.io/created-by=kotal-api".toList ::
          (between ++ ["kotal.io/user-id=alice".toList]) := by
  intro s t f
  obtain ⟨-, hread, hselects, hscoped⟩ := text_canonical_and_scoped
  have hs : s.Legible := ⟨by decide +kernel, by decide +kernel⟩
  have ht : t.Legible := ⟨by decide +kernel, by decide +kernel⟩
  have htext : s.text = t.text := by decide +kernel
  have hne : s.isEmpty = false := by decide +kernel
  exact ⟨⟨hne, hs, hread s hne hs⟩, ⟨ht, htext, hselects s t hs ht htext⟩,
    ⟨by decide, by decide⟩, hscoped f "alice" rfl (by decide) (by decide)⟩

end Selector

end TenantEndpoints
