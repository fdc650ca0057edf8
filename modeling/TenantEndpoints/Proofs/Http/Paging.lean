import TenantEndpoints.Proofs.Http.Listing
import TenantEndpoints.Proofs.Http.Rejection

/-!
# Pages of listings

A query is understood if each of its pages and limits is a positive number of at most
64 bits, and of several the last counts. The pages of a list are then what stands at
their positions in it: put one after the other they are the list. How many items a
listing has to show does not depend on the page, and is what counting them gives.
-/
namespace TenantEndpoints

namespace Text

/-- A text writes a number in decimal digits, with or without a plus sign before them. -/
def Denotes (text : String) (n : Nat) : Prop :=
  ∃ ds, (text.toList = ds ∨ text.toList = '+' :: ds) ∧ ds ≠ [] ∧ (∀ c ∈ ds, isDigit c = true) ∧
    n = Nat.ofDigitChars 10 ds 0

theorem digitsValue_eq (ds : List Char) : digitsValue ds = Nat.ofDigitChars 10 ds 0 := by
  simp only [digitsValue, Nat.ofDigitChars, Nat.mul_comm]

theorem readDigits?_eq_some_iff {ds : List Char} {n : Nat} : readDigits? ds = some n ↔
    ds ≠ [] ∧ (∀ c ∈ ds, isDigit c = true) ∧ n = Nat.ofDigitChars 10 ds 0 := by
  unfold readDigits?
  rw [← digitsValue_eq, ← List.all_eq_true]
  by_cases h : ds ≠ [] ∧ ds.all isDigit = true
  · rw [if_pos h, Option.some.injEq]
    exact ⟨fun he => ⟨h.1, h.2, he.symm⟩, fun he => he.2.2.symm⟩
  · rw [if_neg h]
    exact ⟨nofun, fun he => absurd ⟨he.1, he.2.1⟩ h⟩

/-- A number is read where one is written that has no more bits than it may have. -/
theorem readUnsigned?_eq_some_iff {bits : Nat} {text : String} {n : Nat} :
    readUnsigned? bits text = some n ↔ Denotes text n ∧ n ≤ maxUnsigned bits := by
  unfold readUnsigned? Denotes
  rw [Option.filter_eq_some_iff, readDigits?_eq_some_iff, decide_eq_true_eq]
  refine and_congr_left' ?_
  split
  · next ds hsign =>
    constructor
    · exact fun h => ⟨ds, .inr hsign, h⟩
    · rintro ⟨ds', hds' | hds', hne, hdigits, hn⟩
      · have hplus : isDigit '+' = true := hdigits '+' (by rw [← hds', hsign]; exact .head ds)
        exact absurd hplus (by decide)
      · rw [hsign] at hds'
        cases hds'
        exact ⟨hne, hdigits, hn⟩
  · next hsign =>
    constructor
    · exact fun h => ⟨_, .inl rfl, h⟩
    · rintro ⟨ds', hds' | hds', h⟩
      · rw [hds']
        exact h
      · exact absurd hds' (hsign ds')

/-- A text writes at most one number. -/
theorem Denotes.unique {text : String} {m n : Nat} (hm : Denotes text m) (hn : Denotes text n) :
    m = n := by
  have hplus : isDigit '+' ≠ true := by decide
  obtain ⟨ds, hds, _, hleft, rfl⟩ := hm
  obtain ⟨es, hes, _, hright, rfl⟩ := hn
  rcases hds with rfl | hds <;> rcases hes with rfl | hes
  · rfl
  · exact absurd (hleft '+' (hes ▸ .head es)) hplus
  · exact absurd (hright '+' (hds ▸ .head ds)) hplus
  · rw [hds] at hes
    cases hes
    rfl

end Text

namespace Http
open Endpoint

namespace ListQuery
open Text (Denotes)

/-- What stands last under a key. -/
def last? (pairs : List (String × String)) (key : String) : Option String :=
  pairs.reverse.lookup key

theorem last?_cons (pair : String × String) (pairs : List (String × String)) (key : String) :
    last? (pair :: pairs) key =
      (last? pairs key).or (if pair.1 = key then some pair.2 else none) := by
  obtain ⟨key', value⟩ := pair
  unfold last?
  rw [List.reverse_cons, List.lookup_append]
  congr 1
  by_cases hkey : key' = key
  · simp [hkey]
  · have hne : (key == key') = false := beq_eq_false_iff_ne.2 (Ne.symm hkey)
    simp [List.lookup_cons, hne, hkey]

/-- A query asks for what stands last under each of its keys. -/
structure AsksForLast (pairs : List (String × String)) (q : ListQuery) : Prop where
  protocol : q.protocol = last? pairs "protocol"
  network : q.network = last? pairs "network"
  page : ∀ n, q.page = some n ↔ ∃ value, last? pairs "page" = some value ∧ Denotes value n
  limit : ∀ n, q.limit = some n ↔ ∃ value, last? pairs "limit" = some value ∧ Denotes value n

/-- Each page and each limit is a positive number of at most 64 bits. -/
def AllProper (pairs : List (String × String)) : Prop :=
  ∀ pair ∈ pairs, pair.1 = "page" ∨ pair.1 = "limit" →
    ∃ n, Denotes pair.2 n ∧ 1 ≤ n ∧ n ≤ Text.maxUnsigned 64

/-- The pairs of a query; where there is no query there are none. -/
def pairs (query : Option String) : List (String × String) :=
  (query.map Text.FormEncoded.decodePairs).getD []

theorem read_eq (query : Option String) : read query = ofPairs (pairs query) := by
  cases query <;> rfl

theorem properPages_iff (query : Option String) : ProperPages query ↔ AllProper (pairs query) := by
  refine forall₃_congr fun pair _ _ => exists_congr fun n => ?_
  rw [Text.readUnsigned?_eq_some_iff]
  exact ⟨fun h => ⟨h.1.1, h.2, h.1.2⟩, fun h => ⟨⟨h.1, h.2.2⟩, h.2.1⟩⟩

section Add
variable {q q' : ListQuery} {key value : String}

theorem map_positive_eq_ok {f : Nat → ListQuery}
    (h : (positive key value).map f = .ok q') :
    ∃ n, Text.readUnsigned? 64 value = some n ∧ q' = f n := by
  unfold positive at h
  split at h
  · next n hn =>
    split at h
    · cases h
      exact ⟨n, hn, rfl⟩
    · cases h
  · cases h

/-- A pair changes what stands under its own key and nothing else. -/
theorem add_eq_ok (h : q.add key value = .ok q') :
    q'.protocol = (if key = "protocol" then some value else q.protocol) ∧
      q'.network = (if key = "network" then some value else q.network) ∧
      q'.page = (if key = "page" then Text.readUnsigned? 64 value else q.page) ∧
      q'.limit = (if key = "limit" then Text.readUnsigned? 64 value else q.limit) := by
  unfold add at h
  split at h
  · next hkey =>
    cases h
    simp [hkey]
  split at h
  · next hkey =>
    cases h
    simp [hkey]
  split at h
  · next hkey =>
    obtain ⟨n, hn, rfl⟩ := map_positive_eq_ok h
    simp [hkey, hn]
  split at h
  · next hkey =>
    obtain ⟨n, hn, rfl⟩ := map_positive_eq_ok h
    simp [hkey, hn]
  · next hprotocol hnetwork hpage hlimit =>
    cases h
    simp [hprotocol, hnetwork, hpage, hlimit]

/-- Of what stands under a key the last is read in the end. -/
theorem foldlM_last {f : ListQuery → Option α} {read : String → Option α}
    (hadd : ∀ {q q' k v}, add q k v = .ok q' → f q' = if k = key then read v else f q)
    {pairs : List (String × String)} (h : pairs.foldlM (fun q p => q.add p.1 p.2) q = .ok q') :
    f q' = (last? pairs key).elim (f q) read := by
  induction pairs generalizing q with
  | nil =>
    cases h
    rfl
  | cons pair pairs ih =>
    rw [List.foldlM_cons] at h
    cases hfirst : q.add pair.1 pair.2 with
    | error reason =>
      rw [hfirst] at h
      cases h
    | ok q₁ =>
      rw [hfirst] at h
      rw [ih h, hadd hfirst, last?_cons]
      cases last? pairs key with
      | some value => rfl
      | none => by_cases hkey : pair.1 = key <;> simp [hkey]

end Add

theorem mem_of_last? {pairs : List (String × String)} {key value : String}
    (h : last? pairs key = some value) : (key, value) ∈ pairs := by
  obtain ⟨before, after, hsplit, _⟩ := List.lookup_eq_some_iff.1 h
  have hmem : (key, value) ∈ pairs.reverse := by
    rw [hsplit]
    exact List.mem_append_right _ List.mem_cons_self
  exact List.mem_reverse.1 hmem

/-- Where a page or a limit stands last it is proper, and so it is the number that is read. -/
theorem AllProper.bind_last? {pairs : List (String × String)} (h : AllProper pairs) {key : String}
    (hkey : key = "page" ∨ key = "limit") (n : Nat) :
    (last? pairs key).bind (Text.readUnsigned? 64) = some n ↔
      ∃ value, last? pairs key = some value ∧ Denotes value n := by
  rw [Option.bind_eq_some_iff]
  refine exists_congr fun value => and_congr_right fun hlast => ?_
  rw [Text.readUnsigned?_eq_some_iff]
  refine and_iff_left_of_imp fun hn => ?_
  obtain ⟨m, hm, _, hle⟩ := h _ (mem_of_last? hlast) hkey
  exact hn.unique hm ▸ hle

theorem asksForLast_ofPairs {pairs : List (String × String)} {q : ListQuery}
    (h : ofPairs pairs = .ok q) (hproper : AllProper pairs) : AsksForLast pairs q where
  protocol := by
    refine (foldlM_last (f := ListQuery.protocol) (fun hadd => (add_eq_ok hadd).1) h).trans ?_
    cases last? pairs "protocol" <;> rfl
  network := by
    refine (foldlM_last (f := ListQuery.network) (fun hadd => (add_eq_ok hadd).2.1) h).trans ?_
    cases last? pairs "network" <;> rfl
  page n := by
    rw [← hproper.bind_last? (.inl rfl),
      foldlM_last (f := ListQuery.page) (fun hadd => (add_eq_ok hadd).2.2.1) h]
    cases last? pairs "page" <;> rfl
  limit n := by
    rw [← hproper.bind_last? (.inr rfl),
      foldlM_last (f := ListQuery.limit) (fun hadd => (add_eq_ok hadd).2.2.2) h]
    cases last? pairs "limit" <;> rfl

/-- What stands in the place of a page is positive. -/
theorem AsksForLast.one_le_page {pairs : List (String × String)} {q : ListQuery}
    (h : AsksForLast pairs q) (hproper : AllProper pairs) : 1 ≤ q.page.getD 1 := by
  cases hpage : q.page with
  | none => exact Nat.le_refl 1
  | some n =>
    obtain ⟨value, hlast, hn⟩ := (h.page n).1 hpage
    obtain ⟨m, hm, hpos, _⟩ := hproper _ (mem_of_last? hlast) (.inl rfl)
    exact hn.unique hm ▸ hpos

/-- The items at the positions from one up to another. -/
def between (first next : Nat) (items : List α) : List α :=
  (items.zipIdx.filter fun x => first ≤ x.2 ∧ x.2 < next).map Prod.fst

theorem map_filter_zipIdx (first next : Nat) (items : List α) (k : Nat) :
    ((items.zipIdx k).filter fun x => first ≤ x.2 ∧ x.2 < next).map Prod.fst =
      (items.drop (first - k)).take (next - max first k) := by
  induction items generalizing k with
  | nil => simp
  | cons item items ih =>
    rw [List.zipIdx_cons, List.filter_cons]
    rcases Nat.lt_or_ge k first with hbefore | hfirst
    · have hdrop : first - k = first - (k + 1) + 1 := by omega
      rw [if_neg (by simp [Nat.not_le.2 hbefore]), ih, hdrop, List.drop_succ_cons,
        Nat.max_eq_left hbefore, Nat.max_eq_left (Nat.le_of_lt hbefore)]
    have hrest := ih (k + 1)
    rw [Nat.max_eq_right (Nat.le_succ_of_le hfirst),
      Nat.sub_eq_zero_of_le (Nat.le_succ_of_le hfirst), List.drop_zero] at hrest
    rw [Nat.max_eq_right hfirst, Nat.sub_eq_zero_of_le hfirst, List.drop_zero]
    rcases Nat.lt_or_ge k next with hwithin | hafter
    · have htake : next - k = next - (k + 1) + 1 := by omega
      rw [if_pos (by simp [hfirst, hwithin]), List.map_cons, hrest, htake, List.take_succ_cons]
    · rw [if_neg (by simp [hafter]), hrest, Nat.sub_eq_zero_of_le hafter,
        Nat.sub_eq_zero_of_le (Nat.le_succ_of_le hafter), List.take_zero, List.take_zero]

theorem between_eq (first next : Nat) (items : List α) :
    between first next items = (items.drop first).take (next - first) := by
  unfold between
  rw [map_filter_zipIdx, Nat.sub_zero, Nat.max_zero]

section Paginate
variable {α : Type u} {items : List α} {q : ListQuery} {l : Nat}

/-- A page is what stands at its positions. That the number of items before it is cut makes
no difference, as no list is that long. -/
theorem paginate_eq_between (hlength : items.length ≤ Text.maxUnsigned 64)
    (hpage : 1 ≤ q.page.getD 1) (hlimit : q.limit = some l) :
    q.paginate items = between ((q.page.getD 1 - 1) * l) (q.page.getD 1 * l) items := by
  have hwidth : q.page.getD 1 * l - (q.page.getD 1 - 1) * l = l := by
    rw [← Nat.sub_mul, Nat.sub_sub_self hpage, Nat.one_mul]
  have hcut : items.drop (min ((q.page.getD 1 - 1) * l) (Text.maxUnsigned 64)) =
      items.drop ((q.page.getD 1 - 1) * l) := by
    rcases Nat.le_total ((q.page.getD 1 - 1) * l) (Text.maxUnsigned 64) with h | h
    · rw [Nat.min_eq_left h]
    · rw [Nat.min_eq_right h, List.drop_eq_nil_of_le hlength,
        List.drop_eq_nil_of_le (Nat.le_trans hlength h)]
  rw [between_eq, hwidth, paginate, hlimit]
  exact congrArg (List.take l) hcut

/-- The first pages put together are the beginning of the list. -/
theorem flatMap_between (items : List α) (l n : Nat) :
    (List.range n).flatMap (fun i => between (i * l) ((i + 1) * l) items) = items.take (n * l) := by
  induction n with
  | zero => simp
  | succ n ih =>
    rw [List.range_succ, List.flatMap_append, ih, List.flatMap_singleton, between_eq, Nat.succ_mul,
      Nat.add_sub_cancel_left, List.take_add]

/-- The pages of a list put together are the list. -/
theorem flatMap_paginate (hlength : items.length ≤ Text.maxUnsigned 64)
    (hlimit : q.limit = some l) {n : Nat} (hn : items.length ≤ n * l) :
    (List.range n).flatMap (fun i => { q with page := some (i + 1) }.paginate items) = items := by
  calc (List.range n).flatMap (fun i => { q with page := some (i + 1) }.paginate items)
      = (List.range n).flatMap (fun i => between (i * l) ((i + 1) * l) items) := by
        congr 1
        funext i
        exact paginate_eq_between (q := { q with page := some (i + 1) }) hlength
          (Nat.succ_pos i) hlimit
    _ = items.take (n * l) := flatMap_between items l n
    _ = items := List.take_of_length_le hn

end Paginate

end ListQuery

section Pages
variable {ns user : String} {query : ListQuery}

/-- Without a wish for a protocol or a network the list that is shown is the one that is
counted. -/
theorem selector_filterOf (hprotocol : query.protocol = none ∨ query.protocol = some "")
    (hnetwork : query.network = none ∨ query.network = some "") :
    (filterOf user query).selector = ListFilter.selector { userId := some user } := by
  simp only [ListFilter.selector, filterOf, ListFilter.narrow_of_idle hprotocol,
    ListFilter.narrow_of_idle hnetwork]
  rfl

/-- A query is understood if and only if each of its pages and limits is a positive number of
at most 64 bits, and then it asks for what stands last. A page of a list whose length has at
most 64 bits is what stands at its positions in the list, so that the pages put together are
the list; without a limit each of them is the list. A listing counts all of the list of which
it shows a page, and if it is for no protocol and no network that is the list which is counted
on demand. -/
theorem pages_partition_listing (query : Option String) {α : Type u} (items : List α)
    (answerer : Answerer σ) (s : σ) (config : Config) (timeoutMs : Nat) (ns user : String) :
    (((∃ q, ListQuery.read query = .ok q) ↔ ListQuery.AllProper (ListQuery.pairs query)) ∧
      ∀ q, ListQuery.read query = .ok q →
        ListQuery.AsksForLast (ListQuery.pairs query) q ∧ 1 ≤ q.page.getD 1) ∧
    (items.length ≤ Text.maxUnsigned 64 → ∀ q : ListQuery, 1 ≤ q.page.getD 1 →
      (∀ l, q.limit = some l →
        q.paginate items = ListQuery.between ((q.page.getD 1 - 1) * l) (q.page.getD 1 * l) items ∧
        ∀ n, items.length ≤ n * l → (List.range n).flatMap
          (fun i => { q with page := some (i + 1) }.paginate items) = items) ∧
      (q.limit = none → q.paginate items = items)) ∧
    (let (arrival, s') := answerer s .now
      let listed (f : ListFilter) : Except Failure (List IngressRoute) :=
        (answerer s' (.call (.list .ingressRoute ns f.selector) (arrival + timeoutMs))).1
      let answer (request : Request) := ((serve config timeoutMs request).play answerer s).value
      (∀ request q, Operation.select? request.method request.target.path = some (.list ns) →
        request.userId? = some user → ListQuery.read request.target.query = .ok q →
        answer request = .ok (responseOf ((listed (filterOf user q)).map (listing q)))) ∧
      (∀ request, Operation.select? request.method request.target.path = some (.count ns) →
        request.userId? = some user →
        answer request = .ok (responseOf ((listed { userId := some user }).map counting))) ∧
      ∀ q : ListQuery, (q.protocol = none ∨ q.protocol = some "") →
        (q.network = none ∨ q.network = some "") →
        listed (filterOf user q) = listed { userId := some user }) := by
  refine ⟨⟨(exists_read_iff query).trans (ListQuery.properPages_iff query), fun q hq => ?_⟩,
    fun hlength q hpage => ⟨fun l hlimit => ⟨?_, fun n hn => ?_⟩, fun hlimit => ?_⟩,
    fun request q hselect huser hquery => ?_, fun request hselect huser => ?_,
    fun q hprotocol hnetwork => ?_⟩
  · have hproper := (ListQuery.properPages_iff query).1 ((exists_read_iff query).1 ⟨q, hq⟩)
    rw [ListQuery.read_eq] at hq
    have hlast := ListQuery.asksForLast_ofPairs hq hproper
    exact ⟨hlast, hlast.one_le_page hproper⟩
  · exact ListQuery.paginate_eq_between hlength hpage hlimit
  · exact ListQuery.flatMap_paginate hlength hlimit hn
  · rw [ListQuery.paginate, hlimit]
  · have hdemand : Demand.ofRequest request = .ok (.list ns user q) := by
      simp only [Demand.ofRequest, hselect, huser, Demand.ofOperation, hquery]
    refine (play_serve_of_demand hdemand answerer s).trans ?_
    exact congrArg (fun outcome => Except.ok (responseOf outcome))
      ((asksForList_list ns user q _).value_eq answerer _)
  · have hdemand : Demand.ofRequest request = .ok (.count ns user) := by
      simp only [Demand.ofRequest, hselect, huser, Demand.ofOperation]
    refine (play_serve_of_demand hdemand answerer s).trans ?_
    exact congrArg (fun outcome => Except.ok (responseOf outcome))
      ((asksForList_count ns user _).value_eq answerer _)
  · dsimp only
    rw [selector_filterOf hprotocol hnetwork]

/-- A page so far behind the end that the number of items before it has more than 64 bits. -/
theorem page_far_behind_the_end :
    let query := some "page=%2B1&limit=9223372036854775808&network=&page=0003"
    let q : ListQuery := { network := some "", page := some 3, limit := some 9223372036854775808 }
    let request (path : String) : Request :=
      { Specimen.request "GET" path "alice" "" with target.query := query }
    let route := Specimen.route "one" "alice"
    let w : World := { cluster := ({} : Cluster).put route }
    let answer (path : String) :=
      ((serve Specimen.config 1000 (request path)).play (World.answerer Specimen.plain) w).value
    ListQuery.read query = .ok q ∧ ListQuery.AsksForLast (ListQuery.pairs query) q ∧
      ["one"].length ≤ Text.maxUnsigned 64 ∧ 1 ≤ q.page.getD 1 ∧
      q.paginate ["one"] =
        ListQuery.between ((3 - 1) * 9223372036854775808) (3 * 9223372036854775808) ["one"] ∧
      (List.range 1).flatMap (fun i => { q with page := some (i + 1) }.paginate ["one"]) = ["one"] ∧
      answer "" = .ok (responseOf (.ok (listing q [route]))) ∧
      answer "/count" = .ok (responseOf (.ok (counting [route]))) := by
  intro query q request route w answer
  have hread : ListQuery.read query = .ok q := eq_ok_of_toOption (by decide +kernel)
  obtain ⟨⟨_, hqueries⟩, hpages, hlist, hcount, hsame⟩ := pages_partition_listing query ["one"]
    (World.answerer Specimen.plain) w Specimen.config 1000 "default" "alice"
  obtain ⟨hlast, hpage⟩ := hqueries q hread
  obtain ⟨hlimited, _⟩ := hpages (by decide) q hpage
  obtain ⟨hpositions, htogether⟩ := hlimited 9223372036854775808 rfl
  have hlistAnswer := hlist (request "") q (by decide +kernel) (by decide +kernel) hread
  have hcountAnswer := hcount (request "/count") (by decide +kernel) (by decide +kernel)
  rw [← hsame q (.inl rfl) (.inr rfl)] at hcountAnswer
  exact ⟨hread, hlast, by decide, hpage, hpositions, htogether 1 (by decide), hlistAnswer,
    hcountAnswer⟩

end Pages
end Http
end TenantEndpoints
