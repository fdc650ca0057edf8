import TenantEndpoints.Proofs.Text.Split
import TenantEndpoints.Resource.Route

/-!
# Reading the text of a rule

The host and the path segment that a rule was made with are found in its text
again, unless one of them has a mark in it that the reading takes for the rule's
own. `read_as_written_iff` says exactly when.
-/
namespace TenantEndpoints.RouteRule

/-- The text of a rule, cut at its marks. -/
theorem toList_hostPathText (host segment : String) :
    (hostPathText host segment).toList =
      hostMark ++ (host.toList ++ (endMark ++ " && ".toList ++
        (prefixMark ++ (segment.toList ++ endMark)))) := by
  have hmiddle : "\x60) && PathPrefix(\x60/".toList = endMark ++ " && ".toList ++ prefixMark := by
    decide
  have hopening : "Host(\x60".toList = hostMark := rfl
  have hending : "\x60)".toList = endMark := rfl
  simp only [hostPathText, String.toList_append, hopening, hmiddle, hending, List.append_assoc]

theorem between?_eq {mark : List Char} {text : String} {before inside after : List Char}
    (hopened : Text.splitAtFirst? mark text.toList = some (before, inside ++ endMark ++ after))
    (hinside : ¬ endMark <:+: inside) : between? mark text = some (String.ofList inside) := by
  have hclosed : Text.splitAtFirst? endMark (inside ++ endMark ++ after) = some (inside, after) :=
    Text.splitAtFirst?_pair (by decide) hinside after
  simp only [between?, hopened, hclosed, Option.bind_eq_bind, Option.bind_some]

/-- What is read stops at the first end mark. -/
theorem not_endMark_infix_of_between? {mark : List Char} {text inside : String}
    (h : between? mark text = some inside) : ¬ endMark <:+: inside.toList := by
  simp only [between?, Option.bind_eq_bind, Option.bind_eq_some_iff] at h
  obtain ⟨opened, _, closed, hclosed, he⟩ := h
  cases he
  rw [String.toList_ofList]
  exact Text.not_infix_of_splitAtFirst? (by decide) hclosed

/-- The host is read up to the first end mark. -/
theorem between?_hostMark {host : String} (h : ¬ endMark <:+: host.toList) (segment : String) :
    between? hostMark (hostPathText host segment) = some host := by
  have hopened : Text.splitAtFirst? hostMark (hostPathText host segment).toList =
      some ([], host.toList ++ endMark ++
        (" && ".toList ++ (prefixMark ++ (segment.toList ++ endMark)))) := by
    rw [toList_hostPathText, Text.splitAtFirst?_append_self (by decide)]
    simp only [List.append_assoc]
  rw [between?_eq hopened h, String.ofList_toList]

/-- Where the mark of a path prefix is not in the host, it only stands where it was put:
it cannot begin in the host and end after it, because the end mark follows there. -/
theorem splitAtFirst?_prefixMark {host : String} (h : ¬ prefixMark <:+: host.toList)
    (segment : String) :
    ∃ before, Text.splitAtFirst? prefixMark (hostPathText host segment).toList =
      some (before, segment.toList ++ endMark) := by
  have hmarks : ∀ i < prefixMark.length,
      ¬ prefixMark.drop i <+: endMark ∧ ¬ endMark <+: prefixMark.drop i := by decide
  have hacross : ∀ u v, prefixMark = u ++ v → u ≠ [] → v ≠ [] → u <:+ host.toList →
      ¬ v <+: endMark ++ " && ".toList ++ (prefixMark ++ (segment.toList ++ endMark)) := by
    intro u v he _ hv _ hstart
    have hlength : u.length < prefixMark.length := by
      rw [he, List.length_append]
      exact Nat.lt_add_of_pos_right (List.length_pos_iff.2 hv)
    obtain ⟨hnot, hnot'⟩ := hmarks u.length hlength
    rw [he, List.drop_left] at hnot hnot'
    rw [List.append_assoc] at hstart
    rcases List.prefix_or_prefix_of_prefix hstart (List.prefix_append endMark _) with hv | hv
    · exact hnot hv
    · exact hnot' hv
  have hhead : prefixMark = 'P' :: prefixMark.tail := rfl
  refine ⟨hostMark ++ (host.toList ++ (endMark ++ " && ".toList)), ?_⟩
  rw [toList_hostPathText, hhead, Text.splitAtFirst?_append_of_not_mem (by decide), ← hhead,
    Text.splitAtFirst?_append h hacross, hhead,
    Text.splitAtFirst?_append_of_not_mem (by decide), ← hhead,
    Text.splitAtFirst?_append_self (by decide)]
  simp

/-- The path prefix is read up to the first end mark after its own mark. -/
theorem between?_prefixMark {host segment : String} (hhost : ¬ prefixMark <:+: host.toList)
    (hsegment : ¬ endMark <:+: segment.toList) :
    between? prefixMark (hostPathText host segment) = some segment := by
  obtain ⟨before, hopened⟩ := splitAtFirst?_prefixMark hhost segment
  rw [← List.append_nil (segment.toList ++ endMark)] at hopened
  rw [between?_eq hopened hsegment, String.ofList_toList]

theorem between?_hostMark_iff {host segment : String} :
    between? hostMark (hostPathText host segment) = some host ↔ ¬ endMark <:+: host.toList :=
  ⟨not_endMark_infix_of_between?, fun h => between?_hostMark h segment⟩

theorem between?_prefixMark_iff {host segment : String} (hhost : ¬ prefixMark <:+: host.toList) :
    between? prefixMark (hostPathText host segment) = some segment ↔
      ¬ endMark <:+: segment.toList :=
  ⟨not_endMark_infix_of_between?, between?_prefixMark hhost⟩

/-- A text without a backtick has no mark in it. -/
theorem not_mark_infix_of_not_mem {mark : List Char} (hmark : '\x60' ∈ mark) {text : List Char}
    (h : '\x60' ∉ text) : ¬ mark <:+: text :=
  fun hmarked => h (hmarked.subset hmark)

theorem between?_of_backtick_not_mem {host segment : String} (hhost : '\x60' ∉ host.toList)
    (hsegment : '\x60' ∉ segment.toList) :
    between? hostMark (hostPathText host segment) = some host ∧
      between? prefixMark (hostPathText host segment) = some segment :=
  ⟨between?_hostMark (not_mark_infix_of_not_mem (by decide) hhost) segment,
    between?_prefixMark (not_mark_infix_of_not_mem (by decide) hhost)
      (not_mark_infix_of_not_mem (by decide) hsegment)⟩

/-- A rule is made of one host and one segment only, so long as neither has a backtick. -/
theorem eq_of_hostPathText_eq {host host' segment segment' : String}
    (hhost : '\x60' ∉ host.toList) (hsegment : '\x60' ∉ segment.toList)
    (hhost' : '\x60' ∉ host'.toList) (hsegment' : '\x60' ∉ segment'.toList)
    (h : hostPathText host segment = hostPathText host' segment') :
    host = host' ∧ segment = segment' := by
  obtain ⟨hread, hread'⟩ := between?_of_backtick_not_mem hhost hsegment
  rw [h] at hread hread'
  obtain ⟨hother, hother'⟩ := between?_of_backtick_not_mem hhost' hsegment'
  exact ⟨Option.some.inj (hread.symm.trans hother), Option.some.inj (hread'.symm.trans hother')⟩

/-- What is read between marks within the first part of a text does not depend on the rest. -/
theorem exists_between? {mark s before after : List Char}
    (hopened : Text.splitAtFirst? mark s = some (before, after)) (hmark : mark ≠ [])
    (hended : endMark <:+: after) :
    ∃ inside, ∀ (text : String) (rest : List Char), text.toList = s ++ rest →
      between? mark text = some inside := by
  obtain ⟨inside, after', hclosed⟩ := Text.exists_splitAtFirst? hended
  refine ⟨String.ofList inside, fun text rest htext => ?_⟩
  have hopened' := Text.splitAtFirst?_append_right hopened rest hmark
  have hclosed' := Text.splitAtFirst?_append_right hclosed rest (by decide)
  simp only [between?, htext, hopened', hclosed', Option.bind_eq_bind, Option.bind_some]

/-- Whatever the host is, the same host is read for all segments. -/
theorem exists_between?_hostMark (host : String) :
    ∃ inside, ∀ segment, between? hostMark (hostPathText host segment) = some inside := by
  have hopened : Text.splitAtFirst? hostMark (hostMark ++ (host.toList ++ endMark)) =
      some ([], host.toList ++ endMark) :=
    Text.splitAtFirst?_append_self (by decide) (host.toList ++ endMark)
  obtain ⟨inside, hinside⟩ :=
    exists_between? hopened (by decide) (List.suffix_append _ _).isInfix
  refine ⟨inside, fun segment => hinside (hostPathText host segment)
    (" && ".toList ++ (prefixMark ++ (segment.toList ++ endMark))) ?_⟩
  rw [toList_hostPathText]
  simp only [List.append_assoc]

/-- If the mark of a path prefix is in the host, the same path prefix is read for all segments. -/
theorem exists_between?_prefixMark {host : String} (h : prefixMark <:+: host.toList) :
    ∃ inside, ∀ segment, between? prefixMark (hostPathText host segment) = some inside := by
  obtain ⟨before, after, hopened⟩ :=
    Text.exists_splitAtFirst? (h.trans (List.suffix_append hostMark host.toList).isInfix)
  have hopened' := Text.splitAtFirst?_append_right hopened endMark (by decide)
  obtain ⟨inside, hinside⟩ :=
    exists_between? hopened' (by decide) (List.suffix_append after endMark).isInfix
  refine ⟨inside, fun segment => hinside (hostPathText host segment)
    (" && ".toList ++ (prefixMark ++ (segment.toList ++ endMark))) ?_⟩
  rw [toList_hostPathText]
  simp only [List.append_assoc]

/-- Else it is read from the segment: how it begins is read as it is. -/
theorem exists_between?_segment {host : String} (h : ¬ prefixMark <:+: host.toList)
    (rest : List Char) :
    ∃ inside, ∀ start : List Char, '\x60' ∉ start →
      between? prefixMark (hostPathText host (String.ofList (start ++ rest))) =
        some (String.ofList (start ++ inside)) := by
  obtain ⟨inside, after, hclosed⟩ :=
    Text.exists_splitAtFirst? (List.suffix_append rest endMark).isInfix
  refine ⟨inside, fun start hstart => ?_⟩
  obtain ⟨before, hopened⟩ := splitAtFirst?_prefixMark h (String.ofList (start ++ rest))
  have hclosed' : Text.splitAtFirst? endMark (start ++ rest ++ endMark) =
      some (start ++ inside, after) := by
    have hhead : endMark = '\x60' :: [')'] := rfl
    rw [List.append_assoc, hhead, Text.splitAtFirst?_append_of_not_mem hstart, ← hhead, hclosed]
    rfl
  rw [String.toList_ofList] at hopened
  simp only [between?, hopened, hclosed', Option.bind_eq_bind, Option.bind_some]

/-- The host of a rule is read from its text exactly if the mark that ends it is not in it.
So is the segment, where the mark that opens it is not in the host. Without backticks there
are no marks but the rule's own, and the text says which host and which segment it is for. -/
theorem read_as_written_iff (host segment : String) (middlewares : List ObjectRef)
    (services : List BackendService) :
    let rule : RouteRule := ⟨hostPathText host segment, middlewares, services⟩
    (rule.host? = some host ↔ ¬ "\x60)".toList <:+: host.toList) ∧
    (¬ "PathPrefix(\x60/".toList <:+: host.toList →
      (rule.pathPrefix? = some segment ↔ ¬ "\x60)".toList <:+: segment.toList)) ∧
    ('\x60' ∉ host.toList → '\x60' ∉ segment.toList →
      (rule.host? = some host ∧ rule.pathPrefix? = some segment) ∧
      ∀ host' segment' : String, '\x60' ∉ host'.toList → '\x60' ∉ segment'.toList →
        hostPathText host segment = hostPathText host' segment' →
          host = host' ∧ segment = segment') := by
  intro rule
  refine ⟨between?_hostMark_iff, between?_prefixMark_iff, fun hhost hsegment => ?_⟩
  refine ⟨between?_of_backtick_not_mem hhost hsegment, ?_⟩
  intro host' segment' hhost' hsegment' h
  exact eq_of_hostPathText_eq hhost hsegment hhost' hsegment' h

/-- A host that ends like an opening mark and a segment that ends like an ending one; and one
rule, of parts that look like its own but have no backticks, made in two ways. -/
theorem nearly_marked_read_as_written :
    let rule : RouteRule := ⟨hostPathText "PathPrefix(\x60" "a\x60/)\x60", [], []⟩
    (¬ "PathPrefix(\x60/".toList <:+: "PathPrefix(\x60".toList ∧
      rule.host? = some "PathPrefix(\x60" ∧ rule.pathPrefix? = some "a\x60/)\x60") ∧
    ('\x60' ∉ "Host()".toList ∧ '\x60' ∉ ") && PathPrefix(/".toList ∧
      hostPathText "Host()" ") && PathPrefix(/" =
        hostPathText ("Host(" ++ ")") (")" ++ " && " ++ "PathPrefix(/")) ∧
    "Host()" = "Host(" ++ ")" ∧ ") && PathPrefix(/" = ")" ++ " && " ++ "PathPrefix(/" := by
  intro rule
  obtain ⟨hhost, hstart, -⟩ := read_as_written_iff "PathPrefix(\x60" "a\x60/)\x60" [] []
  obtain ⟨-, -, hplain⟩ := read_as_written_iff "Host()" ") && PathPrefix(/" [] []
  have hmark : ¬ "PathPrefix(\x60/".toList <:+: "PathPrefix(\x60".toList := by decide +kernel
  have htwice : hostPathText "Host()" ") && PathPrefix(/" =
      hostPathText ("Host(" ++ ")") (")" ++ " && " ++ "PathPrefix(/") := by decide +kernel
  exact ⟨⟨hmark, hhost.2 (by decide +kernel), (hstart hmark).2 (by decide +kernel)⟩,
    ⟨by decide, by decide, htwice⟩,
    (hplain (by decide) (by decide)).2 _ _ (by decide +kernel) (by decide +kernel) htwice⟩

end TenantEndpoints.RouteRule
