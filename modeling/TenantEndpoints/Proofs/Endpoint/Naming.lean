import TenantEndpoints.Endpoint.Names
import TenantEndpoints.Proofs.Endpoint.Ownership

/-!
# Accepted names

A cluster takes the names of resources only in a certain form. A request is accepted by the
bytes, the characters and the ends of its name, and this is just enough: whatever is derived
from an accepted name is that name joined to some words by hyphens, which keeps the form,
and the longest of these words leave room for every accepted name.
-/
namespace TenantEndpoints

/-- A letter in lower case or a digit. -/
def IsLowerAlphanumeric (c : Char) : Prop := ('a' ≤ c ∧ c ≤ 'z') ∨ ('0' ≤ c ∧ c ≤ '9')

instance : DecidablePred IsLowerAlphanumeric :=
  fun c => inferInstanceAs (Decidable (('a' ≤ c ∧ c ≤ 'z') ∨ ('0' ≤ c ∧ c ≤ '9')))

/-- Letters in lower case, digits and hyphens, with no hyphen at either end. -/
structure IsHyphenated (s : List Char) : Prop where
  chars : ∀ c ∈ s, IsLowerAlphanumeric c ∨ c = '-'
  first : ∃ c, s.head? = some c ∧ IsLowerAlphanumeric c
  last : ∃ c, s.getLast? = some c ∧ IsLowerAlphanumeric c

/-- The form in which a cluster takes the name of a resource. -/
structure IsDnsLabel (name : String) : Prop where
  hyphenated : IsHyphenated name.toList
  length_le : name.length ≤ 63

namespace IsHyphenated
variable {s t : List Char}

theorem join (hs : IsHyphenated s) (ht : IsHyphenated t) : IsHyphenated (s ++ '-' :: t) where
  chars c hc := by
    rcases List.mem_append.1 hc with hc | hc
    · exact hs.chars c hc
    · rcases List.mem_cons.1 hc with rfl | hc
      · exact .inr rfl
      · exact ht.chars c hc
  first := by
    obtain ⟨c, hc, halnum⟩ := hs.first
    exact ⟨c, by rw [List.head?_append, hc]; rfl, halnum⟩
  last := by
    obtain ⟨c, hc, halnum⟩ := ht.last
    exact ⟨c, by rw [List.getLast?_append, List.getLast?_cons, hc]; rfl, halnum⟩

end IsHyphenated

/-- Every character has at least one byte. -/
theorem length_le_utf8ByteSize (s : String) : s.length ≤ s.utf8ByteSize := by
  have hlist (cs : List Char) : cs.length ≤ (String.ofList cs).utf8ByteSize := by
    induction cs with
    | nil => simp
    | cons c cs ih =>
      have hpos : 0 < c.utf8Size := c.utf8Size_pos
      have hsplit : String.ofList (c :: cs) = String.singleton c ++ String.ofList cs :=
        String.ofList_cons
      rw [hsplit, String.utf8ByteSize_append, String.utf8ByteSize_singleton, List.length_cons]
      omega
  have hlength : s.toList.length ≤ (String.ofList s.toList).utf8ByteSize := hlist s.toList
  rwa [String.ofList_toList, String.length_toList] at hlength

namespace EndpointRequest
variable {r : EndpointRequest}

theorem isNameChar_iff {c : Char} : isNameChar c = true ↔ IsLowerAlphanumeric c ∨ c = '-' := by
  simp [isNameChar, IsLowerAlphanumeric]

theorem isWellFormed_iff {s : List Char} : isWellFormed s = true ↔
    (∀ c ∈ s, IsLowerAlphanumeric c ∨ c = '-') ∧ s.head? ≠ some '-' ∧ s.getLast? ≠ some '-' := by
  simp [isWellFormed, isNameChar_iff, and_assoc]

/-- A first or last character that is no hyphen is a letter or a digit. -/
theorem isHyphenated_of_isWellFormed {s : List Char} (h : isWellFormed s = true) (hne : s ≠ []) :
    IsHyphenated s := by
  obtain ⟨hchars, hfirst, hlast⟩ := isWellFormed_iff.1 h
  refine ⟨hchars, ⟨s.head hne, List.head?_eq_some_head hne, ?_⟩,
    ⟨s.getLast hne, List.getLast?_eq_some_getLast hne, ?_⟩⟩
  · refine (hchars _ (List.head_mem hne)).resolve_right fun he => hfirst ?_
    rw [List.head?_eq_some_head hne, he]
  · refine (hchars _ (List.getLast_mem hne)).resolve_right fun he => hlast ?_
    rw [List.getLast?_eq_some_getLast hne, he]

/-- A check either refuses or leaves it to the others. -/
theorem check_eq_ok_iff {c : Prop} [Decidable c] {reason : Rejection}
    {others : Except Rejection Unit} :
    (if c then (throw reason : Except Rejection PUnit) >>= fun _ => others else others) = .ok () ↔
      ¬ c ∧ others = .ok () := by
  by_cases h : c
  · rw [if_pos h]
    exact ⟨by rintro ⟨⟩, fun hc => absurd h hc.1⟩
  · rw [if_neg h]
    exact (and_iff_right h).symm

theorem validate_eq_ok_iff : r.validate = .ok () ↔
    r.name ≠ "" ∧ r.name.utf8ByteSize ≤ maxNameLength ∧ isWellFormed r.name.toList = true ∧
      r.ns ≠ "" ∧ r.userId ≠ "" := by
  have hlast : (if r.userId = "" then throw .emptyUserId else pure () : Except Rejection PUnit) =
      .ok () ↔ r.userId ≠ "" := by
    by_cases h : r.userId = "" <;> simp [h, pure, Except.pure]
  unfold validate
  rw [check_eq_ok_iff, check_eq_ok_iff, check_eq_ok_iff, check_eq_ok_iff, hlast]
  simp

theorem maxNameLength_eq : maxNameLength = 50 := by decide

/-- What is accepted, by the bytes, the characters and the ends of the name. -/
theorem accepted_iff : r.validate = .ok () ↔
    (1 ≤ r.name.utf8ByteSize ∧ r.name.utf8ByteSize ≤ 50) ∧
      (∀ c ∈ r.name.toList, IsLowerAlphanumeric c ∨ c = '-') ∧
      (r.name.toList.head? ≠ some '-' ∧ r.name.toList.getLast? ≠ some '-') ∧
      r.ns ≠ "" ∧ r.userId ≠ "" := by
  have hnonempty : 1 ≤ r.name.utf8ByteSize ↔ r.name ≠ "" := by
    rw [Nat.one_le_iff_ne_zero, ne_eq, String.utf8ByteSize_eq_zero_iff]
  rw [validate_eq_ok_iff, isWellFormed_iff, maxNameLength_eq, hnonempty]
  simp only [and_assoc]

theorem isHyphenated_of_accepted (h : r.validate = .ok ()) : IsHyphenated r.name.toList := by
  obtain ⟨hne, -, hwell, -⟩ := validate_eq_ok_iff.1 h
  exact isHyphenated_of_isWellFormed hwell (mt String.toList_eq_nil_iff.1 hne)

theorem length_le_of_accepted (h : r.validate = .ok ()) : r.name.length ≤ 50 :=
  Nat.le_trans (length_le_utf8ByteSize r.name) (accepted_iff.1 h).1.2

end EndpointRequest

/-- Two names make another one if they are joined by a hyphen and not too long together. -/
theorem IsDnsLabel.join {a b : String} (ha : IsHyphenated a.toList) (hb : IsHyphenated b.toList)
    (hlength : a.length + b.length ≤ 62) : IsDnsLabel (a ++ "-" ++ b) where
  hyphenated := by
    have hjoined : (a ++ "-" ++ b).toList = a.toList ++ '-' :: b.toList := by simp
    rw [hjoined]
    exact ha.join hb
  length_le := by
    have hhyphen : "-".length = 1 := by decide
    rw [String.length_append, String.length_append, hhyphen]
    omega

namespace Endpoint
open EndpointRequest (isHyphenated_of_isWellFormed)
open SharedMiddlewares (activityName cacheName)

section Derived
variable {name : String} (hname : IsHyphenated name.toList) (hlength : name.length ≤ 50)
include hname hlength

theorem isDnsLabel_stripPrefixName : IsDnsLabel (stripPrefixName name) := by
  have hwords : "strip-prefix" ++ "-" = "strip-prefix-" := by decide
  have hlengths : "strip-prefix".length = 12 := by decide
  rw [stripPrefixName, ← hwords]
  exact .join (isHyphenated_of_isWellFormed (by decide) (by decide)) hname (by omega)

theorem isDnsLabel_basicAuthName : IsDnsLabel (basicAuthName name) := by
  have hwords : "basic-auth" ++ "-" = "basic-auth-" := by decide
  have hlengths : "basic-auth".length = 10 := by decide
  rw [basicAuthName, ← hwords]
  exact .join (isHyphenated_of_isWellFormed (by decide) (by decide)) hname (by omega)

theorem isDnsLabel_secretName : IsDnsLabel (secretName name) := by
  have hwords : "-" ++ "secret" = "-secret" := by decide
  have hlengths : "secret".length = 6 := by decide
  rw [secretName, ← hwords, ← String.append_assoc]
  exact .join hname (isHyphenated_of_isWellFormed (by decide) (by decide)) (by omega)

end Derived

theorem derived_ne_shared {derive : String → String} (h : derive ∈ derivations .middleware)
    (a : String) : derive a ≠ activityName ∧ derive a ≠ cacheName := by
  let shared : SharedMiddlewares := {}
  have hactivity : shared.activityMiddleware ∈ shared.both := List.mem_cons_self
  have hcache : shared.cacheMiddleware ∈ shared.both :=
    List.mem_cons_of_mem _ List.mem_cons_self
  exact ⟨fun he => not_isDerived_shared hactivity ⟨derive, h, a, he.symm⟩,
    fun he => not_isDerived_shared hcache ⟨derive, h, a, he.symm⟩⟩

/-- Requests are accepted exactly for names of 1 to 50 bytes that are made of letters in lower
case, digits and hyphens, with no hyphen at either end. Such a name and every name derived
from it are names that a cluster takes, and no two derived names are the same but for the
same name and the same derivation, nor is one that of a shared middleware. -/
theorem accepted_names_suffice :
    (∀ r : EndpointRequest, r.validate = .ok () ↔
      (1 ≤ r.name.utf8ByteSize ∧ r.name.utf8ByteSize ≤ 50) ∧
        (∀ c ∈ r.name.toList, IsLowerAlphanumeric c ∨ c = '-') ∧
        (r.name.toList.head? ≠ some '-' ∧ r.name.toList.getLast? ≠ some '-') ∧
        r.ns ≠ "" ∧ r.userId ≠ "") ∧
    (∀ r : EndpointRequest, r.validate = .ok () →
      ∀ name ∈ [r.name, stripPrefixName r.name, basicAuthName r.name, secretName r.name],
        IsDnsLabel name) ∧
    (∀ a b : String,
      (∀ derive ∈ [stripPrefixName, basicAuthName],
        (∀ derive' ∈ [stripPrefixName, basicAuthName],
          derive a = derive' b → derive = derive' ∧ a = b) ∧
        derive a ≠ "crossover-activity" ∧ derive a ≠ "crossover-cache") ∧
      (secretName a = secretName b → a = b)) := by
  refine ⟨fun r => EndpointRequest.accepted_iff, ?_, ?_⟩
  · intro r h name hmem
    have hname : IsHyphenated r.name.toList := EndpointRequest.isHyphenated_of_accepted h
    have hlength : r.name.length ≤ 50 := EndpointRequest.length_le_of_accepted h
    simp only [List.mem_cons, List.not_mem_nil, or_false] at hmem
    rcases hmem with rfl | rfl | rfl | rfl
    · exact ⟨hname, by omega⟩
    · exact isDnsLabel_stripPrefixName hname hlength
    · exact isDnsLabel_basicAuthName hname hlength
    · exact isDnsLabel_secretName hname hlength
  · intro a b
    refine ⟨?_, secretName_injective⟩
    intro derive (h : derive ∈ derivations .middleware)
    refine ⟨?_, derived_ne_shared h a⟩
    intro derive' (h' : derive' ∈ derivations .middleware) he
    exact eq_of_derived_eq h h' he

/-- The longest names that are accepted, and derivations that look like another's name. -/
theorem longest_names_suffice :
    let r : EndpointRequest :=
      { name := String.ofList (List.replicate 50 'n'), ns := "default", userId := "alice" }
    (r.validate = .ok () ∧ IsDnsLabel (stripPrefixName r.name) ∧
      (stripPrefixName r.name).length = 63) ∧
    (stripPrefixName ∈ [stripPrefixName, basicAuthName] ∧
      stripPrefixName ("basic-auth-" ++ "x") = stripPrefixName (basicAuthName "x") ∧
      stripPrefixName = stripPrefixName ∧ "basic-auth-" ++ "x" = basicAuthName "x") ∧
    stripPrefixName "crossover-cache" ≠ "crossover-cache" ∧
    (secretName ("x" ++ "-secret") = secretName (secretName "x") ∧
      "x" ++ "-secret" = secretName "x") := by
  intro r
  obtain ⟨haccepted, hlabels, hapart⟩ := accepted_names_suffice
  have hr : r.validate = .ok () := (haccepted r).2
    ⟨by decide +kernel, (EndpointRequest.isWellFormed_iff.1 (by decide +kernel)).1,
      by decide +kernel, by decide, by decide⟩
  have hstrip : stripPrefixName ∈ [stripPrefixName, basicAuthName] := List.mem_cons_self
  obtain ⟨hmiddlewares, -⟩ := hapart ("basic-auth-" ++ "x") (basicAuthName "x")
  obtain ⟨hcrossover, -⟩ := hapart "crossover-cache" "x"
  obtain ⟨-, hsecrets⟩ := hapart ("x" ++ "-secret") (secretName "x")
  exact ⟨⟨hr, hlabels r hr _ (List.mem_cons_of_mem _ List.mem_cons_self), by decide +kernel⟩,
    ⟨hstrip, rfl, (hmiddlewares _ hstrip).1 _ hstrip rfl⟩, (hcrossover _ hstrip).2.2,
    rfl, hsecrets rfl⟩

end Endpoint

end TenantEndpoints
