import TenantEndpoints.Proofs.Cluster.Serving
import TenantEndpoints.Proofs.Likeness.Resource

/-!
# Clusters that are alike

Clusters with alike resources under the same keys answer alike calls alike, and
are alike afterwards: whatever a cluster or a rule looks at is in the metadata of
a resource, and that does not differ.
-/
namespace TenantEndpoints

namespace SortedMap
variable {κ : Type u} {ν : Type v} [Ord κ] {R : ν → ν → Prop} {m m' : SortedMap κ ν}

/-- Two maps have the same keys, with related values under them. -/
def Alike (R : ν → ν → Prop) (m m' : SortedMap κ ν) : Prop :=
  List.Forall₂ (fun e e' => e.1 = e'.1 ∧ R e.2 e'.2) m.entries m'.entries

theorem Alike.refl (h : ∀ v, R v v) (m : SortedMap κ ν) : m.Alike R m :=
  List.forall₂_same.2 fun e _ => ⟨rfl, h e.2⟩

theorem Alike.keys_eq (h : m.Alike R m') : m.keys = m'.keys := by
  have hkeys := List.rel_map (fun _ _ he => he.1) h
  rwa [List.forall₂_eq_eq_eq] at hkeys

theorem Alike.values (h : m.Alike R m') : List.Forall₂ R m.values m'.values :=
  List.rel_map (fun _ _ he => he.2) h

theorem Alike.filter {p : κ → ν → Bool} (h : m.Alike R m')
    (hp : ∀ k v v', R v v' → p k v = p k v') : (m.filter p).Alike R (m'.filter p) := by
  refine List.rel_filter (fun e e' he => ?_) h
  dsimp only
  rw [he.1, hp e'.1 e.2 e'.2 he.2]

theorem Alike.erase [DecidableEq κ] (h : m.Alike R m') (k : κ) :
    (m.erase k).Alike R (m'.erase k) :=
  h.filter fun _ _ _ _ => rfl

theorem Alike.find? [DecidableEq κ] (h : m.Alike R m') (k : κ) :
    Option.Rel R (m.find? k) (m'.find? k) := by
  obtain ⟨es, hs⟩ := m
  obtain ⟨es', hs'⟩ := m'
  simp only [Alike, SortedMap.find?] at h ⊢
  clear hs hs'
  induction h with
  | nil => exact .none
  | cons he _ ih =>
    rw [lookupEntry, lookupEntry, he.1]
    split
    · exact .some he.2
    · exact ih

variable [Std.TransOrd κ] [Std.LawfulEqOrd κ]

theorem Alike.insert (h : m.Alike R m') (k : κ) {v v' : ν} (hv : R v v') :
    (m.insert k v).Alike R (m'.insert k v') := by
  obtain ⟨es, hs⟩ := m
  obtain ⟨es', hs'⟩ := m'
  simp only [Alike, SortedMap.insert] at h ⊢
  clear hs hs'
  induction h with
  | nil => exact .cons ⟨rfl, hv⟩ .nil
  | cons he h ih =>
    rw [insertEntry, insertEntry, he.1]
    split
    · exact .cons ⟨rfl, hv⟩ (.cons he h)
    · exact .cons ⟨rfl, hv⟩ h
    · exact .cons he ih

end SortedMap

/-- Calls that differ at most in the resource that is submitted, with what relates
their answers. -/
inductive Call.Alike : (c c' : Call) → (c.Answer → c'.Answer → Prop) → Prop
  | create {k : Kind} {r r' : Resource k} (h : r.Alike r') :
    Call.Alike (.create r) (.create r') Resource.Alike
  | get (k : Kind) (ns name : String) :
    Call.Alike (.get k ns name) (.get k ns name) Resource.Alike
  | list (k : Kind) (ns : String) (selector : Selector) :
    Call.Alike (.list k ns selector) (.list k ns selector) (List.Forall₂ Resource.Alike)
  | delete (k : Kind) (ns name : String) :
    Call.Alike (.delete k ns name) (.delete k ns name) Eq

namespace Call.Alike
variable {c c' : Call} {R : c.Answer → c'.Answer → Prop}

theorem verb_eq (h : Call.Alike c c' R) : c.verb = c'.verb := by
  cases h <;> rfl

theorem kind_eq (h : Call.Alike c c' R) : c.kind = c'.kind := by
  cases h <;> rfl

theorem ns_eq (h : Call.Alike c c' R) : c.ns = c'.ns := by
  cases h with
  | create h => exact congrArg Metadata.namespaceOrEmpty h.metadata_eq
  | _ => rfl

theorem name_eq (h : Call.Alike c c' R) : c.name = c'.name := by
  cases h with
  | create h => exact h.displayName_eq
  | _ => rfl

end Call.Alike

namespace Cluster

/-- Two clusters have alike resources under the same keys. -/
structure Alike (c c' : Cluster) : Prop where
  store : ∀ k, (c.store k).Alike Resource.Alike (c'.store k)
  created_eq : c.created = c'.created

namespace Alike
variable {c c' : Cluster} {k : Kind}

theorem refl (c : Cluster) : c.Alike c := ⟨fun k => .refl Resource.Alike.refl (c.store k), rfl⟩

theorem withStore (h : c.Alike c') {s s' : Store k} (hs : s.Alike Resource.Alike s') :
    (c.withStore k s).Alike (c'.withStore k s') := by
  refine ⟨fun k' => ?_, by simp only [created_withStore, h.created_eq]⟩
  by_cases hk : k' = k
  · subst hk
    simpa only [store_withStore_self] using hs
  · simpa only [store_withStore_of_ne _ hk] using h.store k'

theorem seed (h : c.Alike c') (r : Resource k) : (c.seed r).Alike (c'.seed r) :=
  h.withStore ((h.store k).insert r.stored.key (.refl r.stored))

theorem collect (h : c.Alike c') (uid : String) : (c.collect uid).Alike (c'.collect uid) := by
  have hstays (k : Kind) (key : Key) (r r' : Resource k) (hr : r.Alike r') :
      (!r.metadata.isOwnedBy uid) = !r'.metadata.isOwnedBy uid := by rw [hr.metadata_eq]
  refine ⟨fun k => ?_, h.created_eq⟩
  cases k with
  | ingressRoute => exact h.store .ingressRoute
  | middleware => exact (h.store .middleware).filter (hstays .middleware)
  | secret => exact (h.store .secret).filter (hstays .secret)
  | service => exact h.store .service

theorem create (h : c.Alike c') {r r' : Resource k} (hr : r.Alike r') :
    OutcomeAlike Resource.Alike (c.create r).1 (c'.create r').1 ∧
      (c.create r).2.Alike (c'.create r').2 := by
  have hfound := (h.store k).find? r.key
  unfold Cluster.create Cluster.find?
  rw [← hr.key_eq, h.created_eq]
  generalize (c.store k).find? r.key = found, (c'.store k).find? r.key = found' at hfound
  cases hfound with
  | some => exact ⟨.error _, h⟩
  | none =>
    have hmade := hr.stored.withUid (Cluster.uid (c'.created + 1))
    exact ⟨.ok hmade, (h.withStore ((h.store k).insert r.key hmade)).store, rfl⟩

theorem get (h : c.Alike c') (k : Kind) (ns name : String) :
    OutcomeAlike Resource.Alike (c.get k ns name) (c'.get k ns name) := by
  have hfound := (h.store k).find? ⟨ns, name⟩
  unfold Cluster.get Cluster.find?
  generalize (c.store k).find? ⟨ns, name⟩ = found, (c'.store k).find? ⟨ns, name⟩ = found' at hfound
  cases hfound with
  | some hr => exact .ok hr
  | none => exact .error _

theorem list (h : c.Alike c') (k : Kind) (ns : String) (selector : Selector) :
    List.Forall₂ Resource.Alike (c.list k ns selector) (c'.list k ns selector) := by
  refine ((h.store k).filter fun key r r' hr => ?_).values
  rw [hr.labels_eq]

theorem delete (h : c.Alike c') (k : Kind) (ns name : String) :
    OutcomeAlike Eq (c.delete k ns name).1 (c'.delete k ns name).1 ∧
      (c.delete k ns name).2.Alike (c'.delete k ns name).2 := by
  have hfound := (h.store k).find? ⟨ns, name⟩
  unfold Cluster.delete Cluster.find?
  generalize (c.store k).find? ⟨ns, name⟩ = found, (c'.store k).find? ⟨ns, name⟩ = found' at hfound
  cases hfound with
  | none => exact ⟨.error _, h⟩
  | @some r r' hr =>
    have hremoved := h.withStore ((h.store k).erase ⟨ns, name⟩)
    refine ⟨.ok rfl, ?_⟩
    dsimp only
    rw [hr.metadata_eq]
    cases r'.metadata.uid with
    | none => exact hremoved
    | some uid => exact hremoved.collect uid

/-- Alike clusters answer alike calls alike, and are alike afterwards. -/
theorem answer (h : c.Alike c') {call call' : Call} {R : call.Answer → call'.Answer → Prop}
    (hcall : Call.Alike call call' R) :
    OutcomeAlike R (c.answer call).1 (c'.answer call').1 ∧
      (c.answer call).2.Alike (c'.answer call').2 := by
  cases hcall with
  | create hr => exact h.create hr
  | get k ns name => exact ⟨h.get k ns name, h⟩
  | list k ns selector => exact ⟨.ok (h.list k ns selector), h⟩
  | delete k ns name => exact h.delete k ns name

end Alike

end Cluster

namespace Cluster
variable {call call' : Call} {R : call.Answer → call'.Answer → Prop}

theorem Disturbance.answer?_alike (h : Call.Alike call call' R) (d : Disturbance call.kind) :
    Option.Rel (OutcomeAlike R) (d.answer? call) (Disturbance.answer? call' (h.kind_eq ▸ d)) := by
  cases d with
  | letPass => cases h <;> exact .none
  | fail failure => cases h <;> exact .some (.error failure)
  | substitute r =>
    cases h with
    | create | get => exact .some (.ok (.refl r))
    | list => exact .some (.ok (.cons (.refl r) .nil))
    | delete => exact .some (.ok rfl)

/-- A rule answers alike calls alike, because it does not look at what is submitted. -/
theorem Rule.answer?_alike (h : Call.Alike call call' R) (rule : Rule) :
    Option.Rel (OutcomeAlike R) (rule.answer? call) (rule.answer? call') := by
  obtain ⟨verb, kind, name, skip, times, delayMs, disturbance⟩ := rule
  unfold answer?
  dsimp only
  split
  · next hk =>
    subst hk
    rw [dif_pos h.kind_eq]
    exact disturbance.answer?_alike h
  · next hk =>
    rw [dif_neg (h.kind_eq ▸ hk)]
    exact .none

theorem Rule.apply_eq_of_alike (h : Call.Alike call call' R) (rules : List Rule) :
    Rule.apply rules call = Rule.apply rules call' :=
  Rule.apply_congr (fun r => by simp only [concerns, h.verb_eq, h.kind_eq, h.name_eq]) rules

end Cluster

/-- Worlds that differ only in what was drawn for the resources in their clusters. -/
structure World.Alike (w w' : World) : Prop where
  cluster : w.cluster.Alike w'.cluster
  rules_eq : w.rules = w'.rules
  clock_eq : w.clock = w'.clock
  drawn_eq : w.drawn = w'.drawn

namespace World.Alike
variable {w w' : World} {c c' : Call} {R : c.Answer → c'.Answer → Prop}

theorem refl (w : World) : w.Alike w := ⟨.refl w.cluster, rfl, rfl, rfl⟩

/-- Whether a call comes too late is decided by its delay alone, before anything is looked at. -/
theorem answer (h : w.Alike w') (rule? : Option Cluster.Rule) (hcall : Call.Alike c c' R)
    (deadline : Instant) :
    OutcomeAlike R (w.answer rule? c deadline).1 (w'.answer rule? c' deadline).1 ∧
      (w.answer rule? c deadline).2.Alike (w'.answer rule? c' deadline).2 := by
  have hanswer : Option.Rel (OutcomeAlike R) (rule?.bind (·.answer? c))
      (rule?.bind (·.answer? c')) := by
    cases rule? with
    | none => exact .none
    | some rule => exact rule.answer?_alike hcall
  simp only [World.answer, h.clock_eq, hcall.kind_eq, hcall.ns_eq, hcall.name_eq]
  split
  · exact ⟨.error _, h.cluster, h.rules_eq, rfl, h.drawn_eq⟩
  · generalize rule?.bind (·.answer? c) = outcome?, rule?.bind (·.answer? c') = outcome?'
      at hanswer
    cases hanswer with
    | some houtcome => exact ⟨houtcome, h.cluster, h.rules_eq, rfl, h.drawn_eq⟩
    | none =>
      obtain ⟨houtcome, hcluster⟩ := h.cluster.answer hcall
      exact ⟨houtcome, hcluster, h.rules_eq, rfl, h.drawn_eq⟩

/-- Alike worlds answer alike calls alike, and are alike afterwards. -/
theorem call (h : w.Alike w') (hcall : Call.Alike c c' R) (deadline : Instant) :
    OutcomeAlike R (w.call c deadline).1 (w'.call c' deadline).1 ∧
      (w.call c deadline).2.Alike (w'.call c' deadline).2 := by
  unfold World.call
  rw [h.rules_eq, Cluster.Rule.apply_eq_of_alike hcall]
  obtain ⟨rule?, rules⟩ := Cluster.Rule.apply w'.rules c'
  have hw : World.Alike { w with rules } { w' with rules } :=
    ⟨h.cluster, rfl, h.clock_eq, h.drawn_eq⟩
  exact hw.answer rule? hcall deadline

end World.Alike

end TenantEndpoints
