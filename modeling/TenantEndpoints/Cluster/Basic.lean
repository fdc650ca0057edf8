import TenantEndpoints.Program.Basic

/-!
# Clusters

A cluster keeps resources of each kind by namespace and name. It gives every
resource that it creates a fresh uid, and deleting a resource also deletes the
middlewares and secrets that it owns.
-/
namespace TenantEndpoints

/-- Where a resource is kept. -/
structure Key where
  ns : String
  name : String
  deriving DecidableEq, Repr

namespace Key

instance : Ord Key := ⟨compareLex (compareOn Key.ns) (compareOn Key.name)⟩

theorem compare_def (a b : Key) :
    compare a b = (compare a.ns b.ns).then (compare a.name b.name) := rfl

instance : Std.TransOrd Key :=
  inferInstanceAs (Std.TransCmp (compareLex (compareOn Key.ns) (compareOn Key.name)))

instance : Std.LawfulEqOrd Key where
  eq_of_compare {a b} h := by
    rw [compare_def, Ordering.then_eq_eq] at h
    obtain ⟨ns, name⟩ := a
    obtain ⟨ns', name'⟩ := b
    have h1 : ns = ns' := Std.LawfulEqOrd.eq_of_compare h.1
    have h2 : name = name' := Std.LawfulEqOrd.eq_of_compare h.2
    rw [h1, h2]

/-- A key as it stands in messages. -/
def text (k : Key) : String := resourceId k.ns k.name

end Key

def Resource.key (r : Resource k) : Key := ⟨r.metadata.namespaceOrEmpty, r.displayName⟩

/-- The resources of one kind. -/
abbrev Store (k : Kind) := SortedMap Key (Resource k)

structure Cluster where
  routes : Store .ingressRoute := ∅
  middlewares : Store .middleware := ∅
  secrets : Store .secret := ∅
  services : Store .service := ∅
  /-- How many resources were created here so far. -/
  created : Nat := 0

namespace Cluster

def store (c : Cluster) : (k : Kind) → Store k
  | .ingressRoute => c.routes
  | .middleware => c.middlewares
  | .secret => c.secrets
  | .service => c.services

def withStore (c : Cluster) : (k : Kind) → Store k → Cluster
  | .ingressRoute, s => { c with routes := s }
  | .middleware, s => { c with middlewares := s }
  | .secret, s => { c with secrets := s }
  | .service, s => { c with services := s }

@[simp] theorem store_withStore_self (c : Cluster) (k : Kind) (s : Store k) :
    (c.withStore k s).store k = s := by
  cases k <;> rfl

theorem store_withStore_of_ne (c : Cluster) {k k' : Kind} (h : k' ≠ k) (s : Store k) :
    (c.withStore k s).store k' = c.store k' := by
  cases k <;> cases k' <;> first | rfl | exact absurd rfl h

@[simp] theorem created_withStore (c : Cluster) (k : Kind) (s : Store k) :
    (c.withStore k s).created = c.created := by
  cases k <;> rfl

def find? (c : Cluster) (k : Kind) (key : Key) : Option (Resource k) := (c.store k).find? key

/-- Puts a resource in its place, whatever is there. -/
def put (c : Cluster) (r : Resource k) : Cluster := c.withStore k ((c.store k).insert r.key r)

/-- Stores a resource from outside, which gets no uid here. -/
def seed (c : Cluster) (r : Resource k) : Cluster := c.put r.stored

/-- The uid of the `n`th resource that was created, counted from one. -/
def uid (n : Nat) : String := "uid-" ++ toString n

/-- Removes the middlewares and secrets that have an owner with this uid. -/
def collect (c : Cluster) (uid : String) : Cluster :=
  { c with
    middlewares := c.middlewares.filter fun _ m => !m.metadata.isOwnedBy uid
    secrets := c.secrets.filter fun _ s => !s.metadata.isOwnedBy uid }

/-- Creates a resource unless its key is taken. -/
def create (c : Cluster) (r : Resource k) : Except Failure (Resource k) × Cluster :=
  match c.find? k r.key with
  | some _ => (.error (.taken k r.key.ns r.key.name), c)
  | none =>
    let stored := r.stored.withUid (uid (c.created + 1))
    (.ok stored, { c.withStore k ((c.store k).insert r.key stored) with created := c.created + 1 })

def get (c : Cluster) (k : Kind) (ns name : String) : Except Failure (Resource k) :=
  match c.find? k ⟨ns, name⟩ with
  | some r => .ok r
  | none => .error (.absent k ns name)

/-- The resources of a namespace that a selector selects, in the order of their names. -/
def list (c : Cluster) (k : Kind) (ns : String) (selector : Selector) : List (Resource k) :=
  ((c.store k).filter fun key r => key.ns = ns && selector.selects r.labels).values

/-- Deletes a resource together with what it owns. -/
def delete (c : Cluster) (k : Kind) (ns name : String) : Except Failure Unit × Cluster :=
  match c.find? k ⟨ns, name⟩ with
  | none => (.error (.absent k ns name), c)
  | some r =>
    let removed := c.withStore k ((c.store k).erase ⟨ns, name⟩)
    (.ok (), match r.metadata.uid with
      | some uid => removed.collect uid
      | none => removed)

/-- The outcome of a call and the cluster after it. -/
def answer (c : Cluster) : (call : Call) → Except Failure call.Answer × Cluster
  | .create r => c.create r
  | .get k ns name => (c.get k ns name, c)
  | .list k ns selector => (.ok (c.list k ns selector), c)
  | .delete k ns name => c.delete k ns name

end Cluster

end TenantEndpoints
