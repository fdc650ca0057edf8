import TenantEndpoints.Failure
import TenantEndpoints.Labels.Basic

/-!
# Programs

What this library does to the outside is written as programs: trees of effects whose
branches are the answers. A program says which calls it makes and in which order,
and leaves open who answers them, so that one and the same program can run on a
cluster, against scripted answers, or interleaved with others. The random characters
that it draws come from a sequence without end.
-/
namespace TenantEndpoints

abbrev RandomSource := Nat → Char

namespace RandomSource

/-- Letters and digits. -/
def alphabet : List Char :=
  "ABCDEFGHIJKLMNOPQRSTUVWXYZabcdefghijklmnopqrstuvwxyz0123456789".toList

/-- The source that repeats a text; the empty text stands for the alphabet. -/
def cycle (text : List Char) : RandomSource :=
  let chars := (if text.isEmpty then alphabet else text).toArray
  fun i => chars.getD (i % chars.size) 'A'

/-- The next characters after `drawn` others. -/
def take (source : RandomSource) (drawn count : Nat) : List Char :=
  (List.range count).map fun i => source (drawn + i)

@[simp] theorem length_take (source : RandomSource) (drawn count : Nat) :
    (source.take drawn count).length = count := by
  simp [take]

end RandomSource

/-- Milliseconds on the clock of a run. -/
abbrev Instant := Nat

/-- A call on the store of resources of one kind. -/
inductive Call
  | create {k : Kind} (r : Resource k)
  | get (k : Kind) (ns name : String)
  | list (k : Kind) (ns : String) (selector : Selector)
  | delete (k : Kind) (ns name : String)

inductive Verb
  | create
  | get
  | list
  | delete
  deriving DecidableEq, Repr

namespace Call

/-- What a call gives when it succeeds. -/
abbrev Answer : Call → Type
  | .create (k := k) _ => Resource k
  | .get k _ _ => Resource k
  | .list k _ _ => List (Resource k)
  | .delete _ _ _ => Unit

def verb : Call → Verb
  | .create _ => .create
  | .get _ _ _ => .get
  | .list _ _ _ => .list
  | .delete _ _ _ => .delete

def kind : Call → Kind
  | .create (k := k) _ => k
  | .get k _ _ => k
  | .list k _ _ => k
  | .delete k _ _ => k

def ns : Call → String
  | .create r => r.metadata.namespaceOrEmpty
  | .get _ ns _ => ns
  | .list _ ns _ => ns
  | .delete _ ns _ => ns

/-- The name that a call is about; a listing is about none. -/
def name : Call → String
  | .create r => r.displayName
  | .get _ _ name => name
  | .list _ _ _ => ""
  | .delete _ _ name => name

end Call

inductive LogLevel
  | info
  | warn
  | error
  deriving DecidableEq, Repr

structure LogEntry where
  level : LogLevel
  message : String
  fields : List (String × String)
  deriving DecidableEq, Repr

inductive Effect
  /-- A call that has to be answered by a deadline. -/
  | call (c : Call) (deadline : Instant)
  /-- Takes random letters and digits. -/
  | draw (count : Nat)
  | now
  /-- Asks for the domain under which endpoints are served. -/
  | baseUrl
  | log (entry : LogEntry)

abbrev Effect.Answer : Effect → Type
  | .call c _ => Except Failure c.Answer
  | .draw _ => List Char
  | .now => Instant
  | .baseUrl => Except Failure String
  | .log _ => Unit

inductive Program (α : Type) : Type
  | done (a : α)
  | step (e : Effect) (next : e.Answer → Program α)

namespace Program

def bind (p : Program α) (f : α → Program β) : Program β :=
  match p with
  | .done a => f a
  | .step e next => .step e fun x => (next x).bind f

instance : Monad Program where
  pure := .done
  bind := bind

@[simp] theorem pure_eq (a : α) : (pure a : Program α) = .done a := rfl

@[simp] theorem done_bind (a : α) (f : α → Program β) : (.done a >>= f : Program β) = f a := rfl

@[simp] theorem step_bind (e : Effect) (next : e.Answer → Program α) (f : α → Program β) :
    (.step e next >>= f : Program β) = .step e fun x => next x >>= f := rfl

theorem bind_done (p : Program α) : p >>= .done = p := by
  induction p with
  | done a => rfl
  | step e next ih => simp [ih]

theorem bind_assoc (p : Program α) (f : α → Program β) (g : β → Program γ) :
    p >>= f >>= g = p >>= fun a => f a >>= g := by
  induction p with
  | done a => rfl
  | step e next ih => simp [ih]

theorem map_eq_bind (f : α → β) (p : Program α) : f <$> p = p >>= fun a => .done (f a) := rfl

instance : LawfulMonad Program :=
  .mk' Program bind_done (fun _ _ => rfl) bind_assoc

/-- The program of a single effect. -/
def perform (e : Effect) : Program e.Answer := .step e .done

end Program

/-- A program that may fail. -/
abbrev Attempt (α : Type) := ExceptT Failure Program α

namespace Attempt

/-- Makes a call and fails if it does. -/
def call (c : Call) (deadline : Instant) : Attempt c.Answer := ExceptT.mk (.perform (.call c deadline))

/-- Makes a call and goes on with its outcome. -/
def outcome (c : Call) (deadline : Instant) : Attempt (Except Failure c.Answer) :=
  ExceptT.lift (.perform (.call c deadline))

def baseUrl : Attempt String := ExceptT.mk (.perform .baseUrl)

/-- Fails if a check does. -/
def ofExcept (x : Except Failure α) : Attempt α := ExceptT.mk (.done x)

end Attempt

def logInfo (message : String) (fields : List (String × String)) : Program Unit :=
  .perform (.log ⟨.info, message, fields⟩)

def logWarn (message : String) (fields : List (String × String)) : Program Unit :=
  .perform (.log ⟨.warn, message, fields⟩)

def logError (message : String) (fields : List (String × String)) : Program Unit :=
  .perform (.log ⟨.error, message, fields⟩)

end TenantEndpoints
