import TenantEndpoints.Proofs.Likeness.Cluster

/-!
# Programs that are alike

Two programs are alike if they perform alike effects one after the other and go
on alike after related answers, whatever was drawn. Alike programs run alike:
they make the same calls up to what is submitted, log the same, and draw equally
much. So it is enough to see of each program once that it is like itself.
-/
namespace TenantEndpoints

/-- Effects that differ at most in a resource that is submitted, with what relates their
answers: nothing is known of what is drawn but how much it is. -/
inductive Effect.Alike : (e e' : Effect) → (e.Answer → e'.Answer → Prop) → Prop
  | call {c c' : Call} {R : c.Answer → c'.Answer → Prop} (h : Call.Alike c c' R)
      (deadline : Instant) :
    Effect.Alike (.call c deadline) (.call c' deadline) (OutcomeAlike R)
  | draw (count : Nat) : Effect.Alike (.draw count) (.draw count) Drawn
  | now : Effect.Alike .now .now Eq
  | baseUrl : Effect.Alike .baseUrl .baseUrl (OutcomeAlike Eq)
  | log (entry : LogEntry) : Effect.Alike (.log entry) (.log entry) Eq

inductive Program.Alike (R : α → β → Prop) : Program α → Program β → Prop
  | done {a : α} {b : β} (h : R a b) : Program.Alike R (.done a) (.done b)
  | step {e e' : Effect} {S : e.Answer → e'.Answer → Prop} {next : e.Answer → Program α}
      {next' : e'.Answer → Program β} (he : Effect.Alike e e' S)
      (h : ∀ x x', S x x' → Program.Alike R (next x) (next' x')) :
    Program.Alike R (.step e next) (.step e' next')

namespace Program.Alike
variable {R : α → β → Prop} {S : γ → δ → Prop} {p : Program α} {p' : Program β}

theorem bind (h : Program.Alike R p p') {f : α → Program γ} {f' : β → Program δ}
    (hf : ∀ a b, R a b → Program.Alike S (f a) (f' b)) : Program.Alike S (p >>= f) (p' >>= f') := by
  induction h with
  | done h => exact hf _ _ h
  | step he _ ih => exact .step he ih

theorem map (h : Program.Alike R p p') {f : α → γ} {f' : β → δ}
    (hf : ∀ a b, R a b → S (f a) (f' b)) : Program.Alike S (f <$> p) (f' <$> p') :=
  h.bind fun a b hab => .done (hf a b hab)

theorem perform {e e' : Effect} {S : e.Answer → e'.Answer → Prop} (he : Effect.Alike e e' S) :
    Program.Alike S (.perform e) (.perform e') :=
  .step he fun _ _ hx => .done hx

theorem log (entry : LogEntry) : Program.Alike Eq (.perform (.log entry)) (.perform (.log entry)) :=
  perform (.log entry)

end Program.Alike

/-- Attempts that are alike as programs: they fail alike, or succeed with related results. -/
def Attempt.Alike (R : α → β → Prop) (x : ExceptT ε Program α) (x' : ExceptT ε Program β) : Prop :=
  Program.Alike (OutcomeAlike R) x.run x'.run

namespace Attempt.Alike
variable {R : α → β → Prop} {S : γ → δ → Prop} {x : ExceptT ε Program α} {x' : ExceptT ε Program β}

theorem pure {a : α} {b : β} (h : R a b) :
    Attempt.Alike R (Pure.pure a : ExceptT ε Program α) (Pure.pure b) :=
  .done (.ok h)

theorem throw (e : ε) :
    Attempt.Alike R (MonadExcept.throw e : ExceptT ε Program α) (MonadExcept.throw e) :=
  .done (.error e)

theorem bind (h : Attempt.Alike R x x') {f : α → ExceptT ε Program γ} {f' : β → ExceptT ε Program δ}
    (hf : ∀ a b, R a b → Attempt.Alike S (f a) (f' b)) : Attempt.Alike S (x >>= f) (x' >>= f') := by
  refine Program.Alike.bind h fun a b hab => ?_
  cases hab with
  | error e => exact .done (.error e)
  | ok hab => exact hf _ _ hab

theorem map (h : Attempt.Alike R x x') {f : α → γ} {f' : β → δ}
    (hf : ∀ a b, R a b → S (f a) (f' b)) : Attempt.Alike S (f <$> x) (f' <$> x') := by
  refine Program.Alike.bind h fun a b hab => ?_
  cases hab with
  | error e => exact .done (.error e)
  | ok hab => exact .done (.ok (hf _ _ hab))

theorem adapt (h : Attempt.Alike R x x') (f : ε → ε') :
    Attempt.Alike R (x.adapt f) (x'.adapt f) :=
  Program.Alike.map h fun _ _ hab => hab.mapError f

theorem lift {p : Program α} {p' : Program β} (h : Program.Alike R p p') :
    Attempt.Alike R (liftM p : ExceptT ε Program α) (liftM p') :=
  h.map fun _ _ hab => .ok hab

end Attempt.Alike

namespace Attempt

theorem call_alike {c c' : Call} {R : c.Answer → c'.Answer → Prop} (h : Call.Alike c c' R)
    (deadline : Instant) : Attempt.Alike R (call c deadline) (call c' deadline) :=
  Program.Alike.perform (.call h deadline)

theorem outcome_alike {c c' : Call} {R : c.Answer → c'.Answer → Prop} (h : Call.Alike c c' R)
    (deadline : Instant) :
    Attempt.Alike (OutcomeAlike R) (outcome c deadline) (outcome c' deadline) :=
  .lift (Program.Alike.perform (.call h deadline))

theorem ofExcept_alike {R : α → β → Prop} {x : Except Failure α} {x' : Except Failure β}
    (h : OutcomeAlike R x x') : Attempt.Alike R (ofExcept x) (ofExcept x') :=
  .done h

theorem baseUrl_alike : Attempt.Alike Eq baseUrl baseUrl :=
  Program.Alike.perform .baseUrl

end Attempt

/-- Runs may draw different text, but else they have the same surroundings. -/
structure Surroundings.Alike (s s' : Surroundings) : Prop where
  domain_eq : s.domain = s'.domain
  left : ∀ i, s.random i ∈ RandomSource.alphabet
  right : ∀ i, s'.random i ∈ RandomSource.alphabet

/-- Two entries tell of alike calls, equally long before the deadline, or log the same. -/
inductive Entry.Alike : Entry → Entry → Prop
  | called {c c' : Call} {R : c.Answer → c'.Answer → Prop} (h : Call.Alike c c' R)
      (remaining : Int) : Entry.Alike (.called c remaining) (.called c' remaining)
  | logged (entry : LogEntry) : Entry.Alike (.logged entry) (.logged entry)

structure Run.Alike (R : α → β → Prop) (r : Run α) (r' : Run β) : Prop where
  value : R r.value r'.value
  world : r.world.Alike r'.world
  entries : List.Forall₂ Entry.Alike r.entries r'.entries

theorem RandomSource.drawn_take {random random' : RandomSource} (h : ∀ i, random i ∈ alphabet)
    (h' : ∀ i, random' i ∈ alphabet) (drawn count : Nat) :
    Drawn (random.take drawn count) (random'.take drawn count) := by
  refine ⟨by simp, ?_, ?_⟩ <;> simp [take, h, h']

section Runs
variable {s s' : Surroundings} {w w' : World}

theorem World.perform_alike (hs : s.Alike s') (hw : w.Alike w') {e e' : Effect}
    {S : e.Answer → e'.Answer → Prop} (he : Effect.Alike e e' S) :
    Run.Alike S (w.perform s e) (w'.perform s' e') := by
  cases he with
  | call hcall deadline =>
    obtain ⟨houtcome, hworld⟩ := hw.call hcall deadline
    refine ⟨houtcome, hworld, .cons ?_ .nil⟩
    rw [hw.clock_eq]
    exact .called hcall _
  | draw count =>
    rw [World.perform, World.perform, hw.drawn_eq]
    exact ⟨RandomSource.drawn_take hs.left hs.right _ count,
      ⟨hw.cluster, hw.rules_eq, hw.clock_eq, rfl⟩, .nil⟩
  | now => exact ⟨hw.clock_eq, hw, .nil⟩
  | baseUrl =>
    rw [World.perform, World.perform, hs.domain_eq]
    exact ⟨.refl Eq.refl s'.domain, hw, .nil⟩
  | log entry => exact ⟨rfl, hw, .cons (.logged entry) .nil⟩

/-- Alike programs run alike on alike worlds. -/
theorem Program.Alike.run (hs : s.Alike s') {R : α → β → Prop} {p : Program α} {p' : Program β}
    (h : Program.Alike R p p') (hw : w.Alike w') : Run.Alike R (p.run s w) (p'.run s' w') := by
  induction h generalizing w w' with
  | done h => exact ⟨h, hw, .nil⟩
  | step he _ ih =>
    have hfirst := World.perform_alike hs hw he
    have hrest := ih _ _ hfirst.value hfirst.world
    exact ⟨hrest.value, hrest.world, List.rel_append hfirst.entries hrest.entries⟩

end Runs

end TenantEndpoints
