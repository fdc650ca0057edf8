import TenantEndpoints.Json.Draft

/-!
# Records in JSON

Two ways to read the fields of a record. A *positional* record is an object
without repeated fields or the list of its fields in their order; a *lenient*
one is an object in which the last of several equal fields counts and `null` is
an absent field. Both ignore what they do not know, whether it stands for a
value or not.
-/
namespace TenantEndpoints.Json

def string? : Json → Option String
  | .string s => some s
  | _ => none

def bool? : Json → Option Bool
  | .bool b => some b
  | _ => none

/-- An integer between two bounds. -/
def integerWithin? (low high : Int) : Json → Option Int
  | .integer n => if low ≤ n ∧ n ≤ high then some n else none
  | _ => none

/-- A signed word of `bits` bits. -/
def signed? (bits : Nat) : Json → Option Int :=
  integerWithin? (Int.negOfNat (Nat.pow 2 (bits - 1))) (Nat.pow 2 (bits - 1) - 1 : Nat)

/-- An unsigned word of `bits` bits. -/
def unsigned? (bits : Nat) (v : Json) : Option Nat :=
  (integerWithin? 0 (Nat.pow 2 bits - 1 : Nat) v).map Int.toNat

/-- The fields found in the text of a record. -/
abbrev Fields := List (String × Draft)

namespace Draft

def string? (d : Draft) : Option String := d.value?.bind Json.string?

def bool? (d : Draft) : Option Bool := d.value?.bind Json.bool?

def signed? (bits : Nat) (d : Draft) : Option Int := d.value?.bind (Json.signed? bits)

def unsigned? (bits : Nat) (d : Draft) : Option Nat := d.value?.bind (Json.unsigned? bits)

def listOf? (read? : Draft → Option α) (d : Draft) : Option (List α) :=
  d.items?.bind fun items => items.mapM read?

/-- A map from strings, in which the last of several equal keys counts. -/
def mapOf? (read? : Draft → Option α) (d : Draft) : Option (SortedMap String α) := do
  let es ← (← d.members?).mapM fun m => do some (m.1, ← read? m.2)
  some (SortedMap.ofList es)

/-- The known fields of an object, if none of them is repeated. -/
def distinct? (names : List String) (d : Draft) : Option Fields := do
  let known := (← d.members?).filter (·.1 ∈ names)
  if (known.map (·.1)).Nodup then some known else none

/-- The known fields of a positional record. -/
def positional? (names : List String) (d : Draft) : Option Fields :=
  match d.items? with
  | some items => if items.length ≤ names.length then some (names.zip items) else none
  | none => d.distinct? names

end Draft

namespace Fields

variable {α : Type}

/-- A field that must be there. -/
def required (fs : Fields) (name : String) (read? : Draft → Option α) : Option α :=
  (fs.lookup name).bind read?

/-- A field that may be missing or `null`. -/
def optional (fs : Fields) (name : String) (read? : Draft → Option α) : Option (Option α) :=
  match fs.lookup name with
  | none => some none
  | some (.value .null) => some none
  | some d => (read? d).map some

/-- A field that may be missing but not `null`. -/
def defaulted (fs : Fields) (name : String) (read? : Draft → Option α) (d : α) : Option α :=
  match fs.lookup name with
  | none => some d
  | some v => read? v

/-- A field of a lenient record: every occurrence must be readable and the last one counts. -/
def last (fs : Fields) (name : String) (read? : Draft → Option α) : Option (Option α) :=
  fs.foldlM (fun found m =>
    if m.1 ≠ name then some found
    else match m.2 with
      | .value .null => some none
      | d => (read? d).map some) none

end Fields

/-- An object of the fields that are there. -/
def record (fields : List (String × Option Json)) : Json :=
  .object (fields.filterMap fun f => f.2.map fun v => (f.1, v))

def ofStrings (ss : List String) : Json := .array (ss.map .string)

def ofMap (f : α → Json) (m : SortedMap String α) : Json :=
  .object (m.entries.map fun e => (e.1, f e.2))

end TenantEndpoints.Json
