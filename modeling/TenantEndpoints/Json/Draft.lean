import TenantEndpoints.Json.Basic

/-!
# Drafts

What a well-formed JSON text stands for. Some of its parts may stand for no
value: a number may be too large, a string may hold half of a surrogate pair,
and lists and objects may nest too deeply. Whoever looks for a value there finds
none, but whoever ignores the part can read the rest.
-/
namespace TenantEndpoints.Json

inductive Draft
  /-- A text that stands for a value. -/
  | value (v : Json)
  /-- A list with an item that stands for no value. -/
  | array (items : List Draft)
  /-- An object with a member that stands for no value. -/
  | object (members : List (String × Draft))
  /-- A text that stands for nothing. -/
  | void
  deriving Inhabited

namespace Draft

def value? : Draft → Option Json
  | .value v => some v
  | _ => none

/-- The items of a list. -/
def items? : Draft → Option (List Draft)
  | .value (.array vs) => some (vs.map .value)
  | .array items => some items
  | _ => none

/-- The members of an object, in their order and with repetitions. -/
def members? : Draft → Option (List (String × Draft))
  | .value (.object ms) => some (ms.map fun m => (m.1, .value m.2))
  | .object members => some members
  | _ => none

def ofItems (items : List Draft) : Draft :=
  match items.mapM value? with
  | some vs => .value (.array vs)
  | none => .array items

def ofMembers (members : List (String × Draft)) : Draft :=
  match members.mapM fun m => m.2.value?.map fun v => (m.1, v) with
  | some ms => .value (.object ms)
  | none => .object members

theorem value?_eq_some {d : Draft} {v : Json} (h : d.value? = some v) : d = .value v := by
  cases d <;> simp_all [value?]

end Draft

end TenantEndpoints.Json
