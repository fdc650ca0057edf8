import TenantEndpoints.Json.NumberScan

/-!
# Passing over values

A value that nobody looks at is only checked for being well-formed: it may nest
to any depth, its numbers may be of any size, and its strings need not be
texts. The brackets that are open are kept as a list, the innermost first.
-/
namespace TenantEndpoints.Json

inductive Bracket
  | list
  | object
  deriving DecidableEq, Repr

/-- What may stand next: a value; the first item or the end of what was just
opened; a comma or the end; a key; or the colon after a key. -/
inductive Want
  | value
  | first
  | next
  | key
  | colon
  deriving DecidableEq, Repr

/-- The fault of a text that ends here. -/
def Want.faultAtEnd (stack : List Bracket) : Want → Fault
  | .value => .endInValue
  | _ => match stack with
    | .list :: _ => .endInList
    | _ => .endInObject

/-- Reads a value other than a list or an object, given its first byte. -/
def skipScalar (b : UInt8) (s : Bytes) : Scan Unit s :=
  if b = byte '"' then skipString s
  else if b = byte 'n' then scanIdent [byte 'u', byte 'l', byte 'l'] s
  else if b = byte 't' then scanIdent [byte 'r', byte 'u', byte 'e'] s
  else if b = byte 'f' then scanIdent [byte 'a', byte 'l', byte 's', byte 'e'] s
  else if b = byte '-' then skipNegative s
  else if isDigit b then skipNumber b s
  else failAt .expectedValue s

/-- Passes over what is left of a value within the open brackets of `stack`. -/
def skipFrom (stack : List Bracket) (want : Want) : (s : Bytes) → Scan Unit s
  | [] => failAtEnd (want.faultAtEnd stack)
  | b :: s => do
    let closes : Bool := match stack with
      | .list :: _ => b = byte ']'
      | .object :: _ => b = byte '\x7d'
      | [] => false
    if isBlank b then return (← skipFrom stack want s).after
    else if (want = .first ∨ want = .next) ∧ closes then
      match stack with
      | _ :: outer :: stack' => return (← skipFrom (outer :: stack') .next s).after
      | _ => return ⟨(), s, by simp⟩
    else match want, stack with
      | .next, .list :: _ =>
        if b = byte ',' then return (← skipFrom stack .value s).after
        else failAt .expectedListEnd s
      | .next, _ =>
        if b = byte ',' then return (← skipFrom stack .key s).after
        else failAt .expectedObjectEnd s
      | .colon, _ =>
        if b = byte ':' then return (← skipFrom stack .value s).after
        else failAt .expectedColon s
      | .key, _ | .first, .object :: _ =>
        if b = byte '"' then
          let t ← skipString s
          return ((← skipFrom stack .colon t.rest).widen t.rest_le).after
        else failAt .keyNotString s
      | .value, _ | .first, _ =>
        if b = byte '[' then return (← skipFrom (.list :: stack) .first s).after
        else if b = byte '\x7b' then return (← skipFrom (.object :: stack) .first s).after
        else
          let t ← skipScalar b s
          if stack = [] then return t.after
          else return ((← skipFrom stack .next t.rest).widen t.rest_le).after
termination_by s => s.length
decreasing_by
  all_goals simp
  all_goals have := t.rest_le
  all_goals omega

/-- Passes over a value, blanks before it included. -/
def skipValue (s : Bytes) : Scan Unit s := skipFrom [] .value s

end TenantEndpoints.Json
