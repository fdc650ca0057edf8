import TenantEndpoints.Json.Draft
import TenantEndpoints.Json.Skip

/-!
# Reading texts

A whole text is read as one draft. The lists and objects that are still open
are kept as a list of frames, the innermost first, so that reading is one pass
over the bytes. At most `maxDepth` of them may be open around a value; a list
or an object that is deeper is passed over.
-/
namespace TenantEndpoints.Json

/-- A list or an object that is still open, with what it holds so far, last
first. An object also has the key that its next value belongs to; it holds
nothing when one of its keys is no text. -/
inductive Frame
  | list (items : List Draft)
  | object (members? : Option (List (String × Draft))) (key : String)

namespace Frame

def ofBracket : Bracket → Frame
  | .list => .list []
  | .object => .object (some []) ""

def bracket : Frame → Bracket
  | .list _ => .list
  | .object _ _ => .object

def put (d : Draft) : Frame → Frame
  | .list items => .list (d :: items)
  | .object members? key => .object (members?.map ((key, d) :: ·)) key

def withKey : Option String → Frame → Frame
  | _, .list items => .list items
  | some key, .object members? _ => .object members? key
  | none, .object _ key => .object none key

def close : Frame → Draft
  | .list items => .ofItems items.reverse
  | .object none _ => .void
  | .object (some members) _ => .ofMembers members.reverse

end Frame

def maxDepth : Nat := 127

/-- Reads a value other than a list or an object, given its first byte. -/
def scanScalar (b : UInt8) (s : Bytes) : Scan Json s :=
  if b = byte '"' then do return (← scanString s).map .string
  else if b = byte 'n' then do
    return (← scanIdent [byte 'u', byte 'l', byte 'l'] s).map fun _ => .null
  else if b = byte 't' then do
    return (← scanIdent [byte 'r', byte 'u', byte 'e'] s).map fun _ => .bool true
  else if b = byte 'f' then do
    return (← scanIdent [byte 'a', byte 'l', byte 's', byte 'e'] s).map fun _ => .bool false
  else if b = byte '-' then scanNegative s
  else if isDigit b then scanNumber false b s
  else failAt .expectedValue s

/-- The same as a draft. -/
def draftScalar (b : UInt8) (s : Bytes) : Scan Draft s := do
  let t ← skipScalar b s
  return match scanScalar b s with
    | .ok t => t.map .value
    | .error _ => t.map fun _ => .void

/-- Reads a key after its opening quote, if it is a text. -/
def draftKey (s : Bytes) : Scan (Option String) s := do
  let t ← skipString s
  return match scanString s with
    | .ok t => t.map some
    | .error _ => t.map fun _ => none

def bracket? (b : UInt8) : Option Bracket :=
  if b = byte '[' then some .list else if b = byte '\x7b' then some .object else none

/-- Reads what is left of a value within the open `stack`. -/
def readFrom (stack : List Frame) (want : Want) : (s : Bytes) → Scan Draft s
  | [] => failAtEnd (want.faultAtEnd (stack.map Frame.bracket))
  | b :: s => do
    let closes : Bool := match stack with
      | .list _ :: _ => b = byte ']'
      | .object _ _ :: _ => b = byte '\x7d'
      | [] => false
    if isBlank b then return (← readFrom stack want s).after
    else if (want = .first ∨ want = .next) ∧ closes then
      match stack with
      | f :: outer :: stack' => return (← readFrom (outer.put f.close :: stack') .next s).after
      | [f] => return ⟨f.close, s, by simp⟩
      | [] => failAt .expectedValue s
    else match want, stack with
      | .next, .list _ :: _ =>
        if b = byte ',' then return (← readFrom stack .value s).after
        else failAt .expectedListEnd s
      | .next, _ =>
        if b = byte ',' then return (← readFrom stack .key s).after
        else failAt .expectedObjectEnd s
      | .colon, _ =>
        if b = byte ':' then return (← readFrom stack .value s).after
        else failAt .expectedColon s
      | .key, f :: stack' | .first, f@(.object _ _) :: stack' =>
        if b = byte '"' then
          let t ← draftKey s
          let stack'' := f.withKey t.value :: stack'
          return ((← readFrom stack'' .colon t.rest).widen t.rest_le).after
        else failAt .keyNotString s
      | .value, _ | .first, _ | .key, _ =>
        match bracket? b, decide (stack.length < maxDepth) with
        | some bracket, true =>
          return (← readFrom (.ofBracket bracket :: stack) .first s).after
        | bracket?, _ =>
          let t ← match bracket? with
            | some bracket => do pure ((← skipFrom [bracket] .first s).map fun _ => Draft.void)
            | none => draftScalar b s
          match stack with
          | [] => return t.after
          | f :: stack' =>
            return ((← readFrom (f.put t.value :: stack') .next t.rest).widen t.rest_le).after
termination_by s => s.length
decreasing_by
  all_goals simp
  all_goals have := t.rest_le
  all_goals omega

/-- Reads a text that holds one value and nothing else but blanks. -/
def Draft.parse? (text : Bytes) : Option Draft :=
  match readFrom [] .value text with
  | .ok t => if t.rest.all isBlank then some t.value else none
  | .error _ => none

def Draft.parseText? (text : String) : Option Draft := parse? (Text.Utf8.encode text)

/-- The value that a text stands for. -/
def parseText? (text : String) : Option Json := (Draft.parseText? text).bind Draft.value?

end TenantEndpoints.Json
