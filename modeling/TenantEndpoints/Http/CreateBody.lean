import TenantEndpoints.Json.Reader
import TenantEndpoints.Text.Quoted

/-!
# Bodies of create requests

The body is an object, or the list of its fields in their order. It is read
from front to back, and the first thing wrong with it is told together with the
place where it was met. Unknown fields are only passed over.
-/
namespace TenantEndpoints.Http

structure CreateBody where
  name : String
  serviceName : String
  useBasicAuth : Bool
  deriving DecidableEq, Repr

namespace CreateBody

open Json (Scan Taken Mishap Fault failAt failAtEnd byte isBlank)

inductive Field
  | name
  | serviceName
  | useBasicAuth
  deriving DecidableEq, Repr

def Field.key : Field → String
  | .name => "name"
  | .serviceName => "serviceName"
  | .useBasicAuth => "useBasicAuth"

def Field.ofKey? (key : String) : Option Field :=
  [Field.name, .serviceName, .useBasicAuth].find? (·.key = key)

/-- The fields met so far. -/
structure Draft where
  name : Option String := none
  serviceName : Option String := none
  useBasicAuth : Option Bool := none

def Draft.has (d : Draft) : Field → Bool
  | .name => d.name.isSome
  | .serviceName => d.serviceName.isSome
  | .useBasicAuth => d.useBasicAuth.isSome

def expectedBody : String := "struct CreateBody"

/-- How a value of the wrong type is called. -/
def unexpected : Json → String
  | .null => "null"
  | .bool b => s!"boolean \x60{b}\x60"
  | .integer n => s!"integer \x60{n}\x60"
  | .real bits => "floating point \x60" ++ Json.realText bits ++ "\x60"
  | .string s => "string " ++ Text.quote s
  | .array _ => "sequence"
  | .object _ => "map"

def wrongType (v : Json) (expected : String) : Fault :=
  .shape ("invalid type: " ++ unexpected v ++ ", expected " ++ expected)

/-- Fails with what the byte `b` begins in the place of another type. The end
of a number is only known from the byte after it. -/
def failType (expected : String) (b : UInt8) (s : Bytes) : Except Mishap α :=
  if b = byte '[' then failAt (wrongType (.array []) expected) s
  else if b = byte '\x7b' then failAt (wrongType (.object []) expected) s
  else do
    let t ← Json.scanScalar b s
    let fault := wrongType t.value expected
    if b = byte '-' ∨ Json.isDigit b then Json.failPast fault t.rest else failAt fault t.rest

/-- Reads a value given its first byte and what follows, after any blanks. -/
def afterBlanks (atEnd : Fault) (read : UInt8 → (s : Bytes) → Scan α s) :
    (s : Bytes) → Scan α s
  | [] => failAtEnd atEnd
  | b :: s =>
    if isBlank b then do return (← afterBlanks atEnd read s).after
    else do return (← read b s).after

def readString : (s : Bytes) → Scan String s :=
  afterBlanks .endInValue fun b s =>
    if b = byte '"' then Json.scanString s else failType "a string" b s

def readBool : (s : Bytes) → Scan Bool s :=
  afterBlanks .endInValue fun b s =>
    if b = byte 't' then do
      return (← Json.scanIdent [byte 'r', byte 'u', byte 'e'] s).map fun _ => true
    else if b = byte 'f' then do
      return (← Json.scanIdent [byte 'a', byte 'l', byte 's', byte 'e'] s).map fun _ => false
    else failType "a boolean" b s

/-- Reads the value of a known field. -/
def Draft.readField (d : Draft) (f : Field) (s : Bytes) : Scan Draft s :=
  match f with
  | .name => do return (← readString s).map fun v => { d with name := some v }
  | .serviceName => do return (← readString s).map fun v => { d with serviceName := some v }
  | .useBasicAuth => do return (← readBool s).map fun v => { d with useBasicAuth := some v }

/-- The body of a draft, or the first field that it misses. -/
def Draft.finish (d : Draft) : Except Fault CreateBody :=
  match d.name, d.serviceName with
  | none, _ => .error (.shape "missing field \x60name\x60")
  | _, none => .error (.shape "missing field \x60serviceName\x60")
  | some name, some serviceName =>
    .ok { name, serviceName, useBasicAuth := d.useBasicAuth.getD false }

/-- Reads the colon after a key. -/
def readColon : (s : Bytes) → Scan Unit s :=
  afterBlanks .endInObject fun b s =>
    if b = byte ':' then .ok (.here () s) else failAt .expectedColon s

/-- Reads what follows a key. A repeated field is told when the next byte that
is not blank has been looked at. -/
def Draft.readMember (d : Draft) (key : String) (s : Bytes) : Scan Draft s := do
  let field? := Field.ofKey? key
  if let some f := field? then
    if d.has f then
      return ← Json.failPast (.shape ("duplicate field \x60" ++ f.key ++ "\x60"))
        (s.dropWhile isBlank)
  let colon ← readColon s
  match field? with
  | some f => return (← d.readField f colon.rest).widen colon.rest_le
  | none => return ((← Json.skipValue colon.rest).map fun _ => d).widen colon.rest_le

/-- What may stand next in an object: its first key or its end, a comma or its
end, or a key after a comma. -/
inductive Place
  | first
  | next
  | key
  deriving DecidableEq, Repr

/-- Reads the members of an object after its opening brace. -/
def readMembers (d : Draft) (place : Place) : (s : Bytes) → Scan CreateBody s
  | [] => failAtEnd (if place = .key then .endInValue else .endInObject)
  | b :: s => do
    if isBlank b then return (← readMembers d place s).after
    else if b = byte '\x7d' then
      if place = .key then failAt .trailingComma s
      else match d.finish with
        | .ok body => return ⟨body, s, by simp⟩
        | .error f => failAt f s
    else if place = .next then
      if b = byte ',' then return (← readMembers d .key s).after
      else failAt .expectedObjectEnd s
    else if b = byte '"' then
      let key ← Json.scanString s
      let member ← d.readMember key.value key.rest
      return ((← readMembers member.value .next member.rest).widen
        (Nat.le_trans member.rest_le key.rest_le)).after
    else failAt .keyNotString s
termination_by s => s.length
decreasing_by
  · simp
  · simp
  · have := Nat.le_trans member.rest_le key.rest_le; simp; omega

/-- Goes on to the next item of a list, if there is one. -/
def nextItem (first : Bool) : (s : Bytes) → Scan Bool s
  | [] => failAtEnd .endInList
  | b :: s =>
    if isBlank b then do return (← nextItem first s).after
    else if b = byte ']' then .ok (.here false (b :: s))
    else if first then .ok (.here true (b :: s))
    else if b = byte ',' then
      match s.dropWhile isBlank with
      | [] => failAtEnd .endInValue
      | c :: r => if c = byte ']' then failAt .trailingComma r else .ok ⟨true, s, by simp⟩
    else failAt .expectedListEnd s

def wrongLength (n : Nat) : Fault :=
  .shape s!"invalid length {n}, expected {expectedBody} with 3 elements"

/-- Reads an item that has to be there. -/
def readItem (n : Nat) (read : (s : Bytes) → Scan α s) (s : Bytes) : Scan α s := do
  let item ← nextItem (n = 0) s
  if item.value then return (← read item.rest).widen item.rest_le
  else Json.failPast (wrongLength n) item.rest

/-- Reads the end of a list that holds no more items. -/
def readListEnd : (s : Bytes) → Scan Unit s :=
  afterBlanks .endInList fun b s =>
    if b = byte ']' then .ok (.here () s)
    else if b = byte ',' then
      match s.dropWhile isBlank with
      | [] => failAtEnd .trailingCharacters
      | c :: r => failAt (if c = byte ']' then .trailingComma else .trailingCharacters) r
    else failAt .trailingCharacters s

/-- Reads the items of a list after its opening bracket. -/
def readItems (s : Bytes) : Scan CreateBody s := do
  let name ← readItem 0 readString s
  let serviceName ← readItem 1 readString name.rest
  let third ← nextItem false serviceName.rest
  let useBasicAuth : Taken Bool third.rest ←
    if third.value then readBool third.rest else pure (.here false third.rest)
  let finish ← readListEnd useBasicAuth.rest
  let body : CreateBody :=
    { name := name.value, serviceName := serviceName.value, useBasicAuth := useBasicAuth.value }
  return ⟨body, finish.rest, by
    have := name.rest_le; have := serviceName.rest_le; have := third.rest_le
    have := useBasicAuth.rest_le; have := finish.rest_le; omega⟩

/-- Reads a text that holds one body and nothing else but blanks. -/
def decode (text : Bytes) : Except Mishap CreateBody := do
  let body ← afterBlanks .endInValue (fun b s =>
    if b = byte '[' then readItems s
    else if b = byte '\x7b' then readMembers {} .first s
    else failType expectedBody b s) text
  match body.rest.dropWhile isBlank with
  | [] => return body.value
  | _ :: s => failAt .trailingCharacters s

end CreateBody

end TenantEndpoints.Http
