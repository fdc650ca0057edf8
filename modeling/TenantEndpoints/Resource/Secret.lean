import TenantEndpoints.Json.Record
import TenantEndpoints.Text.Utf8

/-!
# Secrets

A secret holds named byte strings, written in Base64. Texts may be submitted as they
are; the stored form of a secret has them among its bytes. In Base64 three bytes are
four digits of the alphabet `A-Z a-z 0-9 + /`; a last group of one or two bytes is
filled up with `=`. Only the canonical form is read: full groups, and no bits set
that stand for nothing.
-/
namespace TenantEndpoints.Text.Base64

def digit (n : Nat) : Char :=
  if n < 26 then Char.ofNat ('A'.toNat + n)
  else if n < 52 then Char.ofNat ('a'.toNat + (n - 26))
  else if n < 62 then Char.ofNat ('0'.toNat + (n - 52))
  else if n = 62 then '+' else '/'

def value? (c : Char) : Option Nat :=
  if 'A' ≤ c ∧ c ≤ 'Z' then some (c.toNat - 'A'.toNat)
  else if 'a' ≤ c ∧ c ≤ 'z' then some (c.toNat - 'a'.toNat + 26)
  else if '0' ≤ c ∧ c ≤ '9' then some (c.toNat - '0'.toNat + 52)
  else if c = '+' then some 62
  else if c = '/' then some 63
  else none

def encode : List UInt8 → List Char
  | [] => []
  | [a] =>
    let n := a.toNat * 16
    [digit (n / 64), digit (n % 64), '=', '=']
  | [a, b] =>
    let n := (a.toNat * 256 + b.toNat) * 4
    [digit (n / 4096), digit (n / 64 % 64), digit (n % 64), '=']
  | a :: b :: c :: s =>
    let n := (a.toNat * 256 + b.toNat) * 256 + c.toNat
    digit (n / 262144) :: digit (n / 4096 % 64) :: digit (n / 64 % 64) :: digit (n % 64) ::
      encode s

def decode? : List Char → Option (List UInt8)
  | [] => some []
  | [a, b, '=', '='] => do
    let n := (← value? a) * 64 + (← value? b)
    if n % 16 = 0 then some [UInt8.ofNat (n / 16)] else none
  | [a, b, c, '='] => do
    let n := ((← value? a) * 64 + (← value? b)) * 64 + (← value? c)
    if n % 4 = 0 then some [UInt8.ofNat (n / 1024), UInt8.ofNat (n / 4 % 256)] else none
  | a :: b :: c :: d :: s => do
    let n := (((← value? a) * 64 + (← value? b)) * 64 + (← value? c)) * 64 + (← value? d)
    let rest ← decode? s
    some (UInt8.ofNat (n / 65536) :: UInt8.ofNat (n / 256 % 256) :: UInt8.ofNat (n % 256) :: rest)
  | _ => none

end TenantEndpoints.Text.Base64

namespace TenantEndpoints

structure SecretSpec where
  type : Option String := none
  immutable : Option Bool := none
  data : Option (SortedMap String Bytes) := none
  stringData : Option (SortedMap String String) := none

namespace SecretSpec

/-- The form in which a secret is stored: its texts are moved to its bytes, in
the place of bytes of the same name. -/
def stored (s : SecretSpec) : SecretSpec :=
  match s.stringData with
  | none => s
  | some texts =>
    let bytes := texts.entries.map fun e => (e.1, Text.Utf8.encode e.2)
    { s with data := some ((s.data.getD ∅).insertAll bytes), stringData := none }

def bytes? : Json.Draft → Option Bytes
  | .value .null => some []
  | d => d.string?.bind fun s => Text.Base64.decode? s.toList

def ofFields? (fs : Json.Fields) : Option SecretSpec := do
  some
    { type := ← fs.last "type" Json.Draft.string?
      immutable := ← fs.last "immutable" Json.Draft.bool?
      data := ← fs.last "data" (Json.Draft.mapOf? bytes?)
      stringData := ← fs.last "stringData" (Json.Draft.mapOf? Json.Draft.string?) }

def toFields (s : SecretSpec) : List (String × Option Json) :=
  let base64 (b : Bytes) : Json := .string (String.ofList (Text.Base64.encode b))
  [("type", s.type.map .string), ("immutable", s.immutable.map .bool),
   ("data", s.data.map (Json.ofMap base64)),
   ("stringData", s.stringData.map (Json.ofMap .string))]

end SecretSpec

end TenantEndpoints
