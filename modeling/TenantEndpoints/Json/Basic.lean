import TenantEndpoints.Decimal.Shortest
import TenantEndpoints.SortedMap
import TenantEndpoints.Text.Reads

/-!
# JSON values

A value keeps the members of an object in the order of its text, with any
repetitions. `Json.canonical` sorts the members of every object by key and
keeps the last of each key. Its text is compact, without blanks and with the
members in their order. In a string only the quote, the backslash and the
controls below the space are escaped, five controls by a letter and the others
by four lower-case hexadecimal digits.
-/
namespace TenantEndpoints

inductive Json
  | null
  | bool (b : Bool)
  | integer (n : Int)
  /-- A number that is no integer, by the bits of its 64-bit floating-point value. -/
  | real (bits : UInt64)
  | string (s : String)
  | array (items : List Json)
  | object (members : List (String × Json))
  deriving Repr, Inhabited, BEq

namespace Json

mutual

/-- The same value with the members of every object sorted by key; of several
members with one key the last is kept. -/
def canonical : Json → Json
  | .array items => .array (canonicalItems items)
  | .object members => .object (SortedMap.ofList (canonicalMembers members)).entries
  | v => v

def canonicalItems : List Json → List Json
  | [] => []
  | v :: vs => canonical v :: canonicalItems vs

def canonicalMembers : List (String × Json) → List (String × Json)
  | [] => []
  | (k, v) :: ms => (k, canonical v) :: canonicalMembers ms

end

theorem canonicalMembers_eq_map (ms : List (String × Json)) :
    canonicalMembers ms = ms.map fun m => (m.1, canonical m.2) := by
  induction ms with
  | nil => simp [canonicalMembers]
  | cons m ms ih => obtain ⟨k, v⟩ := m; simp [canonicalMembers, ih]

theorem canonicalMembers_insertEntry (k : String) (v : Json) (es : List (String × Json)) :
    canonicalMembers (SortedMap.insertEntry k v es) =
      SortedMap.insertEntry k (canonical v) (canonicalMembers es) := by
  induction es with
  | nil => simp [SortedMap.insertEntry, canonicalMembers]
  | cons e es ih =>
    obtain ⟨k', v'⟩ := e
    simp only [SortedMap.insertEntry, canonicalMembers]
    split <;> simp [canonicalMembers, ih]

theorem canonicalMembers_insertAll (m : SortedMap String Json) (n : SortedMap String Json)
    (h : canonicalMembers m.entries = n.entries) (es : List (String × Json)) :
    canonicalMembers (m.insertAll es).entries = (n.insertAll (canonicalMembers es)).entries := by
  induction es generalizing m n with
  | nil => simpa [SortedMap.insertAll, canonicalMembers] using h
  | cons e es ih =>
    obtain ⟨k, v⟩ := e
    refine ih (m.insert k v) (n.insert k (canonical v)) ?_
    simp only [SortedMap.insert, canonicalMembers_insertEntry, h]

mutual

/-- Sorting a second time changes nothing. -/
theorem canonical_canonical : (v : Json) → v.canonical.canonical = v.canonical
  | .null | .bool _ | .integer _ | .real _ | .string _ => by simp [canonical]
  | .array items => by simp [canonical, canonicalItems_canonicalItems items]
  | .object members => by
    have h := canonicalMembers_insertAll SortedMap.empty SortedMap.empty
      (by simp [SortedMap.empty, canonicalMembers]) (canonicalMembers members)
    rw [canonicalMembers_canonicalMembers members] at h
    simp only [canonical, SortedMap.ofList, h]
    rw [show SortedMap.empty.insertAll (SortedMap.empty.insertAll (canonicalMembers members)).entries
      = _ from SortedMap.ofList_entries _]

theorem canonicalItems_canonicalItems : (vs : List Json) →
    canonicalItems (canonicalItems vs) = canonicalItems vs
  | [] => by simp [canonicalItems]
  | v :: vs => by simp [canonicalItems, canonical_canonical v, canonicalItems_canonicalItems vs]

theorem canonicalMembers_canonicalMembers : (ms : List (String × Json)) →
    canonicalMembers (canonicalMembers ms) = canonicalMembers ms
  | [] => by simp [canonicalMembers]
  | (k, v) :: ms => by
    simp [canonicalMembers, canonical_canonical v, canonicalMembers_canonicalMembers ms]

end

/-- The value of the last member with a key. -/
def lookup? (k : String) (ms : List (String × Json)) : Option Json :=
  (ms.reverse.find? (·.1 = k)).map (·.2)

/-- The value of an object's last member with a key. -/
def get? (k : String) : Json → Option Json
  | .object ms => lookup? k ms
  | _ => none

/-- A decimal in positional notation while its point falls within the first
sixteen places or at most four zeros follow it, otherwise in scientific notation
with the sign of the exponent. -/
def scaledText (d : Decimal.Scaled) : String :=
  let ds := Nat.toDigits 10 d.digits
  let point : Int := ds.length + d.exponent
  if 0 ≤ d.exponent ∧ point ≤ 16 then
    String.ofList (ds ++ List.replicate d.exponent.toNat '0' ++ ['.', '0'])
  else if 0 < point ∧ point ≤ 16 then
    String.ofList (ds.take point.toNat ++ '.' :: ds.drop point.toNat)
  else if -5 < point ∧ point ≤ 0 then
    String.ofList ('0' :: '.' :: List.replicate (-point).toNat '0' ++ ds)
  else
    let mantissa := match ds with
      | [d] => [d]
      | d :: rest => d :: '.' :: rest
      | [] => []
    let sign := if 0 < point then "e+" else "e-"
    String.ofList mantissa ++ sign ++ toString (point - 1).natAbs

/-- The text of a finite 64-bit floating-point number. -/
def realText (bits : UInt64) : String :=
  let negative := bits.toNat / Nat.pow 2 63 = 1
  let body := if bits.toNat % Nat.pow 2 63 = 0 then "0.0" else scaledText (Decimal.ofBits bits)
  if negative then "-" ++ body else body

def escapeChar (c : Char) : List Char :=
  if c = '"' then ['\\', '"']
  else if c = '\\' then ['\\', '\\']
  else if c = '\x08' then ['\\', 'b']
  else if c = '\t' then ['\\', 't']
  else if c = '\n' then ['\\', 'n']
  else if c = '\x0c' then ['\\', 'f']
  else if c = '\r' then ['\\', 'r']
  else if c.toNat < 0x20 then
    ['\\', 'u', '0', '0', Text.hexDigit 'a' (c.toNat / 16),
      Text.hexDigit 'a' (c.toNat % 16)]
  else [c]

def stringText (s : String) : String :=
  String.ofList ('"' :: s.toList.flatMap escapeChar ++ ['"'])

mutual

def text : Json → String
  | .null => "null"
  | .bool b => if b then "true" else "false"
  | .integer n => toString n
  | .real bits => realText bits
  | .string s => stringText s
  | .array items => "[" ++ itemsText items ++ "]"
  | .object members => "\x7b" ++ membersText members ++ "\x7d"

def itemsText : List Json → String
  | [] => ""
  | [v] => text v
  | v :: w :: vs => text v ++ "," ++ itemsText (w :: vs)

def membersText : List (String × Json) → String
  | [] => ""
  | [(k, v)] => stringText k ++ ":" ++ text v
  | (k, v) :: m :: ms => stringText k ++ ":" ++ text v ++ "," ++ membersText (m :: ms)

end

end Json

end TenantEndpoints
