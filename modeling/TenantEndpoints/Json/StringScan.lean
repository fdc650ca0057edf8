import TenantEndpoints.Json.Fault
import TenantEndpoints.Text.Reads

/-!
# Reading strings

A string is read by a machine with one state between characters and a few
within an escape. A strict reading wants surrogates paired and the bytes to be
UTF-8; a lax one, for strings nobody looks at, only finds the closing quote.
-/
namespace TenantEndpoints.Json

/-- The byte of an ASCII character. -/
def byte (c : Char) : UInt8 := UInt8.ofNat c.toNat

def isBlank (b : UInt8) : Bool := b = 0x20 || b = 0x0a || b = 0x09 || b = 0x0d

def isDigit (b : UInt8) : Bool := 0x30 ≤ b.toNat && b.toNat ≤ 0x39

/-- The number that hexadecimal digits stand for. -/
def hexNumber? (ds : Bytes) : Option Nat :=
  ds.foldl (fun n? b => do some ((← n?) * 16 + (← Text.hexValue? b.toNat))) (some 0)

/-- Where the reading of a string stands. A leading surrogate waits as `lead`
for the escape that has to follow it. -/
inductive StringState
  | plain
  | escape
  | hex (lead : Option Nat) (digits : Bytes)
  | pairSlash (lead : Nat)
  | pairLetter (lead : Nat)
  deriving DecidableEq, Repr

/-- The byte that a one-letter escape stands for. -/
def shortEscape? (b : UInt8) : Option UInt8 :=
  if b = byte '"' ∨ b = byte '\\' ∨ b = byte '/' then some b
  else if b = byte 'b' then some 0x08
  else if b = byte 'f' then some 0x0c
  else if b = byte 'n' then some 0x0a
  else if b = byte 'r' then some 0x0d
  else if b = byte 't' then some 0x09
  else none

def isLead (n : Nat) : Bool := 0xd800 ≤ n && n ≤ 0xdbff

def isTrail (n : Nat) : Bool := 0xdc00 ≤ n && n ≤ 0xdfff

def codePointBytes (n : Nat) : Bytes := String.utf8EncodeChar (Char.ofNat n)

/-- What the four digits of an escape lead to, and the bytes they give. -/
def StringState.afterHex (strict : Bool) (lead : Option Nat) (n : Nat) :
    Except Fault (StringState × Bytes) :=
  if !strict then .ok (.plain, [])
  else match lead with
    | none =>
      if isTrail n then .error .loneSurrogate
      else if isLead n then .ok (.pairSlash n, [])
      else .ok (.plain, codePointBytes n)
    | some l =>
      if isTrail n then .ok (.plain, codePointBytes ((l - 0xd800) * 1024 + (n - 0xdc00) + 0x10000))
      else .error .loneSurrogate

/-- The effect of one byte other than the closing quote, and the bytes it gives. -/
def StringState.step (strict : Bool) (b : UInt8) : StringState →
    Except Fault (StringState × Bytes)
  | .plain =>
    if b = byte '\\' then .ok (.escape, [])
    else if b.toNat < 0x20 then .error .controlCharacter
    else .ok (.plain, [b])
  | .escape =>
    if b = byte 'u' then .ok (.hex none [], [])
    else match shortEscape? b with
      | some c => .ok (.plain, [c])
      | none => .error .invalidEscape
  | .hex lead digits =>
    if digits.length < 3 then .ok (.hex lead (digits ++ [b]), [])
    else match hexNumber? (digits ++ [b]) with
      | some n => afterHex strict lead n
      | none => .error .invalidEscape
  | .pairSlash lead => if b = byte '\\' then .ok (.pairLetter lead, []) else .error .endOfHexEscape
  | .pairLetter lead => if b = byte 'u' then .ok (.hex (some lead) [], []) else .error .endOfHexEscape

/-- Reads up to the closing quote; `seen` are the bytes given so far, last first. -/
def stringFrom (strict : Bool) (state : StringState) (seen : Bytes) :
    (s : Bytes) → Scan (Bytes) s
  | [] => failAtEnd .endInString
  | b :: s =>
    if state = .plain ∧ b = byte '"' then .ok ⟨seen.reverse, s, by simp⟩
    else match state.step strict b with
      | .error f => failAt f s
      | .ok (state', bytes) => do return (← stringFrom strict state' (bytes.reverse ++ seen) s).after

/-- Reads a string after its opening quote. Whether it is a text is only known at its
end; the place of a byte that is wrong is found by counting back from there. -/
def scanString (s : Bytes) : Scan String s := do
  let t ← stringFrom true .plain [] s
  match Text.Utf8.decode t.value with
  | .ok text => return t.map fun _ => text
  | .error fault => .error ⟨.invalidCodePoint, t.rest.length + (t.value.length - fault.index)⟩

/-- Passes over a string after its opening quote. -/
def skipString (s : Bytes) : Scan Unit s := do
  return (← stringFrom false .plain [] s).map fun _ => ()

/-- Passes over the rest of a word such as `null`. -/
def scanIdent : Bytes → (s : Bytes) → Scan Unit s
  | [], s => .ok (.here () s)
  | _ :: _, [] => failAtEnd .endInValue
  | e :: es, b :: s => if b = e then do return (← scanIdent es s).after else failAt .expectedIdent s

end TenantEndpoints.Json
