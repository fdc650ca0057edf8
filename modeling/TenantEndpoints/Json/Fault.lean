import TenantEndpoints.Text.Utf8

/-!
# What is wrong with a JSON text

A text is read byte by byte and given up at the first byte that cannot stand
where it does. A mishap says what is wrong and how many bytes had not been
looked at yet; the position in the message follows from that.
-/
namespace TenantEndpoints.Json

inductive Fault
  | endInList
  | endInObject
  | endInString
  | endInValue
  | expectedColon
  | expectedListEnd
  | expectedObjectEnd
  | expectedIdent
  | expectedValue
  | invalidEscape
  | invalidNumber
  | numberOutOfRange
  | invalidCodePoint
  | controlCharacter
  | keyNotString
  | loneSurrogate
  | trailingComma
  | trailingCharacters
  | endOfHexEscape
  /-- A value that is well-formed but not of the wanted shape. -/
  | shape (message : String)
  deriving DecidableEq, Repr

def Fault.message : Fault → String
  | .endInList => "EOF while parsing a list"
  | .endInObject => "EOF while parsing an object"
  | .endInString => "EOF while parsing a string"
  | .endInValue => "EOF while parsing a value"
  | .expectedColon => "expected \x60:\x60"
  | .expectedListEnd => "expected \x60,\x60 or \x60]\x60"
  | .expectedObjectEnd => "expected \x60,\x60 or \x60\x7d\x60"
  | .expectedIdent => "expected ident"
  | .expectedValue => "expected value"
  | .invalidEscape => "invalid escape"
  | .invalidNumber => "invalid number"
  | .numberOutOfRange => "number out of range"
  | .invalidCodePoint => "invalid unicode code point"
  | .controlCharacter => "control character (\\u0000-\\u001F) found while parsing a string"
  | .keyNotString => "key must be a string"
  | .loneSurrogate => "lone leading surrogate in hex escape"
  | .trailingComma => "trailing comma"
  | .trailingCharacters => "trailing characters"
  | .endOfHexEscape => "unexpected end of hex escape"
  | .shape message => message

/-- A fault met when `unseen` bytes of the text had not been looked at. -/
structure Mishap where
  fault : Fault
  unseen : Nat
  deriving DecidableEq, Repr

/-- The line of the last byte of a text, counted from one, and its column in
that line; a line break is column zero of the line that it opens. -/
def lastPlace (seen : Bytes) : Nat × Nat :=
  seen.foldl (fun p b => if b = 0x0a then (p.1 + 1, 0) else (p.1, p.2 + 1)) (1, 0)

/-- The message of a mishap in a text, with its place. -/
def Mishap.describe (m : Mishap) (text : Bytes) : String :=
  let place := lastPlace (text.take (text.length - m.unseen))
  s!"{m.fault.message} at line {place.1} column {place.2}"

/-- A value read from the front of `s`, and what follows it. -/
structure Taken (α : Type) (s : Bytes) where
  value : α
  rest : Bytes
  rest_le : rest.length ≤ s.length

namespace Taken

/-- A value for which nothing is read. -/
def here (a : α) (s : Bytes) : Taken α s := ⟨a, s, Nat.le_refl _⟩

def map (f : α → β) (t : Taken α s) : Taken β s := ⟨f t.value, t.rest, t.rest_le⟩

/-- The same reading seen from a text that begins earlier. -/
def widen (t : Taken α s) {s' : Bytes} (h : s.length ≤ s'.length) : Taken α s' :=
  ⟨t.value, t.rest, Nat.le_trans t.rest_le h⟩

/-- The same reading seen from one byte earlier. -/
def after (t : Taken α s) : Taken α (b :: s) := t.widen (by simp)

end Taken

/-- A reading from the front of `s`. -/
abbrev Scan (α : Type) (s : Bytes) := Except Mishap (Taken α s)

/-- Fails at a byte that is followed by `s`. -/
def failAt (f : Fault) (s : Bytes) : Except Mishap α := .error ⟨f, s.length⟩

/-- Fails at the end of the text. -/
def failAtEnd (f : Fault) : Except Mishap α := .error ⟨f, 0⟩

end TenantEndpoints.Json
