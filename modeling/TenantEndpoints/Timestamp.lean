import TenantEndpoints.Json.Record
import TenantEndpoints.Text.Reads

/-!
# Timestamps

An instant to the second as a date of the Gregorian calendar and a time of day,
both in UTC. It is read with any offset, and parts of a second are dropped; it
is written with a `Z`. A sixtieth second is kept as it is.
-/
namespace TenantEndpoints

open Text (Reads)

/-- A calendar date and a time of day in UTC. -/
structure Timestamp where
  year : Int
  month : Nat
  day : Nat
  hour : Nat
  minute : Nat
  second : Nat
  deriving DecidableEq, Repr

namespace Timestamp

def isLeapYear (year : Int) : Bool :=
  year % 4 = 0 && (year % 100 ≠ 0 || year % 400 = 0)

def daysInMonth (year : Int) (month : Nat) : Nat :=
  if month = 2 then (if isLeapYear year then 29 else 28)
  else if month = 4 ∨ month = 6 ∨ month = 9 ∨ month = 11 then 30
  else 31

/-- Whether there is such a date and such a time of day. -/
def Exists (t : Timestamp) : Prop :=
  1 ≤ t.month ∧ t.month ≤ 12 ∧ 1 ≤ t.day ∧ t.day ≤ daysInMonth t.year t.month ∧
    t.hour ≤ 23 ∧ t.minute ≤ 59 ∧ t.second ≤ 60

instance (t : Timestamp) : Decidable t.Exists := by unfold Exists; infer_instance

/-- The years that can be told apart. -/
def hasYear (t : Timestamp) : Bool := -262143 ≤ t.year && t.year ≤ 262142

def nextDay (t : Timestamp) : Timestamp :=
  if t.day < daysInMonth t.year t.month then { t with day := t.day + 1 }
  else if t.month < 12 then { t with month := t.month + 1, day := 1 }
  else { t with year := t.year + 1, month := 1, day := 1 }

def previousDay (t : Timestamp) : Timestamp :=
  if 1 < t.day then { t with day := t.day - 1 }
  else if 1 < t.month then
    { t with month := t.month - 1, day := daysInMonth t.year (t.month - 1) }
  else { t with year := t.year - 1, month := 12, day := 31 }

/-- The instant of a local time that is `offset` minutes ahead of UTC, by less than a day. -/
def ofLocal (t : Timestamp) (offset : Int) : Timestamp :=
  let minutes : Int := t.hour * 60 + t.minute - offset
  let ofDay (n : Int) (day : Timestamp) : Timestamp :=
    { day with hour := n.toNat / 60, minute := n.toNat % 60 }
  if minutes < 0 then ofDay (minutes + 1440) t.previousDay
  else if 1440 ≤ minutes then ofDay (minutes - 1440) t.nextDay
  else ofDay minutes t

/-- Reads a year, which has at most four digits unless it has a sign. -/
def readYear : Reads Int := do
  Reads.blanks
  (do Reads.expect '-'; return Int.negOfNat (← Reads.digits)) <|>
    (do Reads.expect '+'; return (← Reads.digits)) <|>
    (return (← Reads.number 4))

/-- Reads one of the smaller parts of a date or a time, of one or two digits. -/
def readPart : Reads Nat := do
  Reads.blanks
  Reads.number 2

def readMark (c : Char) : Reads Unit := do
  Reads.blanks
  Reads.expect c

/-- Reads a fraction of a second if there is one. -/
def skipFraction : Reads Unit := do
  if (← get).head? = some '.' then
    Reads.expect '.'
    let _ ← Reads.digits

/-- Reads a date and a time of day. Blanks may stand before every part and every
mark of them, but not before the mark between the date and the time. -/
def readLocal : Reads Timestamp := do
  let year ← readYear
  readMark '-'
  let month ← readPart
  readMark '-'
  let day ← readPart
  let _ ← Reads.one (· ∈ ['T', 't', ' '])
  let hour ← readPart
  readMark ':'
  let minute ← readPart
  readMark ':'
  let second ← readPart
  skipFraction
  return { year, month, day, hour, minute, second }

def readTwoDigits : Reads Nat := do
  let tens ← Reads.number 1
  let ones ← Reads.number 1
  return tens * 10 + ones

/-- Reads hours and minutes ahead of UTC or behind it, as minutes that make less
than a day. Colons and blanks may stand between the two. -/
def readShift : Reads Int := do
  let sign ← Reads.one (· ∈ ['+', '-', '\u2212'])
  let hours ← readTwoDigits
  Reads.skipWhile fun c => c = ':' || Text.isBlank c
  let minutes ← readTwoDigits
  if 23 < hours ∨ 59 < minutes then failure
  let shift := hours * 60 + minutes
  return if sign = '+' then shift else Int.negOfNat shift

/-- Reads the minutes by which the local time is ahead of UTC. -/
def readOffset : Reads Int := do
  Reads.blanks
  let s ← get
  if (s.take 3).map Char.toLower = ['u', 't', 'c'] then
    set (s.drop 3)
    return 0
  else if s.head? = some 'Z' ∨ s.head? = some 'z' then
    set (s.drop 1)
    return 0
  else readShift

/-- Reads a date, a time of day and an offset, such as `2024-02-29T12:30:00+01:00`. -/
def read? (s : String) : Option Timestamp := do
  let whole : Reads (Timestamp × Int) := do
    let t ← readLocal
    let offset ← readOffset
    Reads.blanks
    return (t, offset)
  let (t, offset) ← whole.all? s.toList
  let instant := t.ofLocal offset
  if t.Exists ∧ t.hasYear ∧ instant.hasYear then some instant else none

/-- A number with zeros before it up to a width. -/
def padded (width n : Nat) : List Char :=
  let ds := Nat.toDigits 10 n
  List.replicate (width - ds.length) '0' ++ ds

/-- A year beyond four digits has a sign. -/
def yearText (year : Int) : List Char :=
  if year < 0 then '-' :: padded 4 year.natAbs
  else if 9999 < year then '+' :: padded 4 year.natAbs
  else padded 4 year.natAbs

def text (t : Timestamp) : String :=
  String.ofList (yearText t.year ++ '-' :: padded 2 t.month ++ '-' :: padded 2 t.day ++
    'T' :: padded 2 t.hour ++ ':' :: padded 2 t.minute ++ ':' :: padded 2 t.second ++ ['Z'])

def ofDraft? (d : Json.Draft) : Option Timestamp := d.string?.bind read?

def toJson (t : Timestamp) : Json := .string t.text

/-- Reads a timestamp as what is written of it. -/
def kept (d : Json.Draft) : Option Json := (ofDraft? d).map toJson

end Timestamp

end TenantEndpoints
