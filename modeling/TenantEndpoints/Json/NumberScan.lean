import TenantEndpoints.Json.Basic
import TenantEndpoints.Json.StringScan

/-!
# Reading numbers

A number without fraction and exponent that fits a signed or an unsigned 64-bit
word is an integer. Any other is a floating-point number: its significand is as
many digits as fit an unsigned 64-bit word, scaled by a power of ten; one that
comes out infinite is refused. `-0` is a floating-point number.
-/
namespace TenantEndpoints.Json

/-- Reads as many digits as there are. -/
def scanDigits : (s : Bytes) → Taken (List Nat) s
  | [] => .here [] []
  | b :: s =>
    if isDigit b then ((scanDigits s).map fun ds => (b.toNat - 0x30) :: ds).after
    else .here [] (b :: s)

/-- A significand below `2 ^ 64` with its power of ten. -/
structure Significand where
  value : Nat
  exponent : Int
  deriving DecidableEq, Repr

/-- Adds digits while they fit; each digit of the whole part that does not
counts as a power of ten. -/
def Significand.ofWhole (ds : List Nat) : Significand :=
  let fill : Significand × Bool → Nat → Significand × Bool := fun (m, full) d =>
    if full || Nat.pow 2 64 ≤ m.value * 10 + d then (⟨m.value, m.exponent + 1⟩, true)
    else (⟨m.value * 10 + d, m.exponent⟩, false)
  (ds.foldl fill (⟨0, 0⟩, false)).1

/-- Adds digits of a fraction while they fit and drops the others. -/
def Significand.addFraction (m : Significand) (ds : List Nat) : Significand :=
  let fill : Significand × Bool → Nat → Significand × Bool := fun (m, full) d =>
    if full || Nat.pow 2 64 ≤ m.value * 10 + d then (m, true)
    else (⟨m.value * 10 + d, m.exponent - 1⟩, false)
  (ds.foldl fill (m, false)).1

/-- The floating-point number nearest to a power of ten up to `10 ^ 308`. -/
def powerOfTen (k : Nat) : Float := Float.ofScientific 1 false k

def scaleDown (f : Float) (k : Nat) : Float :=
  if k ≤ 308 then f / powerOfTen k
  else if f == 0 then f
  else scaleDown (f / powerOfTen 308) (k - 308)
termination_by k
decreasing_by omega

def scaleUp? (f : Float) (k : Nat) : Option Float :=
  if k ≤ 308 then
    let g := f * powerOfTen k
    if g.isInf then none else some g
  else if f == 0 then some f else none

/-- The floating-point value of a significand, unless it is infinite. -/
def Significand.toReal? (m : Significand) (negative : Bool) : Option Json :=
  let f := Float.ofNat m.value
  let scaled? := if 0 ≤ m.exponent then scaleUp? f m.exponent.toNat
    else some (scaleDown f (-m.exponent).toNat)
  scaled?.map fun g => .real (if negative then -g else g).toBits

def digitsValue (ds : List Nat) : Nat := ds.foldl (fun n d => n * 10 + d) 0

/-- The value of a number that has digits only. -/
def wholeNumber (negative : Bool) (ds : List Nat) : Option Json :=
  let n := digitsValue ds
  if !negative && n < Nat.pow 2 64 then some (.integer n)
  else if negative && 0 < n && n ≤ Nat.pow 2 63 then some (.integer (Int.negOfNat n))
  else (Significand.ofWhole ds).toReal? negative

/-- How many digits of an exponent are read when it grows beyond a signed
32-bit word, if it does. -/
def exponentOverflow? (ds : List Nat) : Option Nat :=
  (List.range (ds.length + 1)).find? fun k =>
    Nat.pow 2 31 ≤ digitsValue (ds.take k)

/-- Fails with the byte after a number already looked at. -/
def failPast (f : Fault) (rest : Bytes) : Except Mishap α := failAt f (rest.drop 1)

/-- Reads a sign, if there is one; the value is whether it is a minus. -/
def scanSign : (s : Bytes) → Taken Bool s
  | [] => .here false []
  | b :: s =>
    if b = byte '-' then (Taken.here true s).after
    else if b = byte '+' then (Taken.here false s).after
    else .here false (b :: s)

/-- Reads an exponent after its letter. -/
def scanExponent (negative : Bool) (m : Significand) (s : Bytes) : Scan Json s :=
  let sign := scanSign s
  match sign.rest.head? with
  | none => failAtEnd .endInValue
  | some b =>
    if !isDigit b then failPast .invalidNumber sign.rest
    else
      let t := (scanDigits sign.rest).widen sign.rest_le
      let out (v? : Option Json) : Scan Json s := match v? with
        | some v => .ok (t.map fun _ => v)
        | none => failPast .numberOutOfRange t.rest
      match exponentOverflow? t.value with
      | some k =>
        if m.value ≠ 0 ∧ !sign.value then failAt .numberOutOfRange (sign.rest.drop k)
        else out ((Significand.mk 0 0).toReal? negative)
      | none =>
        let e : Nat := digitsValue t.value
        let exponent := if sign.value then m.exponent - e else m.exponent + e
        out ({ m with exponent }.toReal? negative)

/-- Reads the digits of a whole number that begins with the digit `b`; a zero stands alone. -/
def scanWhole (b : UInt8) (s : Bytes) : Taken (List Nat) s :=
  if b = byte '0' then .here [0] s
  else (scanDigits s).map fun ds => (b.toNat - 0x30) :: ds

/-- Reads a number that begins with the byte `b`. -/
def scanNumber (negative : Bool) (b : UInt8) (s : Bytes) : Scan Json s :=
  if !isDigit b then failAt .invalidNumber s
  else
    let whole := scanWhole b s
    let out (v? : Option Json) (t : Taken Unit s) : Scan Json s := match v? with
      | some v => .ok (t.map fun _ => v)
      | none => failPast .numberOutOfRange t.rest
    match hr : whole.rest with
    | [] => out (wholeNumber negative whole.value) (whole.map fun _ => ())
    | c :: r =>
      have hle : r.length ≤ s.length := by
        have := whole.rest_le; rw [hr] at this; simp at this; omega
      if isDigit c then failAt .invalidNumber r
      else if c = byte '.' then
        let fraction := (scanDigits r).widen hle
        let m := (Significand.ofWhole whole.value).addFraction fraction.value
        match hf : fraction.rest with
        | [] =>
          if fraction.value = [] then failAtEnd .endInValue
          else out (m.toReal? negative) (fraction.map fun _ => ())
        | e :: r' =>
          if fraction.value = [] then failAt .invalidNumber r'
          else if e = byte 'e' ∨ e = byte 'E' then do
            let t ← scanExponent negative m r'
            return t.widen (by have := fraction.rest_le; rw [hf] at this; simp at this; omega)
          else out (m.toReal? negative) (fraction.map fun _ => ())
      else if c = byte 'e' ∨ c = byte 'E' then do
        return (← scanExponent negative (Significand.ofWhole whole.value) r).widen hle
      else out (wholeNumber negative whole.value) (whole.map fun _ => ())

/-- Reads a number after its minus sign. -/
def scanNegative : (s : Bytes) → Scan Json s
  | [] => failAtEnd .endInValue
  | b :: s => do return (← scanNumber true b s).after

/-- Passes over an exponent after its letter. -/
def skipExponent (s : Bytes) : Scan Unit s :=
  let sign := scanSign s
  match sign.rest.head? with
  | none => failAtEnd .invalidNumber
  | some b =>
    if isDigit b then .ok (((scanDigits sign.rest).map fun _ => ()).widen sign.rest_le)
    else failPast .invalidNumber sign.rest

/-- Passes over a number of any size that begins with the byte `b`. -/
def skipNumber (b : UInt8) (s : Bytes) : Scan Unit s :=
  if !isDigit b then failAt .invalidNumber s
  else
    let whole := scanWhole b s
    match hr : whole.rest with
    | [] => .ok (whole.map fun _ => ())
    | c :: r =>
      have hle : r.length ≤ s.length := by
        have := whole.rest_le; rw [hr] at this; simp at this; omega
      if isDigit c then failAt .invalidNumber r
      else if c = byte '.' then
        let fraction := (scanDigits r).widen hle
        match hf : fraction.rest with
        | [] =>
          if fraction.value = [] then failAtEnd .invalidNumber
          else .ok (fraction.map fun _ => ())
        | e :: r' =>
          if fraction.value = [] then failAt .invalidNumber r'
          else if e = byte 'e' ∨ e = byte 'E' then do
            let t ← skipExponent r'
            return t.widen (by have := fraction.rest_le; rw [hf] at this; simp at this; omega)
          else .ok (fraction.map fun _ => ())
      else if c = byte 'e' ∨ c = byte 'E' then do return (← skipExponent r).widen hle
      else .ok (whole.map fun _ => ())

/-- Passes over a number after its minus sign. -/
def skipNegative : (s : Bytes) → Scan Unit s
  | [] => failAtEnd .invalidNumber
  | b :: s => do return (← skipNumber b s).after

end TenantEndpoints.Json
