/-!
# Reading from the front

A reader takes a value from the front of a text and leaves the rest, or fails.
Readers are put together one after the other, and one that fails leaves its text to
the next alternative. They pass over the blanks that part words and lines, and read
numbers in decimal digits. Hexadecimal digits are known by their code points, so
that they can be found among characters and among bytes.
-/
namespace TenantEndpoints.Text

/-- The ranges of code points of blanks. -/
def blankRanges : List (Nat × Nat) := [
  (0x9, 0xd), (0x20, 0x20), (0x85, 0x85), (0xa0, 0xa0), (0x1680, 0x1680), (0x2000, 0x200a),
  (0x2028, 0x2029), (0x202f, 0x202f), (0x205f, 0x205f), (0x3000, 0x3000)]

def isBlank (c : Char) : Bool :=
  blankRanges.any fun r => r.1 ≤ c.toNat && c.toNat ≤ r.2

theorem isBlank_of_ascii {c : Char} (h : c.toNat < 0x80) :
    isBlank c = decide (c.toNat = 0x20 ∨ 0x9 ≤ c.toNat ∧ c.toNat ≤ 0xd) := by
  rw [Bool.eq_iff_iff]
  simp only [isBlank, blankRanges, List.any_cons, List.any_nil, Bool.or_eq_true, Bool.and_eq_true,
    decide_eq_true_eq, Bool.or_false]
  omega

/-- Drops the blanks at both ends. -/
def trimBlanks (s : List Char) : List Char :=
  ((s.dropWhile isBlank).reverse.dropWhile isBlank).reverse

/-- The largest value of an unsigned word of `bits` bits. -/
def maxUnsigned (bits : Nat) : Nat := Nat.pow 2 bits - 1

def isDigit (c : Char) : Bool := '0' ≤ c && c ≤ '9'

def digitsValue (ds : List Char) : Nat :=
  ds.foldl (fun n c => n * 10 + (c.toNat - '0'.toNat)) 0

/-- Reads digits as a number, if there are any and there is nothing else. -/
def readDigits? (ds : List Char) : Option Nat :=
  if ds ≠ [] ∧ ds.all isDigit then some (digitsValue ds) else none

/-- Reads a number of at most `bits` bits, with an optional `+` before it. -/
def readUnsigned? (bits : Nat) (s : String) : Option Nat :=
  let ds := match s.toList with
    | '+' :: ds => ds
    | ds => ds
  (readDigits? ds).filter (· ≤ maxUnsigned bits)

/-- The digit of a number below sixteen, with the letters from `ten` on. -/
def hexDigit (ten : Char) (n : Nat) : Char :=
  if n < 10 then Char.ofNat ('0'.toNat + n) else Char.ofNat (ten.toNat + (n - 10))

/-- The value of the digit with this code point. -/
def hexValue? (code : Nat) : Option Nat :=
  if 0x30 ≤ code ∧ code ≤ 0x39 then some (code - 0x30)
  else if 0x41 ≤ code ∧ code ≤ 0x46 then some (code - 0x41 + 10)
  else if 0x61 ≤ code ∧ code ≤ 0x66 then some (code - 0x61 + 10)
  else none

/-- What reads a value from the front of a text and leaves the rest. -/
abbrev Reads (α : Type) := StateT (List Char) Option α

namespace Reads

/-- Reads one character for which `p` holds. -/
def one (p : Char → Bool) : Reads Char
  | c :: s => if p c then some (c, s) else none
  | [] => none

def expect (c : Char) : Reads Unit := do let _ ← one (· = c)

/-- Passes over every character for which `p` holds up to the first for which it does not. -/
def skipWhile (p : Char → Bool) : Reads Unit := modify (·.dropWhile p)

def blanks : Reads Unit := skipWhile isBlank

/-- Reads decimal digits as a number: at least one, and as many as there are up to `most`. -/
def number (most : Nat) : Reads Nat := fun s =>
  let ds := (s.take most).takeWhile isDigit
  if ds = [] then none else some (digitsValue ds, s.drop ds.length)

/-- Reads as many decimal digits as there are, at least one, as a number. -/
def digits : Reads Nat := fun s => number s.length s

/-- Reads a whole text. -/
def all? (r : Reads α) (s : List Char) : Option α :=
  match r s with
  | some (a, []) => some a
  | _ => none

end Reads

end TenantEndpoints.Text
