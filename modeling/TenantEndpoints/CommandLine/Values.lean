import TenantEndpoints.Text.Alphanumeric
import TenantEndpoints.Text.Reads
import TenantEndpoints.Text.Split

/-!
# Values of settings

A duration is a sequence of decimal numbers with their units, such as `1h30m`, that
are added up; at its end a zero may go without a unit. Signs may stand before all of
it, and a `-` makes the whole span negative.

A log filter is a list of directives with commas between them. A directive is a
level, or a target with perhaps a span in brackets, a condition on the fields of the
span in braces, and a level after `=`, as in `kotal=info` or
`kotal[call{tries=3}]=debug`. Any text is a condition but the empty one.

A socket address is an IPv4 or IPv6 address with a port. An IPv6 address stands in
brackets, may leave out one run of zero groups, may end in an IPv4 address, and may
have a scope. It is written with the longest run of zero groups left out.
-/
namespace TenantEndpoints.CommandLine

/-- The units of time, in nanoseconds. A micro sign is as good as a mu. -/
def timeUnits : List (String × Nat) :=
  [("ns", 1), ("us", 1000), ("\u00b5s", 1000), ("\u03bcs", 1000), ("ms", 1000000),
   ("s", 1000000000), ("m", 60000000000), ("h", 3600000000000)]

/-- Whether a character can be part of the name of a unit. -/
def isUnitLetter (c : Char) : Bool := c.isAlpha || c = '\u00b5' || c = '\u03bc'

/-- Reads a decimal number as an integer over a power of ten. A sign may stand before
it, but only zero is allowed to be negative. -/
def readDecimal? (s : List Char) : Option (Nat × Nat) := do
  let (negative, s) := match s with
    | '-' :: s => (true, s)
    | '+' :: s => (false, s)
    | s => (false, s)
  let (whole, fraction?) := Text.cutAtFirst '.' s
  let fraction := fraction?.getD []
  let n ← Text.readDigits? (whole ++ fraction)
  if negative ∧ n ≠ 0 then none else some (n, Nat.pow 10 fraction.length)

/-- Reads a number with its unit as nanoseconds. -/
def readTimePart? (s : List Char) : Option Nat :=
  if s = ['0'] then some 0
  else do
    let unit ← timeUnits.lookup (String.ofList (s.dropWhile (!isUnitLetter ·)))
    let (n, scale) ← readDecimal? (s.takeWhile (!isUnitLetter ·))
    some (n * unit / scale)

/-- The numbers of a text with their units: a part ends where a letter is followed by
something else. -/
def timeParts (s : List Char) : List (List Char) :=
  s.splitBy fun a b => !isUnitLetter a || isUnitLetter b

/-- Reads a duration in nanoseconds, of which the whole seconds fit 64 bits. -/
def readDuration? (text : String) : Option Int := do
  let s := text.toList
  let parts := timeParts ((s.dropWhile (· = '+')).dropWhile (· = '-'))
  let total := (← parts.mapM readTimePart?).foldl (· + ·) 0
  if total < Nat.pow 2 64 * 1000000000 then
    some (if s.head? = some '-' then Int.negOfNat total else total)
  else none

end TenantEndpoints.CommandLine

namespace TenantEndpoints.CommandLine.LogFilter

def levelNames : List String := ["off", "error", "warn", "info", "debug", "trace"]

/-- Whether a text is a level, by its name or its number, or is left out. -/
def isLevel (s : List Char) : Bool :=
  s = [] || String.ofList (s.map Char.toLower) ∈ levelNames ||
    (Text.readUnsigned? 64 (String.ofList s)).any (· < levelNames.length)

/-- Where the reading of a directive stands. The place of a level is the number of
characters before it. -/
inductive State
  | start
  | target
  | span
  | condition (empty : Bool)
  | conditions
  | spanned
  | level (place : Nat)
  deriving DecidableEq, Repr

/-- The effect of a character of a directive after `i` others. -/
def State.next (c : Char) (i : Nat) : State → Option State
  | .start =>
    if c = '[' then some .span
    else if c ∈ ['-', ':', '_'] || Text.isAlphanumeric c then some .target
    else none
  | .target =>
    some (if c = '=' then .level (i + 1) else if c = '[' then .span else .target)
  | .span => some (if c = ']' then .spanned else if c = '\x7b' then .condition true else .span)
  | .condition empty =>
    if c ≠ '\x7d' then some (.condition false) else if empty then none else some .conditions
  | .conditions => if c = ']' then some .spanned else none
  | .spanned => if c = '=' then some (.level (i + 1)) else none
  | .level place => some (.level place)

/-- Whether a text is a directive. Blanks around it do not count for the place of its
level, which is cut all the same from the text with the blanks. -/
def isDirective (s : List Char) : Bool :=
  match (Text.trimBlanks s).zipIdx.foldlM (fun st c => st.next c.1 c.2) State.start with
  | some .target | some .spanned => true
  | some (.level place) => isLevel (s.drop place)
  | _ => false

/-- Whether a text is a log filter, in which empty directives are passed over. -/
def accepts (s : String) : Bool :=
  ((Text.pieces ',' s.toList).filter (· ≠ [])).all isDirective

end TenantEndpoints.CommandLine.LogFilter

namespace TenantEndpoints.CommandLine

inductive SocketAddress
  | v4 (octets : List UInt8) (port : UInt16)
  | v6 (groups : List UInt16) (scope : UInt32) (port : UInt16)
  deriving DecidableEq, Repr

namespace SocketAddress

open Text (Reads)

/-- Reads a decimal number up to a bound. -/
def readDecimal (bound : Nat) : Reads Nat := do
  let n ← Reads.digits
  if n ≤ bound then return n else failure

/-- Reads one part of an IPv4 address: at most three digits without leading zeros. -/
def readOctet : Reads Nat := do
  let ds := (← get).takeWhile Text.isDigit
  if 3 < ds.length ∨ (ds.head? = some '0' ∧ 1 < ds.length) then failure
  readDecimal 255

/-- Reads one group of an IPv6 address: at most four hexadecimal digits. -/
def readGroup : Reads Nat := do
  let isHex (c : Char) := (Text.hexValue? c.toNat).isSome
  let ds := (← get).takeWhile isHex
  if ds = [] ∨ 4 < ds.length then failure
  Reads.skipWhile isHex
  return ds.foldl (fun n c => n * 16 + (Text.hexValue? c.toNat).getD 0) 0

def readV4 : Reads (List Nat) := do
  let a ← readOctet
  Reads.expect '.'
  let b ← readOctet
  Reads.expect '.'
  let c ← readOctet
  Reads.expect '.'
  let d ← readOctet
  return [a, b, c, d]

/-- The two groups that an IPv4 address stands for. -/
def groupsOfV4 : List Nat → List Nat
  | [a, b, c, d] => [a * 256 + b, c * 256 + d]
  | _ => []

/-- Groups with colons between them, whether an IPv4 address ended them, and the rest. -/
structure Groups where
  groups : List Nat
  endsInV4 : Bool
  rest : List Char

/-- Reads at most `limit` groups; an IPv4 address may stand for the last two. -/
def readGroups : (limit : Nat) → (first : Bool) → List Char → Groups
  | 0, _, s => ⟨[], false, s⟩
  | limit + 1, first, s =>
    match (if first then some ((), s) else Reads.expect ':' s) with
    | none => ⟨[], false, s⟩
    | some (_, r) =>
      match (if 0 < limit then readV4 r else none) with
      | some (octets, rest) => ⟨groupsOfV4 octets, true, rest⟩
      | none => match readGroup r with
        | none => ⟨[], false, s⟩
        | some (g, rest) =>
          let more := readGroups limit false rest
          { more with groups := g :: more.groups }

/-- Reads the eight groups of an IPv6 address. -/
def readV6 : Reads (List Nat) := do
  let front := readGroups 8 true (← get)
  set front.rest
  if front.groups.length = 8 then return front.groups
  if front.endsInV4 then failure
  Reads.expect ':'
  Reads.expect ':'
  let back := readGroups (7 - front.groups.length) true (← get)
  set back.rest
  let zeros := 8 - front.groups.length - back.groups.length
  return front.groups ++ List.replicate zeros 0 ++ back.groups

def readPort : Reads UInt16 := do
  Reads.expect ':'
  return UInt16.ofNat (← readDecimal (Text.maxUnsigned 16))

def readScope : Reads UInt32 := do
  if (← get).head? = some '%' then
    Reads.expect '%'
    return UInt32.ofNat (← readDecimal (Text.maxUnsigned 32))
  else return 0

def readWithV4 : Reads SocketAddress := do
  let octets ← readV4
  let port ← readPort
  return .v4 (octets.map UInt8.ofNat) port

def readWithV6 : Reads SocketAddress := do
  Reads.expect '['
  let groups ← readV6
  let scope ← readScope
  Reads.expect ']'
  let port ← readPort
  return .v6 (groups.map UInt16.ofNat) scope port

def read? (text : String) : Option SocketAddress :=
  readWithV4.all? text.toList <|> readWithV6.all? text.toList

def dotted (octets : List Nat) : String := ".".intercalate (octets.map toString)

/-- How many zero groups a list begins with. -/
def leadingZeros (groups : List Nat) : Nat := (groups.takeWhile (· = 0)).length

/-- The place and the length of the first of the longest runs of zero groups. -/
def longestRun (groups : List Nat) : Nat × Nat :=
  (List.range groups.length).foldl
    (fun best i =>
      let n := leadingZeros (groups.drop i)
      if best.2 < n then (i, n) else best)
    (0, 0)

def groupsText (groups : List Nat) : String :=
  ":".intercalate (groups.map fun g => String.ofList (Nat.toDigits 16 g))

def v6Text (groups : List Nat) : String :=
  match groups with
  | [0, 0, 0, 0, 0, 0xffff, a, b] => "::ffff:" ++ dotted [a / 256, a % 256, b / 256, b % 256]
  | _ =>
    let (place, length) := longestRun groups
    if 1 < length then
      groupsText (groups.take place) ++ "::" ++ groupsText (groups.drop (place + length))
    else groupsText groups

def text : SocketAddress → String
  | .v4 octets port => dotted (octets.map UInt8.toNat) ++ ":" ++ toString port.toNat
  | .v6 groups scope port =>
    let scopeText := if scope = 0 then "" else "%" ++ toString scope.toNat
    "[" ++ v6Text (groups.map UInt16.toNat) ++ scopeText ++ "]:" ++ toString port.toNat

end SocketAddress

end TenantEndpoints.CommandLine
