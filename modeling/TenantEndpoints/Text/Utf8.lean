/-!
# UTF-8

Reading bytes as characters, with the place where they first stop being
well-formed. A byte sequence goes wrong at the first byte that no well-formed
text could have there; the bytes of the broken character seen up to then are
replaced together when the text has to be shown all the same.
-/
namespace TenantEndpoints

abbrev Bytes := List UInt8

namespace Text.Utf8

/-- The bytes of a text. -/
def encode (s : String) : Bytes := s.toList.flatMap String.utf8EncodeChar

/-- What a sequence of bytes begins with: a character of `more` bytes beyond
the first, a broken character of `size` bytes, or a character that is cut off
by the end. -/
inductive Head
  | char (c : Char) (more : Nat)
  | broken (size : Nat)
  | cutOff
  deriving DecidableEq, Repr

def isContinuation (b : UInt8) : Bool := 0x80 ≤ b.toNat && b.toNat ≤ 0xbf

/-- Whether a second byte may follow the first byte of a character of three or
four bytes: neither an overlong form nor a surrogate nor beyond the last code point. -/
def mayFollow (first second : Nat) : Bool :=
  let low := if first = 0xe0 then 0xa0 else if first = 0xf0 then 0x90 else 0x80
  let high := if first = 0xed then 0x9f else if first = 0xf4 then 0x8f else 0xbf
  low ≤ second && second ≤ high

/-- What the bytes `b :: s` begin with. -/
def head (b : UInt8) (s : Bytes) : Head :=
  let n := b.toNat
  if n < 0x80 then .char (Char.ofNat n) 0
  else if n < 0xc2 then .broken 1
  else if n < 0xe0 then
    match s with
    | [] => .cutOff
    | c :: _ =>
      if isContinuation c then .char (Char.ofNat ((n - 0xc0) * 64 + (c.toNat - 0x80))) 1
      else .broken 1
  else if n < 0xf0 then
    match s with
    | [] => .cutOff
    | c :: s =>
      if !mayFollow n c.toNat then .broken 1
      else match s with
        | [] => .cutOff
        | d :: _ =>
          if isContinuation d then
            .char (Char.ofNat ((n - 0xe0) * 4096 + (c.toNat - 0x80) * 64 + (d.toNat - 0x80))) 2
          else .broken 2
  else if n < 0xf5 then
    match s with
    | [] => .cutOff
    | c :: s =>
      if !mayFollow n c.toNat then .broken 1
      else match s with
        | [] => .cutOff
        | d :: s =>
          if !isContinuation d then .broken 2
          else match s with
            | [] => .cutOff
            | e :: _ =>
              if isContinuation e then
                .char (Char.ofNat ((n - 0xf0) * 262144 + (c.toNat - 0x80) * 4096 +
                  (d.toNat - 0x80) * 64 + (e.toNat - 0x80))) 3
              else .broken 3
  else .broken 1

/-- Why bytes are not a text: a broken character of `size` bytes, or one that
is cut off by the end; both at the index of its first byte. -/
inductive Fault
  | invalid (size index : Nat)
  | incomplete (index : Nat)
  deriving DecidableEq, Repr

/-- The number of bytes before the broken character. -/
def Fault.index : Fault → Nat
  | .invalid _ index | .incomplete index => index

def Fault.message : Fault → String
  | .invalid size index => s!"invalid utf-8 sequence of {size} bytes from index {index}"
  | .incomplete index => s!"incomplete utf-8 byte sequence from index {index}"

/-- Reads bytes after `index` others that gave the characters `seen`, last first. -/
def decodeFrom (index : Nat) (seen : List Char) : Bytes → Except Fault (List Char)
  | [] => .ok seen.reverse
  | b :: s => match head b s with
    | .char c more => decodeFrom (index + 1 + more) (c :: seen) (s.drop more)
    | .broken size => .error (.invalid size index)
    | .cutOff => .error (.incomplete index)
termination_by s => s.length
decreasing_by simp only [List.length_drop, List.length_cons]; omega

def decode (s : Bytes) : Except Fault String := (decodeFrom 0 [] s).map String.ofList

/-- Reads bytes with U+FFFD in the place of each broken or cut-off character. -/
def decodeLossy : Bytes → List Char
  | [] => []
  | b :: s => match head b s with
    | .char c more => c :: decodeLossy (s.drop more)
    | .broken size => '\ufffd' :: decodeLossy (s.drop (size - 1))
    | .cutOff => ['\ufffd']
termination_by s => s.length
decreasing_by all_goals simp only [List.length_drop, List.length_cons]; omega

end Text.Utf8

end TenantEndpoints
