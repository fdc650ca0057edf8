import TenantEndpoints.Text.Reads
import TenantEndpoints.Text.Split
import TenantEndpoints.Text.Utf8

/-!
# Form encoding

The encoding `application/x-www-form-urlencoded` of key-value pairs: pairs are
joined by `&`, a space is `+`, and every byte that is neither a letter, a digit
nor one of `*-._` is a percent escape. Reading is lenient: a `%` that begins no
escape stands for itself, and bytes that are no UTF-8 become U+FFFD.
-/
namespace TenantEndpoints.Text.FormEncoded

/-- Whether a byte is written as the ASCII character it is. -/
def isPlain (b : UInt8) : Bool :=
  let n := b.toNat
  (0x30 ≤ n && n ≤ 0x39) || (0x41 ≤ n && n ≤ 0x5a) || (0x61 ≤ n && n ≤ 0x7a) ||
    n = 0x2a || n = 0x2d || n = 0x2e || n = 0x5f

def encodeByte (b : UInt8) : List Char :=
  if isPlain b then [Char.ofNat b.toNat]
  else if b = 0x20 then ['+']
  else ['%', hexDigit 'A' (b.toNat / 16), hexDigit 'A' (b.toNat % 16)]

def encode (s : String) : String := String.ofList ((Utf8.encode s).flatMap encodeByte)

/-- Replaces percent escapes by the bytes they stand for, and `+` by a space. -/
def unescape : Bytes → Bytes
  | [] => []
  | 0x25 :: a :: b :: s => match hexValue? a.toNat, hexValue? b.toNat with
    | some x, some y => UInt8.ofNat (x * 16 + y) :: unescape s
    | _, _ => 0x25 :: unescape (a :: b :: s)
  | b :: s => (if b = 0x2b then 0x20 else b) :: unescape s

def decodeText (s : Bytes) : String := String.ofList (Utf8.decodeLossy (unescape s))

/-- The pairs of an encoded text, in order. A piece without `=` is a key with
an empty value; empty pieces are no pairs. -/
def decodePairs (s : String) : List (String × String) :=
  ((pieces 0x26 (Utf8.encode s)).filter (· ≠ [])).map fun piece =>
    let (key, value) := cutAtFirst 0x3d piece
    (decodeText key, decodeText (value.getD []))

end TenantEndpoints.Text.FormEncoded
