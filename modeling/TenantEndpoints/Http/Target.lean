import TenantEndpoints.Text.Split

/-!
# Request targets

The path and the query of a request's URI. A URI is a path, an asterisk, an
authority alone, or a scheme and an authority with a path; what follows `#` is
no part of it. Characters that may not stand in a URI make it none at all.
-/
namespace TenantEndpoints.Http

structure Target where
  path : String
  query : Option String
  deriving DecidableEq, Repr

/-- Whether a character may stand in a host, a port or user information. A
percent sign and brackets have rules of their own there. -/
def isAuthorityChar (c : Char) : Bool :=
  ('a' ≤ c && c ≤ 'z') || ('A' ≤ c && c ≤ 'Z') || ('0' ≤ c && c ≤ '9') ||
    c ∈ "!$&'()*+,-.:;=@[]_~%".toList

/-- What counts of an authority so far. What an `@` or a `]` ends is user
information or an address in brackets, whose colons and percent signs do not count. -/
structure AuthorityView where
  colons : Nat := 0
  percent : Bool := false
  opened : Bool := false
  closed : Bool := false
  deriving DecidableEq, Repr

namespace AuthorityView

/-- The colons that an address in brackets and its port may have. -/
def maxColons : Nat := 8

/-- The view of one more character, if it may stand there. -/
def next (v : AuthorityView) (c : Char) : Option AuthorityView :=
  if !isAuthorityChar c then none
  else if c = ':' then
    if v.colons < maxColons then some { v with colons := v.colons + 1 } else none
  else if c = '%' then some { v with percent := true }
  else if c = '@' then some { v with colons := 0, percent := false }
  else if c = '[' then if v.percent || v.opened then none else some { v with opened := true }
  else if c = ']' then
    if v.opened && !v.closed then some { v with closed := true, colons := 0, percent := false }
    else none
  else some v

/-- Whether an authority may end here. -/
def complete (v : AuthorityView) : Bool := v.opened = v.closed && v.colons ≤ 1 && !v.percent

end AuthorityView

/-- Whether a text is an authority, of which the host may not be empty after an `@`. -/
def isAuthority (s : List Char) : Bool :=
  s ≠ [] && s.getLast? ≠ some '@' && (s.foldlM AuthorityView.next {}).any AuthorityView.complete

namespace Target

/-- Why a path, perhaps with a query, is no target. -/
inductive Fault
  | tooLong
  | invalidCharacter
  deriving DecidableEq, Repr

def Fault.message : Fault → String
  | .tooLong => "uri too long"
  | .invalidCharacter => "invalid uri character"

/-- The length of the longest URI, in bytes. -/
def maxLength : Nat := 65534

/-- Characters of a path; those beyond ASCII may stand for themselves. -/
def isPathChar (c : Char) : Bool :=
  let n := c.toNat
  n = 0x21 || n = 0x22 || (0x24 ≤ n && n ≤ 0x3b) || n = 0x3d || (0x40 ≤ n && n ≤ 0x5f) ||
    (0x61 ≤ n && n ≤ 0x7e) || 0x80 ≤ n

def isQueryChar (c : Char) : Bool :=
  let n := c.toNat
  n = 0x21 || (0x24 ≤ n && n ≤ 0x3b) || n = 0x3d || (0x3f ≤ n && n ≠ 0x7f)

/-- Splits a path from its query; an empty path before it stands for the root. -/
def split? (s : List Char) : Option Target :=
  let (visible, _) := Text.cutAtFirst '#' s
  let (path, query?) := Text.cutAtFirst '?' visible
  if path.all isPathChar && (query?.getD []).all isQueryChar then
    some ⟨if path = [] then "/" else String.ofList path, query?.map String.ofList⟩
  else none

/-- The target of a URI without scheme and authority. -/
def ofPath (uri : String) : Except Fault Target :=
  if maxLength < uri.utf8ByteSize then .error .tooLong
  else match split? uri.toList with
    | some target => .ok target
    | none => .error .invalidCharacter

def isSchemeChar (c : Char) : Bool :=
  ('a' ≤ c && c ≤ 'z') || ('A' ≤ c && c ≤ 'Z') || ('0' ≤ c && c ≤ '9') ||
    c ∈ ['+', '-', '.', '~']

def maxSchemeLength : Nat := 64

def endsAuthority (c : Char) : Bool := c = '/' || c = '?' || c = '#'

/-- The target of any URI; a scheme may be empty, and only a path can do without
an authority. -/
def read? (uri : String) : Option Target :=
  let s := uri.toList
  if maxLength < uri.utf8ByteSize then none
  else if s = ['*'] then some ⟨"*", none⟩
  else if s.head? = some '/' then split? s
  else match [':', '/', '/'].isPrefixOf? (s.dropWhile isSchemeChar) with
    | some rest =>
      if (s.takeWhile isSchemeChar).length ≤ maxSchemeLength ∧
          isAuthority (rest.takeWhile (!endsAuthority ·)) then
        split? (rest.dropWhile (!endsAuthority ·))
      else none
    | none => if isAuthority s then some ⟨"", none⟩ else none

end Target

end TenantEndpoints.Http
