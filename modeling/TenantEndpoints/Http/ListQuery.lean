import TenantEndpoints.Failure
import TenantEndpoints.Text.FormEncoded

/-!
# List queries

What the query of a listing asks for. Of several values for one key the last
counts, but each `page` and `limit` has to be a positive number.
-/
namespace TenantEndpoints.Http

structure ListQuery where
  protocol : Option String := none
  network : Option String := none
  /-- Counted from one. -/
  page : Option Nat := none
  limit : Option Nat := none
  deriving DecidableEq, Repr

namespace ListQuery

/-- A positive number of at most 64 bits. -/
def positive (parameter value : String) : Except Rejection Nat :=
  match Text.readUnsigned? 64 value with
  | some n => if 0 < n then .ok n else .error (.notPositive parameter)
  | none => .error (.notPositive parameter)

def add (q : ListQuery) (key value : String) : Except Rejection ListQuery :=
  if key = "protocol" then .ok { q with protocol := some value }
  else if key = "network" then .ok { q with network := some value }
  else if key = "page" then (positive key value).map fun n => { q with page := some n }
  else if key = "limit" then (positive key value).map fun n => { q with limit := some n }
  else .ok q

def ofPairs (pairs : List (String × String)) : Except Rejection ListQuery :=
  pairs.foldlM (fun q p => q.add p.1 p.2) {}

def read : Option String → Except Rejection ListQuery
  | none => .ok {}
  | some query => ofPairs (Text.FormEncoded.decodePairs query)

/-- The items of the page asked for; without a limit all are on every page. The
number of items before the page is cut at the largest 64-bit number. -/
def paginate (q : ListQuery) (items : List α) : List α :=
  match q.limit with
  | none => items
  | some limit =>
    (items.drop (min ((q.page.getD 1 - 1) * limit) (Text.maxUnsigned 64))).take limit

end ListQuery

end TenantEndpoints.Http
