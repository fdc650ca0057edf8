/-!
# Splitting lists

Cutting a text at the first occurrence of a pattern, at every separator, and
trimming it at both ends.
-/
namespace TenantEndpoints.Text

/-- What stands before and after the first occurrence of `pattern`. -/
def splitAtFirst? [DecidableEq α] (pattern : List α) : List α → Option (List α × List α)
  | [] => if pattern = [] then some ([], []) else none
  | c :: s =>
    if pattern.isPrefixOf (c :: s) then some ([], (c :: s).drop pattern.length)
    else (splitAtFirst? pattern s).map fun r => (c :: r.1, r.2)

/-- The pieces between the occurrences of a separator, empty ones included. -/
def pieces [DecidableEq α] (sep : α) : List α → List (List α)
  | [] => [[]]
  | c :: s =>
    if c = sep then [] :: pieces sep s
    else match pieces sep s with
      | [] => [[c]]
      | p :: ps => (c :: p) :: ps

theorem pieces_ne_nil [DecidableEq α] (sep : α) (s : List α) : pieces sep s ≠ [] := by
  cases s with
  | nil => simp [pieces]
  | cons c s =>
    simp only [pieces]
    split
    · simp
    · split <;> simp

/-- What stands before the first occurrence of a separator, and after it if there is one. -/
def cutAtFirst [DecidableEq α] (sep : α) : List α → List α × Option (List α)
  | [] => ([], none)
  | c :: s =>
    if c = sep then ([], some s)
    else let r := cutAtFirst sep s; (c :: r.1, r.2)

/-- Drops every leading and trailing occurrence of an element. -/
def trim [DecidableEq α] (x : α) (s : List α) : List α :=
  ((s.dropWhile (· = x)).reverse.dropWhile (· = x)).reverse

end TenantEndpoints.Text
