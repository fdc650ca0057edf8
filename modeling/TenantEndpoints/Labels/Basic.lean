import TenantEndpoints.Resource.Metadata
import TenantEndpoints.Text.Split

/-!
# Labels of endpoints

The labels that endpoints are found by. Those that scope an endpoint to its tenant
and to its backend are set last, so that no wish can override them. A selector asks
for labels with given values. Its text lists them in key order, so that selectors
asking for the same have the same text.
-/
namespace TenantEndpoints.Labels

/-- On every route made here, with `createdByValue`. -/
def createdBy : String := "app.kubernetes.io/created-by"

def createdByValue : String := "kotal-api"

/-- The component of a backend, such as `ethereum-node-api`. -/
def component : String := "app.kubernetes.io/component"

def protocol : String := "kotal.io/protocol"

def network : String := "kotal.io/network"

/-- The tenant that an endpoint belongs to. -/
def userId : String := "kotal.io/user-id"

/-- The last part of the backend's component. -/
def kind : String := "kotal.io/kind"

/-- Labels that an endpoint takes over from its backend. -/
def propagated : List String := [protocol, network]

/-- What follows the last hyphen of a component, unless it is empty. -/
def deriveKind? (component? : Option String) : Option String := do
  let last ← (Text.pieces '-' (← component?).toList).getLast?
  if last.isEmpty then none else some (String.ofList last)

/-- Takes a label over from the backend if it has one. -/
def propagate (backend labels : Labels) (key : String) : Labels :=
  match backend.find? key with
  | some value => labels.insert key value
  | none => labels

/-- The labels of a tenant's endpoint in front of a backend. -/
def ofEndpoint (backend : Labels) (tenant : String) (desired : Labels) : Labels :=
  let inherited := propagated.foldl (propagate backend) desired
  let owned := (inherited.insert createdBy createdByValue).insert userId tenant
  match deriveKind? (backend.find? component) with
  | some k => owned.insert kind k
  | none => owned.erase kind

end TenantEndpoints.Labels

namespace TenantEndpoints

structure Selector where
  requirements : Labels
  deriving DecidableEq

namespace Selector

def empty : Selector := ⟨∅⟩

/-- Asks for one more label, in the place of an earlier wish for the same key. -/
def «with» (s : Selector) (key value : String) : Selector := ⟨s.requirements.insert key value⟩

def ofList (pairs : List (String × String)) : Selector := ⟨SortedMap.ofList pairs⟩

def isEmpty (s : Selector) : Bool := s.requirements.isEmpty

/-- Whether all labels asked for are there. -/
def selects (s : Selector) (labels : Labels) : Bool :=
  s.requirements.entries.all fun e => labels.find? e.1 = some e.2

def text (s : Selector) : String :=
  ",".intercalate (s.requirements.entries.map fun e => e.1 ++ "=" ++ e.2)

end Selector

/-- What a listing of endpoints is narrowed down to. Empty wishes are no wishes. -/
structure ListFilter where
  protocol : Option String := none
  network : Option String := none
  userId : Option String := none

namespace ListFilter

def narrow (s : Selector) (key : String) : Option String → Selector
  | some value => if value = "" then s else s.with key value
  | none => s

/-- The selector of a filter; it always asks for endpoints made here. -/
def selector (f : ListFilter) : Selector :=
  let made := Selector.empty.with Labels.createdBy Labels.createdByValue
  narrow (narrow (narrow made Labels.protocol f.protocol) Labels.network f.network)
    Labels.userId f.userId

end ListFilter

end TenantEndpoints
