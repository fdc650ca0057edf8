import TenantEndpoints.Proofs.Http.Exchange
import TenantEndpoints.Proofs.Labels.Scope

/-!
# A table of endpoints

To those who use the API there is one table of endpoints. A row tells whose an
endpoint is and what was shown of it when it was created; the rows of others
are as good as absent, except that their names are taken.
-/
namespace TenantEndpoints.Http

open Endpoint

structure Row where
  tenant : String
  view : View

abbrev Table := SortedMap Key Row

/-- What counts of a response. What failures say in their bodies does not. -/
structure Reply where
  status : Nat
  totalCount : Option Nat := none
  body : Option Json := none

def Reply.ofResponse (r : Response) : Reply :=
  { status := r.status
    totalCount := r.totalCount
    body := if 200 ≤ r.status ∧ r.status < 300 then r.body else none }

/-- Whether an endpoint may have a name. -/
def isName (name : String) : Bool :=
  name ≠ "" && name.utf8ByteSize ≤ maxNameLength && EndpointRequest.isWellFormed name.toList

namespace Table

/-- The row under a key, if it is the tenant's. -/
def owned? (table : Table) (key : Key) (user : String) : Option Row :=
  (table.find? key).filter fun row => row.tenant = user

/-- Whether a row is listed for a tenant. -/
def lists (ns user : String) (query : ListQuery) (key : Key) (row : Row) : Bool :=
  key.ns = ns && row.tenant = user && ListFilter.fits query.protocol row.view.protocol &&
    ListFilter.fits query.network row.view.network

/-- The rows of a tenant in a namespace that a query asks for, in the order of their names. -/
def rows (table : Table) (ns user : String) (query : ListQuery) : List Row :=
  (table.filter (lists ns user query)).values

/-- What is replied to a demand and the table after it, given what is shown of an
endpoint if one is created. -/
def answer (services : Store .service) (ports : PortFilter) (issued : View) (table : Table) :
    Demand → Reply × Table
  | .create ns user body =>
    if isName body.name then
      match services.find? ⟨ns, body.serviceName⟩ with
      | some service =>
        if ports.eligible service = [] then ({ status := 400 }, table)
        else match table.find? ⟨ns, body.name⟩ with
          | some _ => ({ status := 409 }, table)
          | none => ({ status := 201, body := some issued.toJson },
              table.insert ⟨ns, body.name⟩ ⟨user, issued⟩)
      | none => ({ status := 404 }, table)
    else ({ status := 400 }, table)
  | .list ns user query =>
    let rows := table.rows ns user query
    let views := (query.paginate rows).map fun row => { row.view with basicAuth := none }
    ({ status := 200
       totalCount := some rows.length
       body := some (.array (views.map View.toJson)) }, table)
  | .count ns user =>
    let n := (table.rows ns user {}).length
    ({ status := 200, totalCount := some n, body := some (.object [("count", .integer n)]) }, table)
  | .get ns name user => match table.owned? ⟨ns, name⟩ user with
    | some row => ({ status := 200, body := some row.view.toJson }, table)
    | none => ({ status := 404 }, table)
  | .delete ns name user => match table.owned? ⟨ns, name⟩ user with
    | some _ => ({ status := 204 }, table.erase ⟨ns, name⟩)
    | none => ({ status := 404 }, table)

/-- What is replied to a request and the table after it. -/
def serve (services : Store .service) (ports : PortFilter) (issued : View) (table : Table)
    (request : Request) : Except ReadFault Reply × Table :=
  match Demand.ofRequest request with
  | .error response => (response.map Reply.ofResponse, table)
  | .ok demand =>
    let answered := table.answer services ports issued demand
    (.ok answered.1, answered.2)

end Table

/-- What may be shown of an endpoint that a request creates. -/
def Issues (request : Request) (issued : View) : Prop :=
  ∀ ns user body, Demand.ofRequest request = .ok (.create ns user body) →
    issued.name = body.name ∧ issued.basicAuth.isSome = body.useBasicAuth

/-- Replies to requests that a table can give, one after the other. -/
inductive Tabled (services : Store .service) (ports : PortFilter) :
    Table → List Request → List (Except ReadFault Reply) → Prop
  | nil (table : Table) : Tabled _ _ table [] []
  | cons {table : Table} {request : Request} {requests : List Request}
      {replies : List (Except ReadFault Reply)} (issued : View) (hissued : Issues request issued)
      (h : Tabled services ports (table.serve services ports issued request).2 requests replies) :
    Tabled _ _ table (request :: requests)
      ((table.serve services ports issued request).1 :: replies)

/-- The responses to requests that are served one after the other. -/
def session (config : Config) (timeoutMs : Nat) (s : Surroundings) :
    List Request → World → List (Except ReadFault Response)
  | [], _ => []
  | request :: requests, w =>
    let run := (serve config timeoutMs request).run s w
    run.value :: session config timeoutMs s requests run.world

end TenantEndpoints.Http
