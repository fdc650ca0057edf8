import TenantEndpoints.Proofs.Http.Refinement
import TenantEndpoints.Proofs.Specimen
import TenantEndpoints.Proofs.Text.Pieces

/-!
# Addresses of endpoints

An endpoint that was created is found under the path that is made of its
namespace and its name, until it is deleted there. One name is an exception:
under `count` the endpoints of a namespace are counted, so an endpoint of that name can be
created and deleted, but not shown.
-/
namespace TenantEndpoints.Http

open Endpoint

section Paths
variable {method path ns name : String}

end Paths

section History
variable (config : Config) (timeoutMs : Nat) (s : Surroundings)

/-- A request does not delete an endpoint. -/
def Spares (ns name : String) (w : World) (request : Request) : Prop :=
  ∀ user response, Demand.ofRequest request = .ok (.delete ns name user) →
    ((serve config timeoutMs request).run s w).value = .ok response → response.status ≠ 204

variable {config timeoutMs s} {w : World} {earlier later : List Request}

end History

section Rows
variable {config : Config} {timeoutMs : Nat} {services : Store .service} {table : Table}
  {ports : PortFilter} {issued : View} {ns name user domain : String} {row : Row}
  {s : Surroundings} {w : World}

end Rows

section Domain
variable {config : Config} {ns user : String} {body : CreateBody} {deadline : Instant}
  {t : List Exchange} {r : Except Failure Response}

end Domain

end TenantEndpoints.Http
