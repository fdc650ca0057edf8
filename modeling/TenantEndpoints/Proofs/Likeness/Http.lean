import TenantEndpoints.Http.Api
import TenantEndpoints.Proofs.Likeness.Endpoint

/-!
# Responses that are alike

A response shows what was drawn for an endpoint only in the addresses of its
ports and in its credentials. A response that tells of a failure shows nothing of
it, and no request is served in another way because of it.
-/
namespace TenantEndpoints

namespace Endpoint

/-- Ports of one name, under alike ids on one host. -/
inductive PortView.Alike : PortView → PortView → Prop
  | mk {id id' : String} (h : PublicId.Alike id id') (name host : String) :
    PortView.Alike ⟨name, View.address host id⟩ ⟨name, View.address host id'⟩

structure View.Alike (v v' : View) : Prop where
  name_eq : v.name = v'.name
  protocol_eq : v.protocol = v'.protocol
  network_eq : v.network = v'.network
  kind_eq : v.kind = v'.kind
  createdAt_eq : v.createdAt = v'.createdAt
  ports : List.Forall₂ PortView.Alike v.ports v'.ports
  basicAuth : Option.Rel Credentials.Alike v.basicAuth v'.basicAuth

section Views
variable {route route' : IngressRoute}

theorem host_eq (h : route.Alike route') :
    (route.spec.rules.head?.bind RouteRule.host?).getD "" =
      (route'.spec.rules.head?.bind RouteRule.host?).getD "" := by
  have hrules : List.Forall₂ RouteRule.Alike route.spec.rules route'.spec.rules := h.spec.rules
  generalize route.spec.rules = rules, route'.spec.rules = rules' at hrules
  cases hrules with
  | nil => rfl
  | cons hr _ => simp only [List.head?_cons, Option.bind_some, hr.host?_eq]

theorem ofRoute_alike (h : route.Alike route') {c c' : Option Credentials}
    (hc : Option.Rel Credentials.Alike c c') :
    View.Alike (View.ofRoute route c) (View.ofRoute route' c') := by
  have hlabels (key : String) := congrArg (·.find? key) h.labels_eq
  refine ⟨h.displayName_eq, hlabels _, hlabels _, hlabels _,
    congrArg Metadata.creationTimestamp h.metadata_eq, ?_, hc⟩
  refine List.rel_map (fun p p' hp => ?_) (exposedPorts_alike h)
  rw [host_eq h, hp.portName_eq]
  exact .mk hp.publicId _ _

end Views

end Endpoint

namespace Http
open Endpoint

/-- The same response, or ones that show alike views of endpoints. -/
inductive Response.Alike : Response → Response → Prop
  | same (r : Response) : Response.Alike r r
  | shown {v v' : View} (h : v.Alike v') {status : Nat} (hstatus : status = 200 ∨ status = 201) :
    Response.Alike { status, body := some v.toJson } { status, body := some v'.toJson }
  | listed {vs vs' : List View} (h : List.Forall₂ View.Alike vs vs') (total : Nat) :
    Response.Alike
      { status := 200, totalCount := some total, body := some (.array (vs.map View.toJson)) }
      { status := 200, totalCount := some total, body := some (.array (vs'.map View.toJson)) }

theorem Response.Alike.status_eq {r r' : Response} (h : r.Alike r') : r.status = r'.status := by
  cases h <;> rfl

/-- A response that tells of a failure shows nothing that was drawn. -/
theorem Response.Alike.eq_of_error {r r' : Response} (h : r.Alike r') (herror : 400 ≤ r.status) :
    r = r' := by
  cases h with
  | same => rfl
  | shown _ hstatus =>
    dsimp only at herror
    omega
  | listed =>
    dsimp only at herror
    omega

theorem failed_alike (failure : Failure) :
    Program.Alike Response.Alike (failed failure) (failed failure) := by
  unfold failed
  split
  · exact (Program.Alike.log _).bind fun _ _ _ => .done (.same _)
  · exact .done (.same _)

theorem respond_alike {a a' : Attempt Response} (h : Attempt.Alike Response.Alike a a') :
    Program.Alike Response.Alike (respond a) (respond a') := by
  refine Program.Alike.bind h fun _ _ houtcome => ?_
  cases houtcome with
  | ok hresponse => exact .done hresponse
  | error failure => exact failed_alike failure

section Demands
variable (ns name user : String) (deadline : Instant)

theorem ownedRoute_alike :
    Attempt.Alike Resource.Alike (ownedRoute ns name user deadline)
      (ownedRoute ns name user deadline) := by
  refine (get_alike ns name deadline).bind fun route route' hroute => ?_
  rw [isOwnedBy, isOwnedBy, hroute.labels_eq]
  split
  · exact .pure hroute
  · exact .throw _

theorem create_alike (config : Config) (body : CreateBody) :
    Attempt.Alike Response.Alike (create config ns user body deadline)
      (create config ns user body deadline) := by
  refine (Attempt.ofExcept_alike (.refl Eq.refl _)).bind fun _ _ _ => ?_
  refine (Attempt.call_alike (.get .service ns body.serviceName) deadline).bind
    fun service service' hservice => ?_
  rw [hservice.eq_of_service]
  refine (Endpoint.create_alike config _ service' deadline).bind fun _ _ hcreated => ?_
  exact .pure (.shown (ofRoute_alike hcreated.route hcreated.credentials) (.inr rfl))

theorem paginate_alike {α : Type} {R : α → α → Prop} {l l' : List α} (h : List.Forall₂ R l l')
    (query : ListQuery) : List.Forall₂ R (query.paginate l) (query.paginate l') := by
  unfold ListQuery.paginate
  split
  · exact h
  · exact List.forall₂_take _ (List.forall₂_drop _ h)

theorem list_alike (query : ListQuery) :
    Attempt.Alike Response.Alike (list ns user query deadline) (list ns user query deadline) := by
  refine (Endpoint.list_alike ns _ deadline).bind fun routes routes' hroutes => ?_
  have hviews : List.Forall₂ View.Alike
      ((query.paginate routes).map fun route => View.ofRoute route none)
      ((query.paginate routes').map fun route => View.ofRoute route none) := by
    refine List.rel_map (fun route route' hroute => ?_) (paginate_alike hroutes query)
    exact ofRoute_alike hroute .none
  dsimp only
  rw [hroutes.length_eq]
  exact .pure (.listed hviews _)

theorem count_alike :
    Attempt.Alike Response.Alike (count ns user deadline) (count ns user deadline) := by
  refine (Endpoint.count_alike ns _ deadline).bind fun n _ hn => ?_
  cases hn
  exact .pure (.same _)

theorem get_alike :
    Attempt.Alike Response.Alike (get ns name user deadline) (get ns name user deadline) := by
  refine (ownedRoute_alike ns name user deadline).bind fun _ _ hroute => ?_
  refine (credentials_alike ns name deadline).bind fun _ _ hcredentials => ?_
  exact .pure (.shown (ofRoute_alike hroute hcredentials) (.inl rfl))

theorem delete_alike :
    Attempt.Alike Response.Alike (delete ns name user deadline) (delete ns name user deadline) := by
  refine (ownedRoute_alike ns name user deadline).bind fun _ _ _ => ?_
  exact (Endpoint.delete_alike ns name deadline).bind fun _ _ _ => .pure (.same _)

end Demands

section Requests
variable (config : Config)

theorem serveCreate_alike (ns user : String) (body : Body) (deadline : Instant) :
    Program.Alike (OutcomeAlike Response.Alike) (serveCreate config ns user body deadline)
      (serveCreate config ns user body deadline) := by
  unfold serveCreate
  split
  · exact .done (.error _)
  split
  · exact (respond_alike (create_alike ns user deadline config _)).map fun _ _ => .ok
  · exact (Program.Alike.log _).bind fun _ _ _ => .done (.ok (.same _))

theorem serveOperation_alike (request : Request) (user : String) (deadline : Instant)
    (operation : Operation) :
    Program.Alike (OutcomeAlike Response.Alike)
      (serveOperation config request user deadline operation)
      (serveOperation config request user deadline operation) := by
  cases operation with
  | create ns => exact serveCreate_alike config ns user request.body deadline
  | list ns =>
    refine Program.Alike.map ?_ fun _ _ => .ok
    split
    · exact respond_alike (list_alike ns user deadline _)
    · exact failed_alike _
  | count ns => exact (respond_alike (count_alike ns user deadline)).map fun _ _ => .ok
  | get ns name => exact (respond_alike (get_alike ns name user deadline)).map fun _ _ => .ok
  | delete ns name => exact (respond_alike (delete_alike ns name user deadline)).map fun _ _ => .ok

theorem serve_alike (timeoutMs : Nat) (request : Request) :
    Program.Alike (OutcomeAlike Response.Alike) (serve config timeoutMs request)
      (serve config timeoutMs request) := by
  unfold serve
  split
  · exact .done (.ok (.same _))
  split
  · exact .done (.ok (.same _))
  refine (Program.Alike.perform .now).bind fun now _ hnow => ?_
  cases hnow
  exact serveOperation_alike config request _ _ _

end Requests

end Http

end TenantEndpoints
