import TenantEndpoints.ApiServer.Action
import TenantEndpoints.Cluster.Run
import TenantEndpoints.Http.Api
import TenantEndpoints.Main
import TenantEndpoints.Proofs.ApiServer.Absence
import TenantEndpoints.Proofs.CommandLine.Provisioning
import TenantEndpoints.Proofs.Endpoint.AllOrNothing
import TenantEndpoints.Proofs.Endpoint.Exposure
import TenantEndpoints.Proofs.Endpoint.FirstComers
import TenantEndpoints.Proofs.Endpoint.Naming
import TenantEndpoints.Proofs.Endpoint.PublicId
import TenantEndpoints.Proofs.Endpoint.Routing
import TenantEndpoints.Proofs.Http.Addressing
import TenantEndpoints.Proofs.Http.Contention
import TenantEndpoints.Proofs.Http.Deadlines
import TenantEndpoints.Proofs.Http.Disclosure
import TenantEndpoints.Proofs.Http.Listing
import TenantEndpoints.Proofs.Http.Paging
import TenantEndpoints.Proofs.Http.Rejection
import TenantEndpoints.Proofs.Http.Reporting
import TenantEndpoints.Proofs.Labels.Agreement
import TenantEndpoints.Proofs.Labels.SelectorText
import TenantEndpoints.Proofs.Likeness.Scenario
import TenantEndpoints.Proofs.Resource.Codec
import TenantEndpoints.Proofs.Roster.Traceless
import TenantEndpoints.Proofs.Scenario
import TenantEndpoints.Proofs.WriteOnce
