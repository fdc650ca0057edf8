import TenantEndpoints.Json.Kept
import TenantEndpoints.Timestamp

/-!
# Services

The backends that endpoints expose. Only the ports of a service matter here; the
rest of it is kept.
-/
namespace TenantEndpoints

structure ServicePort where
  name : Option String := none
  port : Int := 0
  others : List (String × Option Json) := []

structure ServiceSpec where
  ports : Option (List ServicePort) := none
  others : List (String × Option Json) := []

/-- What a service has beside its metadata: what is asked of it, and what has become of that. -/
structure ServiceContent where
  spec : Option ServiceSpec := none
  status : Option Json := none

namespace ServicePort

open Json.Kept

def otherFields : List Field :=
  [⟨"appProtocol", text, .omitted⟩, ⟨"nodePort", signed 32, .omitted⟩,
   ⟨"protocol", text, .omitted⟩, ⟨"targetPort", numberOrText, .omitted⟩]

def ofDraft? (d : Json.Draft) : Option ServicePort := do
  let fs : Json.Fields ← d.members?
  some
    { name := ← fs.last "name" Json.Draft.string?
      port := (← fs.last "port" (Json.Draft.signed? 32)).getD 0
      others := ← fields otherFields fs }

def toJson (p : ServicePort) : Json := Json.record <|
  [("name", p.name.map .string), ("port", some (.integer p.port))] ++ p.others

end ServicePort

namespace ServiceSpec

open Json.Kept

def otherFields : List Field :=
  [⟨"allocateLoadBalancerNodePorts", flag, .omitted⟩, ⟨"clusterIP", text, .omitted⟩,
   ⟨"clusterIPs", listOf text, .omitted⟩, ⟨"externalIPs", listOf text, .omitted⟩,
   ⟨"externalName", text, .omitted⟩, ⟨"externalTrafficPolicy", text, .omitted⟩,
   ⟨"healthCheckNodePort", signed 32, .omitted⟩, ⟨"internalTrafficPolicy", text, .omitted⟩,
   ⟨"ipFamilies", listOf text, .omitted⟩, ⟨"ipFamilyPolicy", text, .omitted⟩,
   ⟨"loadBalancerClass", text, .omitted⟩, ⟨"loadBalancerIP", text, .omitted⟩,
   ⟨"loadBalancerSourceRanges", listOf text, .omitted⟩,
   ⟨"publishNotReadyAddresses", flag, .omitted⟩, ⟨"selector", mapOf text, .omitted⟩,
   ⟨"sessionAffinity", text, .omitted⟩,
   ⟨"sessionAffinityConfig", recordOf
     [⟨"clientIP", recordOf [⟨"timeoutSeconds", signed 32, .omitted⟩], .omitted⟩], .omitted⟩,
   ⟨"trafficDistribution", text, .omitted⟩, ⟨"type", text, .omitted⟩]

def ofDraft? (d : Json.Draft) : Option ServiceSpec := do
  let fs : Json.Fields ← d.members?
  some
    { ports := ← fs.last "ports" (Json.Draft.listOf? ServicePort.ofDraft?)
      others := ← fields otherFields fs }

def toJson (s : ServiceSpec) : Json := Json.record <|
  ("ports", s.ports.map fun ps => .array (ps.map ServicePort.toJson)) :: s.others

end ServiceSpec

namespace ServiceContent

open Json.Kept

/-- A text that is written as the empty one when it is missing. -/
def plainText (name : String) : Field := ⟨name, text, .written (.string "")⟩

def condition : Part := recordOf
  [⟨"lastTransitionTime", Timestamp.kept, .refused⟩, plainText "message",
   ⟨"observedGeneration", signed 64, .omitted⟩, plainText "reason", plainText "status",
   plainText "type"]

def portStatus : Part := recordOf
  [⟨"error", text, .omitted⟩, ⟨"port", signed 32, .written (.integer 0)⟩, plainText "protocol"]

def ingress : Part := recordOf
  [⟨"hostname", text, .omitted⟩, ⟨"ip", text, .omitted⟩, ⟨"ipMode", text, .omitted⟩,
   ⟨"ports", listOf portStatus, .omitted⟩]

def keptStatus : Part := recordOf
  [⟨"conditions", listOf condition, .omitted⟩,
   ⟨"loadBalancer", recordOf [⟨"ingress", listOf ingress, .omitted⟩], .omitted⟩]

def ofFields? (fs : Json.Fields) : Option ServiceContent := do
  some
    { spec := ← fs.last "spec" ServiceSpec.ofDraft?
      status := ← fs.last "status" keptStatus }

def toFields (s : ServiceContent) : List (String × Option Json) :=
  [("spec", s.spec.map ServiceSpec.toJson), ("status", s.status)]

end ServiceContent

end TenantEndpoints
