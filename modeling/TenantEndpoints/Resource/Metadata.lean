import TenantEndpoints.Json.Kept
import TenantEndpoints.Timestamp

/-!
# Metadata

What every resource carries: its name, its labels, and references to the
resources that own it. Absent fields stay absent when written, and fields that
nobody looks at are kept.
-/
namespace TenantEndpoints

abbrev Labels := SortedMap String String

/-- A reference to the resource on whose deletion this one goes too. -/
structure OwnerReference where
  apiVersion : String
  kind : String
  name : String
  uid : String
  blockOwnerDeletion : Option Bool
  controller : Option Bool
  deriving DecidableEq

structure Metadata where
  name : Option String := none
  ns : Option String := none
  labels : Option Labels := none
  annotations : Option (SortedMap String String) := none
  uid : Option String := none
  generateName : Option String := none
  creationTimestamp : Option Timestamp := none
  ownerReferences : Option (List OwnerReference) := none
  finalizers : Option (List String) := none
  generation : Option Int := none
  resourceVersion : Option String := none
  others : List (String × Option Json) := []

namespace OwnerReference

def ofDraft? (d : Json.Draft) : Option OwnerReference := do
  let fs : Json.Fields ← d.members?
  some
    { apiVersion := (← fs.last "apiVersion" Json.Draft.string?).getD ""
      kind := (← fs.last "kind" Json.Draft.string?).getD ""
      name := (← fs.last "name" Json.Draft.string?).getD ""
      uid := (← fs.last "uid" Json.Draft.string?).getD ""
      blockOwnerDeletion := ← fs.last "blockOwnerDeletion" Json.Draft.bool?
      controller := ← fs.last "controller" Json.Draft.bool? }

def toJson (r : OwnerReference) : Json := Json.record
  [("apiVersion", some (.string r.apiVersion)),
   ("kind", some (.string r.kind)),
   ("name", some (.string r.name)),
   ("uid", some (.string r.uid)),
   ("blockOwnerDeletion", r.blockOwnerDeletion.map .bool),
   ("controller", r.controller.map .bool)]

end OwnerReference

namespace Metadata

/-- The name, or else the prefix that one is generated from, or else nothing. -/
def displayName (m : Metadata) : String := (m.name <|> m.generateName).getD ""

def namespaceOrEmpty (m : Metadata) : String := m.ns.getD ""

def labelMap (m : Metadata) : Labels := m.labels.getD ∅

/-- Whether one of the owners has this uid. -/
def isOwnedBy (m : Metadata) (uid : String) : Bool :=
  (m.ownerReferences.getD []).any (·.uid = uid)

open Json.Kept in
/-- Which part of the resource was written by whom. -/
def managedFields : Json.Kept.Part := listOf <| recordOf
  [⟨"apiVersion", text, .omitted⟩, ⟨"fieldsType", text, .omitted⟩,
   ⟨"fieldsV1", anything, .omitted⟩, ⟨"manager", text, .omitted⟩, ⟨"operation", text, .omitted⟩,
   ⟨"subresource", text, .omitted⟩, ⟨"time", Timestamp.kept, .omitted⟩]

open Json.Kept in
def otherFields : List Json.Kept.Field :=
  [⟨"deletionGracePeriodSeconds", signed 64, .omitted⟩,
   ⟨"deletionTimestamp", Timestamp.kept, .omitted⟩,
   ⟨"managedFields", managedFields, .omitted⟩, ⟨"selfLink", text, .omitted⟩]

def ofDraft? (d : Json.Draft) : Option Metadata := do
  let fs : Json.Fields ← d.members?
  let stringMap? := Json.Draft.mapOf? Json.Draft.string?
  some
    { name := ← fs.last "name" Json.Draft.string?
      ns := ← fs.last "namespace" Json.Draft.string?
      labels := ← fs.last "labels" stringMap?
      annotations := ← fs.last "annotations" stringMap?
      uid := ← fs.last "uid" Json.Draft.string?
      generateName := ← fs.last "generateName" Json.Draft.string?
      creationTimestamp := ← fs.last "creationTimestamp" Timestamp.ofDraft?
      ownerReferences := ← fs.last "ownerReferences" (Json.Draft.listOf? OwnerReference.ofDraft?)
      finalizers := ← fs.last "finalizers" (Json.Draft.listOf? Json.Draft.string?)
      generation := ← fs.last "generation" (Json.Draft.signed? 64)
      resourceVersion := ← fs.last "resourceVersion" Json.Draft.string?
      others := ← Json.Kept.fields otherFields fs }

def toJson (m : Metadata) : Json := Json.record <|
  [("name", m.name.map .string),
   ("namespace", m.ns.map .string),
   ("labels", m.labels.map (Json.ofMap .string)),
   ("annotations", m.annotations.map (Json.ofMap .string)),
   ("uid", m.uid.map .string),
   ("generateName", m.generateName.map .string),
   ("creationTimestamp", m.creationTimestamp.map Timestamp.toJson),
   ("ownerReferences", m.ownerReferences.map fun rs => .array (rs.map OwnerReference.toJson)),
   ("finalizers", m.finalizers.map Json.ofStrings),
   ("generation", m.generation.map .integer),
   ("resourceVersion", m.resourceVersion.map .string)] ++ m.others

end Metadata

end TenantEndpoints
