import TenantEndpoints.Proofs.Json.Kept
import TenantEndpoints.Proofs.Timestamp
import TenantEndpoints.Resource.Basic

/-!
# Reading what is written

Routes and middlewares are written so that they are read as they were. What is read of
any value at all is written in a form that is read, and written, in the same way again:
whatever was left out, defaulted, sorted or passed over the first time makes no
difference the second time.
-/
namespace TenantEndpoints
open Json (ReadBack readBack_positional readBack_lenient readBack_list readBack_map
  readBack_option readBack_string readBack_bool)

theorem ObjectRef.readBack (r : ObjectRef) : ReadBack ofDraft? r.toJson r := by
  unfold ofDraft? toJson
  refine readBack_positional (by simp) fun ms h => ?_
  have hname : ms.required "name" Json.Draft.string? = some r.name :=
    h.required (by decide) rfl (readBack_string _)
  have hns : ms.optional "namespace" Json.Draft.string? = some r.ns :=
    h.optional (by decide) rfl (readBack_option fun s _ => readBack_string s)
  rw [hname, hns]
  rfl

theorem Port.readBack (port : Port) : ReadBack ofDraft? port.toJson port := by
  cases port with
  | name s => exact ⟨by simp [toJson, Json.canonical, ofDraft?], by simp [toJson, Json.canonical]⟩
  | number n =>
    have hbound : n.toNat < 65536 := n.toNat_lt
    have hread : Json.Draft.unsigned? 16 (.value (.integer n.toNat)) = some n.toNat := by
      simp [Json.Draft.unsigned?, Json.Draft.value?, Json.unsigned?, Json.integerWithin?]
      omega
    refine ⟨?_, by simp [toJson, Json.canonical]⟩
    simp only [toJson, Json.canonical, ofDraft?, hread, Option.map_some, UInt16.ofNat_toNat]

theorem BackendService.readBack (b : BackendService) : ReadBack ofDraft? b.toJson b := by
  unfold ofDraft? toJson
  refine readBack_positional (by simp) fun ms h => ?_
  have hname : ms.required "name" Json.Draft.string? = some b.name :=
    h.required (by decide) rfl (readBack_string _)
  have hns : ms.optional "namespace" Json.Draft.string? = some b.ns :=
    h.optional (by decide) rfl (readBack_option fun s _ => readBack_string s)
  have hport : ms.required "port" Port.ofDraft? = some b.port :=
    h.required (by decide) rfl b.port.readBack
  rw [hname, hns, hport]
  rfl

theorem RouteRule.readBack_kind : ReadBack kindOfDraft? (.string "Rule") () :=
  ⟨by simp [Json.canonical, kindOfDraft?], by simp [Json.canonical]⟩

theorem RouteRule.readBack (r : RouteRule) : ReadBack ofDraft? r.toJson r := by
  unfold ofDraft? toJson
  refine readBack_positional (by simp) fun ms h => ?_
  have htext : ms.required "match" Json.Draft.string? = some r.text :=
    h.required (by decide) rfl (readBack_string _)
  have hkind : ms.required "kind" kindOfDraft? = some () :=
    h.required (by decide) rfl readBack_kind
  have hmiddlewares : ms.defaulted "middlewares" (Json.Draft.listOf? ObjectRef.ofDraft?) [] =
      some r.middlewares :=
    h.defaulted_nonEmpty (by decide) rfl rfl fun ref _ => ref.readBack.reads
  have hservices : ms.defaulted "services" (Json.Draft.listOf? BackendService.ofDraft?) [] =
      some r.services :=
    h.defaulted (by decide) rfl (readBack_list fun b _ => b.readBack.reads)
  rw [htext, hkind, hmiddlewares, hservices]
  rfl

theorem Tls.readBack (t : Tls) : ReadBack ofDraft? t.toJson t := by
  unfold ofDraft? toJson
  refine readBack_positional (by simp) fun ms h => ?_
  have hsecret : ms.optional "secretName" Json.Draft.string? = some t.secretName :=
    h.optional (by decide) rfl (readBack_option fun s _ => readBack_string s)
  rw [hsecret]
  rfl

theorem RouteSpec.readBack (s : RouteSpec) : ReadBack ofDraft? s.toJson s := by
  unfold ofDraft? toJson
  refine readBack_positional (by simp) fun ms h => ?_
  have hentry : ms.defaulted "entryPoints" (Json.Draft.listOf? Json.Draft.string?) [] =
      some s.entryPoints :=
    h.defaulted_nonEmpty (by decide) rfl rfl fun text _ => (readBack_string text).reads
  have hrules : ms.required "routes" (Json.Draft.listOf? RouteRule.ofDraft?) = some s.rules :=
    h.required (by decide) rfl (readBack_list fun r _ => r.readBack.reads)
  have htls : ms.optional "tls" Tls.ofDraft? = some s.tls :=
    h.optional (by decide) rfl (readBack_option fun t _ => t.readBack)
  rw [hentry, hrules, htls]
  rfl

namespace MiddlewareSpec

/-- A member alone decides which middleware it is. -/
theorem readBack_of_kind {kind : String} (hkind : kind ∈ kindNames) {v : Json} {spec : MiddlewareSpec}
    (h : ofKind? kind (.value v.canonical) = some spec) :
    ReadBack ofDraft? (.object [(kind, v)]) spec := by
  have hcanonical : (Json.object [(kind, v)]).canonical = .object [(kind, v.canonical)] := by
    rw [Json.canonical, Json.canonicalMembers_eq_map]
    rfl
  refine ⟨?_, by rw [hcanonical]; exact fun he => nomatch he⟩
  rw [hcanonical]
  have hfound : [(kind, v.canonical)].find? (·.1 ∈ kindNames) = some (kind, v.canonical) := by
    simp [hkind]
  change (List.find? _ _).bind _ = _
  rw [hfound]
  exact h

/-- What has only one field is read back if the field is. -/
theorem readBack_single {α : Type} {read? : Json.Draft → Option α} {v : Json} {x : α}
    (name : String) (build : α → MiddlewareSpec) (h : ReadBack read? v x) :
    ReadBack (fun d => (d.positional? [name]).bind fun fs =>
      (fs.required name read?).bind fun x => some (build x)) (Json.record [(name, some v)]) (build x) := by
  refine readBack_positional (by simp) fun ms hms => ?_
  have hlookup : [(name, some v)].lookup name = some (some v) := by simp
  rw [hms.required List.mem_cons_self hlookup h]
  rfl

theorem payload_ofJson (p : Payload) : Payload.ofJson p.value.canonical = p := by
  obtain ⟨v, hv⟩ := p
  simp only [Payload.ofJson, hv]

theorem readBack (spec : MiddlewareSpec) : ReadBack ofDraft? spec.toJson spec := by
  cases spec with
  | stripPrefix prefixes =>
    have hprefixes : ReadBack (Json.Draft.listOf? Json.Draft.string?) (Json.ofStrings prefixes)
        prefixes := readBack_list fun text _ => (readBack_string text).reads
    exact readBack_of_kind (by decide) (readBack_single "prefixes" .stripPrefix hprefixes).reads
  | basicAuth secret =>
    exact readBack_of_kind (by decide)
      (readBack_single "secret" .basicAuth (readBack_string secret)).reads
  | plugin configs =>
    have hconfigs : ReadBack (Json.Draft.mapOf? fun c => c.value?.map Payload.ofJson)
        (Json.ofMap Payload.value configs) configs :=
      readBack_map fun e _ => congrArg some (payload_ofJson e.2)
    refine readBack_of_kind (by decide) ?_
    change Option.map _ (Json.Draft.mapOf? _ _) = _
    rw [hconfigs.reads]
    rfl

end MiddlewareSpec

theorem Timestamp.readBack {t : Timestamp} (h : t.Exists) (hyear : t.hasYear = true) :
    ReadBack ofDraft? t.toJson t := by
  refine ⟨?_, by simp [toJson, Json.canonical]⟩
  simp only [toJson, Json.canonical, ofDraft?, Json.Draft.string?, Json.Draft.value?,
    Option.bind_some, Json.string?, read?_text h hyear]

theorem Timestamp.exists_of_ofDraft? {d : Json.Draft} {t : Timestamp} (h : ofDraft? d = some t) :
    t.Exists ∧ t.hasYear = true := by
  obtain ⟨_, _, hread⟩ := Option.bind_eq_some_iff.1 h
  exact exists_of_read? hread

theorem Timestamp.stable_kept : Json.Kept.Stable kept :=
  Json.Kept.stable_map fun _ _ h => readBack (exists_of_ofDraft? h).1 (exists_of_ofDraft? h).2

theorem OwnerReference.readBack (r : OwnerReference) : ReadBack ofDraft? r.toJson r := by
  unfold ofDraft? toJson
  refine readBack_lenient (by simp) fun ms h => ?_
  have hversion : ms.last "apiVersion" Json.Draft.string? = some (some r.apiVersion) :=
    h.last trivial rfl (.some (readBack_string _))
  have hkind : ms.last "kind" Json.Draft.string? = some (some r.kind) :=
    h.last trivial rfl (.some (readBack_string _))
  have hname : ms.last "name" Json.Draft.string? = some (some r.name) :=
    h.last trivial rfl (.some (readBack_string _))
  have huid : ms.last "uid" Json.Draft.string? = some (some r.uid) :=
    h.last trivial rfl (.some (readBack_string _))
  have hblock : ms.last "blockOwnerDeletion" Json.Draft.bool? = some r.blockOwnerDeletion :=
    h.last trivial rfl (readBack_option fun b _ => readBack_bool b)
  have hcontroller : ms.last "controller" Json.Draft.bool? = some r.controller :=
    h.last trivial rfl (readBack_option fun b _ => readBack_bool b)
  rw [hversion, hkind, hname, huid, hblock, hcontroller]
  rfl

namespace Metadata
open Json.Kept

theorem sound_omitted {name : String} {part : Part} (h : Stable part) :
    Field.Sound ⟨name, part, .omitted⟩ :=
  ⟨h, fun _ he => nomatch he⟩

theorem stable_managedFields : Stable managedFields := by
  refine stable_listOf (stable_recordOf (by decide) ?_) rfl
  simp only [List.forall_mem_cons, List.not_mem_nil, false_imp_iff, implies_true, and_true]
  exact ⟨sound_omitted stable_text, sound_omitted stable_text, sound_omitted stable_anything,
    sound_omitted stable_text, sound_omitted stable_text, sound_omitted stable_text,
    sound_omitted Timestamp.stable_kept⟩

theorem sound_otherFields : ∀ f ∈ otherFields, f.Sound := by
  unfold otherFields
  simp only [List.forall_mem_cons, List.not_mem_nil, false_imp_iff, implies_true, and_true]
  exact ⟨sound_omitted (stable_map fun _ _ h => readBack_signed h),
    sound_omitted Timestamp.stable_kept, sound_omitted stable_managedFields,
    sound_omitted stable_text⟩

/-- What every metadata has that has been read. -/
structure Readable (m : Metadata) : Prop where
  timestamp (t : Timestamp) (h : m.creationTimestamp = some t) : t.Exists ∧ t.hasYear = true
  generation (n : Int) (h : m.generation = some n) : ∃ d : Json.Draft, d.signed? 64 = some n
  others : ∃ fs, Json.Kept.fields otherFields fs = some m.others

theorem readable_of_ofDraft? {d : Json.Draft} {m : Metadata} (h : ofDraft? d = some m) :
    m.Readable := by
  unfold ofDraft? at h
  obtain ⟨fs, _, h⟩ := Option.bind_eq_some_iff.1 h
  obtain ⟨name, _, h⟩ := Option.bind_eq_some_iff.1 h
  obtain ⟨ns, _, h⟩ := Option.bind_eq_some_iff.1 h
  obtain ⟨labels, _, h⟩ := Option.bind_eq_some_iff.1 h
  obtain ⟨annotations, _, h⟩ := Option.bind_eq_some_iff.1 h
  obtain ⟨uid, _, h⟩ := Option.bind_eq_some_iff.1 h
  obtain ⟨generateName, _, h⟩ := Option.bind_eq_some_iff.1 h
  obtain ⟨timestamp, htimestamp, h⟩ := Option.bind_eq_some_iff.1 h
  obtain ⟨owners, _, h⟩ := Option.bind_eq_some_iff.1 h
  obtain ⟨finalizers, _, h⟩ := Option.bind_eq_some_iff.1 h
  obtain ⟨generation, hgeneration, h⟩ := Option.bind_eq_some_iff.1 h
  obtain ⟨version, _, h⟩ := Option.bind_eq_some_iff.1 h
  obtain ⟨others, hothers, h⟩ := Option.bind_eq_some_iff.1 h
  obtain rfl := Option.some.inj h
  refine ⟨fun t ht => ?_, fun n hn => ?_, fs, hothers⟩
  · cases ht
    obtain ⟨_, _, hread⟩ := exists_of_last htimestamp
    exact Timestamp.exists_of_ofDraft? hread
  · cases hn
    obtain ⟨d', _, hread⟩ := exists_of_last hgeneration
    exact ⟨d', hread⟩

/-- The fields of a metadata beside those that it keeps. -/
def ownFields (m : Metadata) : List (String × Option Json) :=
  [("name", m.name.map .string),
   ("namespace", m.ns.map .string),
   ("labels", m.labels.map (Json.ofMap .string)),
   ("annotations", m.annotations.map (Json.ofMap .string)),
   ("uid", m.uid.map .string),
   ("generateName", m.generateName.map .string),
   ("creationTimestamp", m.creationTimestamp.map Timestamp.toJson),
   ("ownerReferences", m.ownerReferences.map fun rs => .array (rs.map OwnerReference.toJson)),
   ("finalizers", m.finalizers.map Json.ofStrings),
   ("generation", m.generation.map .integer),
   ("resourceVersion", m.resourceVersion.map .string)]

theorem toJson_eq (m : Metadata) : m.toJson = Json.record (m.ownFields ++ m.others) := rfl

theorem Readable.nodup_names {m : Metadata} (h : m.Readable) :
    ((m.ownFields ++ m.others).map (·.1)).Nodup := by
  obtain ⟨fs, hothers⟩ := h.others
  rw [List.map_append, names_of_fields hothers]
  unfold ownFields otherFields
  simp

theorem readBack {m : Metadata} (h : m.Readable) : ReadBack ofDraft? m.toJson m := by
  obtain ⟨fs, hothers⟩ := h.others
  have hstrings (labels : Labels) :
      ReadBack (Json.Draft.mapOf? Json.Draft.string?) (Json.ofMap .string labels) labels :=
    readBack_map fun e _ => (readBack_string e.2).reads
  rw [toJson_eq]
  unfold ofDraft?
  refine readBack_lenient h.nodup_names fun ms hms => ?_
  have htext {name : String} {text? : Option String}
      (hfield : List.lookup name _ = some (text?.map Json.string)) :
      ms.last name Json.Draft.string? = some text? :=
    hms.last trivial hfield (readBack_option fun s _ => readBack_string s)
  have hmap {name : String} {map? : Option Labels}
      (hfield : List.lookup name _ = some (map?.map (Json.ofMap Json.string))) :
      ms.last name (Json.Draft.mapOf? Json.Draft.string?) = some map? :=
    hms.last trivial hfield (readBack_option fun labels _ => hstrings labels)
  have htimestamp : ms.last "creationTimestamp" Timestamp.ofDraft? = some m.creationTimestamp :=
    hms.last trivial rfl (readBack_option fun t ht =>
      Timestamp.readBack (h.timestamp t ht).1 (h.timestamp t ht).2)
  have howners : ms.last "ownerReferences" (Json.Draft.listOf? OwnerReference.ofDraft?) =
      some m.ownerReferences :=
    hms.last trivial rfl (readBack_option fun rs _ => readBack_list fun r _ => r.readBack.reads)
  have hfinalizers : ms.last "finalizers" (Json.Draft.listOf? Json.Draft.string?) =
      some m.finalizers :=
    hms.last trivial rfl (readBack_option fun ss _ =>
      readBack_list fun s _ => (readBack_string s).reads)
  have hgeneration : ms.last "generation" (Json.Draft.signed? 64) = some m.generation :=
    hms.last trivial rfl (readBack_option fun n hn =>
      readBack_signed (h.generation n hn).choose_spec)
  have hkept : Json.Kept.fields otherFields ms = some m.others :=
    fields_of_written sound_otherFields hms (fun _ _ => trivial)
      (fun e he => SortedMap.lookup_of_mem h.nodup_names (List.mem_append_right _ he)) hothers
  dsimp only
  rw [htext rfl, htext rfl, hmap rfl, hmap rfl, htext rfl, htext rfl, htimestamp, howners,
    hfinalizers, hgeneration, htext rfl, hkept]
  rfl

end Metadata

/-- A resource that is read as its metadata and one more field is read back if both are. -/
theorem Resource.readBack {k : Kind} (readSpec? : Json.Draft → Option k.Spec)
    (writeSpec : k.Spec → Json)
    (hread : ofDraft? k = fun d => (d.positional? ["metadata", "spec"]).bind fun fs =>
      (fs.required "metadata" Metadata.ofDraft?).bind fun m =>
        (fs.required "spec" readSpec?).bind fun s => some ⟨m, s⟩)
    (hwrite : ∀ s : k.Spec, specFields s = [("spec", some (writeSpec s))])
    (hspec : ∀ s, ReadBack readSpec? (writeSpec s) s) {d : Json.Draft} {r : Resource k}
    (h : ofDraft? k d = some r) : ReadBack (ofDraft? k) r.toJson r := by
  have hmetadata : r.metadata.Readable := by
    rw [hread] at h
    obtain ⟨fs, _, h⟩ := Option.bind_eq_some_iff.1 h
    obtain ⟨m, hm, h⟩ := Option.bind_eq_some_iff.1 h
    obtain ⟨s, _, h⟩ := Option.bind_eq_some_iff.1 h
    cases h
    obtain ⟨d', _, hd'⟩ := Option.bind_eq_some_iff.1 hm
    exact Metadata.readable_of_ofDraft? hd'
  rw [hread, toJson, hwrite]
  refine readBack_positional (by simp) fun ms hms => ?_
  have hm : ms.required "metadata" Metadata.ofDraft? = some r.metadata :=
    hms.required (by decide) rfl (Metadata.readBack hmetadata)
  have hs : ms.required "spec" readSpec? = some r.spec := hms.required (by decide) rfl (hspec r.spec)
  rw [hm, hs]
  rfl

/-- The forms in which values are read and written again. -/
inductive Form
  | ingressRoute
  | routeSpec
  | rule
  | port
  | ref
  | middleware
  | middlewareSpec

namespace Form

def Value : Form → Type
  | .ingressRoute => IngressRoute
  | .routeSpec => RouteSpec
  | .rule => RouteRule
  | .port => Port
  | .ref => ObjectRef
  | .middleware => Middleware
  | .middlewareSpec => MiddlewareSpec

def read? : (f : Form) → Json.Draft → Option f.Value
  | .ingressRoute => Resource.ofDraft? .ingressRoute
  | .routeSpec => RouteSpec.ofDraft?
  | .rule => RouteRule.ofDraft?
  | .port => Port.ofDraft?
  | .ref => ObjectRef.ofDraft?
  | .middleware => Resource.ofDraft? .middleware
  | .middlewareSpec => MiddlewareSpec.ofDraft?

def write : (f : Form) → f.Value → Json
  | .ingressRoute => Resource.toJson (k := .ingressRoute)
  | .routeSpec => RouteSpec.toJson
  | .rule => RouteRule.toJson
  | .port => Port.toJson
  | .ref => ObjectRef.toJson
  | .middleware => Resource.toJson (k := .middleware)
  | .middlewareSpec => MiddlewareSpec.toJson

/-- Reads a value, whose objects have their members sorted, and writes what was read. -/
def decode (f : Form) (v : Json) : Option Json := (f.read? (.value v.canonical)).map f.write

theorem readBack {f : Form} {d : Json.Draft} {x : f.Value} (h : f.read? d = some x) :
    ReadBack f.read? (f.write x) x := by
  cases f with
  | ingressRoute =>
    exact Resource.readBack (k := .ingressRoute) RouteSpec.ofDraft? RouteSpec.toJson rfl
      (fun _ => rfl) RouteSpec.readBack h
  | routeSpec => exact RouteSpec.readBack x
  | rule => exact RouteRule.readBack x
  | port => exact Port.readBack x
  | ref => exact ObjectRef.readBack x
  | middleware =>
    exact Resource.readBack (k := .middleware) MiddlewareSpec.ofDraft? MiddlewareSpec.toJson rfl
      (fun _ => rfl) MiddlewareSpec.readBack h
  | middlewareSpec => exact MiddlewareSpec.readBack x

end Form

/-- Whatever is written of a route, of its parts or of a middleware is read as it was; and
what is written of anything that can be read at all, metadata included, is read again and
written as the same. -/
theorem written_as_read :
    (∀ s : RouteSpec, RouteSpec.ofDraft? (.value s.toJson.canonical) = some s) ∧
    (∀ r : RouteRule, RouteRule.ofDraft? (.value r.toJson.canonical) = some r) ∧
    (∀ b : BackendService, BackendService.ofDraft? (.value b.toJson.canonical) = some b) ∧
    (∀ port : Port, Port.ofDraft? (.value port.toJson.canonical) = some port) ∧
    (∀ r : ObjectRef, ObjectRef.ofDraft? (.value r.toJson.canonical) = some r) ∧
    (∀ s : MiddlewareSpec, MiddlewareSpec.ofDraft? (.value s.toJson.canonical) = some s) ∧
    ∀ (f : Form) (v w : Json), f.decode v = some w → f.decode w = some w := by
  refine ⟨fun s => s.readBack.reads, fun r => r.readBack.reads, fun b => b.readBack.reads,
    fun port => port.readBack.reads, fun r => r.readBack.reads, fun s => s.readBack.reads,
    fun f v w h => ?_⟩
  obtain ⟨x, hx, rfl⟩ := Option.map_eq_some_iff.1 h
  exact congrArg (Option.map f.write) (Form.readBack hx).reads

/-- A middleware as a list of its fields, whose metadata has a local time, a `null`, an
unknown field and an owner without its fields, and whose text names two kinds at once. -/
theorem odd_middleware_written_as_read :
    let metadata : Json := .object
      [("name", .string "one"), ("creationTimestamp", .string "2024-02-29T23:30:00.5-01:00"),
        ("labels", .null), ("color", .real 0), ("ownerReferences", .array [.object []])]
    let spec : Json := .object
      [("stripPrefix", .object [("prefixes", .array [])]), ("basicAuth", .array [.string "s"])]
    let owner : Json := .object [("apiVersion", .string ""), ("kind", .string ""),
      ("name", .string ""), ("uid", .string "")]
    let w : Json := .object
      [("apiVersion", .string "traefik.containo.us/v1alpha1"), ("kind", .string "Middleware"),
        ("metadata", .object [("name", .string "one"),
          ("creationTimestamp", .string "2024-03-01T00:30:00Z"), ("ownerReferences", .array [owner])]),
        ("spec", .object [("basicAuth", .object [("secret", .string "s")])])]
    Form.middleware.decode (.array [metadata, spec]) = some w ∧ Form.middleware.decode w = some w := by
  intro metadata spec owner w
  have hw : Form.middleware.decode (.array [metadata, spec]) = some w := by
    rfl
  exact ⟨hw, written_as_read.2.2.2.2.2.2 .middleware _ w hw⟩

end TenantEndpoints
