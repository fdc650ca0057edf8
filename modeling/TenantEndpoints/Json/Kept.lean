import TenantEndpoints.Json.Record

/-!
# Kept parts

Parts of a record that nobody here looks at are kept: what was read of them is
written again. They still have to be of their type, fields that are not known
are dropped from them, and fields that must be there are written even when they
were missing. A part that may be kept is known by the function that reads it as
the value to write.
-/
namespace TenantEndpoints.Json.Kept

/-- Reads a part as the value to write. -/
abbrev Part := Draft → Option Json

def text : Part := fun d => d.string?.map .string

def flag : Part := fun d => d.bool?.map .bool

/-- A signed word of `bits` bits. -/
def signed (bits : Nat) : Part := fun d => (d.signed? bits).map .integer

/-- A signed word of 32 bits, or a text. -/
def numberOrText : Part := fun d => signed 32 d <|> text d

def anything : Part := fun d => d.value?.map canonical

def listOf (item : Part) : Part := fun d => (d.listOf? item).map .array

def mapOf (entry : Part) : Part := fun d => (d.mapOf? entry).map fun m => .object m.entries

/-- What becomes of a field that is missing. -/
inductive Missing
  | omitted
  | written (v : Json)
  | refused

/-- A field of a lenient record that is kept. -/
structure Field where
  name : String
  part : Part
  missing : Missing := .omitted

/-- What is to be written of a field, if anything is. -/
def Field.read? (f : Field) (fs : Fields) : Option (Option Json) := do
  match ← fs.last f.name f.part with
  | some v => some (some v)
  | none => match f.missing with
    | .omitted => some none
    | .written v => some (some v)
    | .refused => none

/-- What is to be written of some fields. -/
def fields (known : List Field) (fs : Fields) : Option (List (String × Option Json)) :=
  known.mapM fun f => (f.read? fs).map fun v? => (f.name, v?)

/-- A lenient record all of which is kept. -/
def recordOf (known : List Field) : Part := fun d =>
  (d.members?.bind (fields known)).map record

end TenantEndpoints.Json.Kept
