import TenantEndpoints.Endpoint.Children
import TenantEndpoints.Proofs.SortedMap
import TenantEndpoints.Proofs.Text.Utf8

/-!
# Credentials that were stored

A secret is submitted with texts and stored with their bytes. The credentials
that are read from the stored form are the ones it was made with.
-/
namespace TenantEndpoints

namespace Secret

/-- In the stored form each text is under its key as bytes. -/
theorem find?_stored {s : SecretSpec} {texts : SortedMap String String} (hdata : s.data = none)
    (htexts : s.stringData = some texts) (key : String) :
    (s.stored.data.getD ∅).find? key = (texts.find? key).map Text.Utf8.encode := by
  simp only [SecretSpec.stored, htexts, hdata, Option.getD_none, Option.getD_some]
  exact SortedMap.find?_insertAll_map Text.Utf8.encode texts key

end Secret

/-- What a secret with credentials is submitted with. -/
def SecretSpec.ofCredentials (c : Credentials) : SecretSpec :=
  { type := some Endpoint.basicAuthSecretType
    immutable := some true
    stringData := some (SortedMap.ofList [("username", c.username), ("password", c.password)]) }

namespace Credentials
variable {s : Secret}

/-- A text under a key of a submitted secret is read from it, and from its stored form. -/
theorem field_eq_ok {spec : SecretSpec} {texts : SortedMap String String} {key text : String}
    (hspec : s.spec = spec ∨ s.spec = spec.stored) (hdata : spec.data = none)
    (htexts : spec.stringData = some texts) (hkey : texts.find? key = some text) :
    field s key = .ok text := by
  unfold field
  rcases hspec with hspec | hspec
  · have hnone : (spec.data.getD ∅).find? key = none := by
      rw [hdata]
      rfl
    simp only [hspec, hnone, htexts, Option.getD_some, hkey]
  · have hsome : (spec.stored.data.getD ∅).find? key = some (Text.Utf8.encode text) := by
      rw [Secret.find?_stored hdata htexts, hkey]
      rfl
    simp only [hspec, hsome, Text.Utf8.decode_encode]
    rfl

/-- Credentials are read from what they were submitted with, and from its stored form. -/
theorem ofSecret_of_spec {c : Credentials}
    (h : s.spec = .ofCredentials c ∨ s.spec = (SecretSpec.ofCredentials c).stored) :
    ofSecret s = .ok c := by
  have husername : (SortedMap.ofList
      [("username", c.username), ("password", c.password)]).find? "username" =
        some c.username := by
    simp [SortedMap.ofList, SortedMap.insertAll, SortedMap.find?_insert]
  have hpassword : (SortedMap.ofList
      [("username", c.username), ("password", c.password)]).find? "password" =
        some c.password := by
    simp [SortedMap.ofList, SortedMap.insertAll]
  unfold ofSecret
  rw [field_eq_ok h rfl rfl husername, field_eq_ok h rfl rfl hpassword]
  rfl

theorem ofSecret_stored (route : IngressRoute) (owner : OwnerReference) (c : Credentials)
    (uid : String) :
    ofSecret ((Endpoint.basicAuthSecret route owner c).stored.withUid uid) = .ok c :=
  ofSecret_of_spec (.inr rfl)

end Credentials

end TenantEndpoints
