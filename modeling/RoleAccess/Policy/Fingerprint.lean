import RoleAccess.Digest.Sha256
import RoleAccess.Text.Utf8
import RoleAccess.Value.Canonical
set_option autoImplicit false

/-! # Fingerprints

Rules and ownership fields are identified by the SHA-256 digest of their canonical text, so
the fingerprint depends on what they say and not on the order they were given in.
-/

namespace RoleAccess.Fingerprint

/-- What stands in front of the digest. -/
def scheme : Text := "sha256:"

/-- Rules and ownership fields as one value. -/
def payload (rules ownerFields : Value) : Value :=
  .obj [("accessIdNames", ownerFields), ("rules", rules)]

/-- The canonical text that is digested. -/
def text (rules ownerFields : Value) : Except EncodingFault Text :=
  Canonical.text (payload rules ownerFields)

/-- The fingerprint of rules with ownership fields. The digest is taken of bytes, so the text
must have a UTF-8 form. -/
def compute (rules ownerFields : Value) : Except EncodingFault Text := do
  let text ← text rules ownerFields
  let bytes ← text.utf8.mapError EncodingFault.surrogates
  return scheme ++ Sha256.hexDigest bytes

end RoleAccess.Fingerprint
