import Steward.Credential
/-!
# Answers of the token endpoint
-/

set_option autoImplicit false

namespace Steward

/-- What the token endpoint grants. -/
structure TokenGrant where
  access : String
  refresh : String
  /-- Seconds of validity from the time of the answer. -/
  expiresIn : UInt64
  /-- The granted scope, if it is not simply the one asked for. -/
  scope : Option String
  deriving DecidableEq

namespace TokenGrant

def credential (grant : TokenGrant) (requestedScope : String) (now : Instant) : Credential :=
  .issue grant.access grant.refresh (grant.scope.getD requestedScope) now
    (.ofSeconds grant.expiresIn.toNat)

def fieldNames : List String := ["access_token", "refresh_token", "expires_in", "scope"]

def json (grant : TokenGrant) : Json :=
  .record [("access_token", .ofText grant.access), ("refresh_token", .ofText grant.refresh),
    ("expires_in", .ofNat grant.expiresIn.toNat), ("scope", .ofOption .ofText grant.scope)]

/-- A text, or `null` for the absent one. -/
def scope? : Json → Option (Option String)
  | .null => some none
  | json => json.text?.map some

def ofJson? (json : Json) : Option TokenGrant :=
  match Record.fields? fieldNames json with
  | some [access, refresh, expiresIn, scope] => do
    let access ← Record.required Json.text? access
    let refresh ← Record.required Json.text? refresh
    let expiresIn ← Record.required Json.word? expiresIn
    let scope ← Record.defaulted none scope? scope
    return ⟨access, refresh, expiresIn, scope⟩
  | _ => none

end TokenGrant

end Steward
