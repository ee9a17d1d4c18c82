import Steward.Credential.Token
import Steward.Net.Exchange
/-!
# The token endpoint

Credentials are obtained by a password, and exchanged for new ones by their refresh tokens.
-/

set_option autoImplicit false

namespace Steward

structure TokenEndpoint where
  address : String
  clientId : String
  clientSecret : Secret

namespace TokenEndpoint

def draft (endpoint : TokenEndpoint) (fields : List (String × String)) : Net.Draft where
  method := "POST"
  address := endpoint.address
  headers := [Net.basicHeader endpoint.clientId (some endpoint.clientSecret.expose),
    ("content-type", "application/x-www-form-urlencoded")]
  body := Percent.form fields

def loginDraft (endpoint : TokenEndpoint) (username : String) (password : Secret)
    (scope : String) : Net.Draft :=
  endpoint.draft [("grant_type", "password"), ("username", username),
    ("password", password.expose), ("scope", scope)]

def refreshDraft (endpoint : TokenEndpoint) (credential : Credential) : Net.Draft :=
  endpoint.draft [("grant_type", "refresh_token"),
    ("refresh_token", credential.refresh.expose), ("scope", credential.scope)]

def loginContext : String := "password login"

def refreshContext : String := "token refresh"

def credential (context : String) (draft : Net.Draft) (reply : Net.Reply) (scope : String)
    (now : Instant) : Except AuthError Credential :=
  let grant := (draft.fetch context reply).bind fun response =>
    response.content context TokenGrant.ofJson?
  match grant with
  | .ok grant => .ok (grant.credential scope now)
  | .error error => .error (.ofRemote error)

def login (endpoint : TokenEndpoint) (username : String) (password : Secret) (scope : String)
    (reply : Net.Reply) (now : Instant) : Except AuthError Credential :=
  credential loginContext (endpoint.loginDraft username password scope) reply scope now

def refresh (endpoint : TokenEndpoint) (held : Credential) (reply : Net.Reply) (now : Instant) :
    Except AuthError Credential :=
  credential refreshContext (endpoint.refreshDraft held) reply held.scope now

end TokenEndpoint

end Steward
