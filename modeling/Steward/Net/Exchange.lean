import Steward.Failure
import Steward.Json.Reader
import Steward.Net.Base64
import Steward.Net.Status
import Steward.Net.Url
import Steward.Text.Blank
/-!
# One request and its answer

A request is drafted, built, sent, and its answer is taken apart.  A draft that cannot be built is
never sent.  Whatever keeps the answer from coming may pass; an answer that is not what was asked
for will not change.
-/

set_option autoImplicit false

namespace Steward.Net

/-- Why there is no answer, or no use in it.  A request is not built for an address that is none or
a header that cannot be sent, and leads nowhere with a scheme that is none of the web or a host
that cannot be asked. -/
inductive TransportFailure where
  | unbuilt
  | unreachable (url : String)
  | unsent (url : String)
  | undecoded (url : String)
  deriving DecidableEq, Repr

namespace TransportFailure

def message : TransportFailure → String
  | .unbuilt => "builder error"
  | .unreachable url => "builder error for url (" ++ url ++ ")"
  | .unsent url => "error sending request for url (" ++ url ++ ")"
  | .undecoded url => "error decoding response body for url (" ++ url ++ ")"

def classification : TransportFailure → Classification
  | .unsent _ => .transient
  | .unbuilt | .unreachable _ | .undecoded _ => .permanent

end TransportFailure

structure Draft where
  method : String
  address : String
  headers : List (String × String)
  body : String

structure Request where
  method : String
  url : Url
  headers : List (String × String)
  body : String

def Request.header? (request : Request) (name : String) : Option String :=
  request.headers.lookup name

def Request.isEncrypted (request : Request) : Bool := request.url.scheme == "https"

def basicHeader (username : String) (password : Option String) : String × String :=
  ("authorization", "Basic " ++ String.ofList
    (Base64.encode (Utf8.encode (username ++ ":" ++ password.getD ""))))

def bearerHeader (token : String) : String × String := ("authorization", "Bearer " ++ token)

def isHeaderValue (value : String) : Bool :=
  value.toList.all fun c => c == '\t' || (32 ≤ c.toNat && c.toNat != 127)

def percentDecoded? (text : String) : Option String :=
  Utf8.decode? (Percent.decode text.toList)

def withUser (url : Url) : Url × List (String × String) :=
  match url.isKnown, percentDecoded? url.username with
  | true, some username =>
    (url.anonymous, [basicHeader username (url.password.bind percentDecoded?)])
  | _, _ => (url, [])

def isWebScheme (scheme : String) : Bool := scheme == "http" || scheme == "https"

def Draft.build (draft : Draft) : Except TransportFailure Request :=
  match Url.ofText? draft.address with
  | none => .error .unbuilt
  | some url =>
    let (url, user) := withUser url
    if !url.hasHost then .error (.unreachable url.shown)
    else if !draft.headers.all fun header => isHeaderValue header.2 then .error .unbuilt
    else if !(isWebScheme url.scheme && url.canBeAsked) then .error (.unreachable url.shown)
    else .ok ⟨draft.method, url, user ++ draft.headers, draft.body⟩

/-! ## Answers -/

/-- What comes back in the end, after all redirections that are followed: nothing in time, or an
answer, which breaks off inside the body unless it is complete.  It comes from a server that has
its connections encrypted, or from one that has not. -/
inductive Reply where
  | dropped
  | answered (status : Nat) (headers : List (String × String)) (body : Utf8.Octets)
      (complete : Bool) (encrypted : Bool := false)

structure Response where
  url : Url
  status : Nat
  headers : List (String × String)
  body : Option Utf8.Octets

def isBodiless (status : Nat) : Bool := status == 204 || status == 304

/-- Sends a request to a server that would reply so.  The two have to agree on encryption. -/
def Request.send (request : Request) : Reply → Except TransportFailure Response
  | .dropped => .error (.unsent request.url.shown)
  | .answered status headers body complete encrypted =>
    if request.isEncrypted = encrypted then
      .ok ⟨request.url, status, headers,
        if isBodiless status then some [] else if complete then some body else none⟩
    else .error (.unsent request.url.shown)

def Response.text (response : Response) : String :=
  match response.body with
  | some body => Utf8.decodeLossy body
  | none => "<no body>"

def Response.decode {α : Type} (read : Json → Option α) (response : Response) :
    Except TransportFailure α :=
  match response.body.bind fun body => (Json.ofOctets? body).bind read with
  | some value => .ok value
  | none => .error (.undecoded response.url.shown)

/-- The request that a draft leads to, if it reaches the server. -/
def Draft.seen? (draft : Draft) (encrypted : Bool := false) : Option Request :=
  draft.build.toOption.filter (·.isEncrypted == encrypted)

def Draft.fetch (context : String) (draft : Draft) (reply : Reply) :
    Except RemoteError Response :=
  match draft.build.bind fun request => request.send reply with
  | .error failure =>
    .error ⟨failure.classification, context ++ " request failed: " ++ failure.message⟩
  | .ok response =>
    if isSuccess response.status then .ok response
    else .error (responseError context response.status response.text)

def Response.content {α : Type} (context : String) (read : Json → Option α)
    (response : Response) : Except RemoteError α :=
  (response.decode read).mapError fun failure =>
    ⟨.permanent, "invalid " ++ context ++ " response: " ++ failure.message⟩

end Steward.Net
