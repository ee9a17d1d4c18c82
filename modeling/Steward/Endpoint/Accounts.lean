import Steward.Account
import Steward.Credential
import Steward.Net.Exchange
import Steward.Paging
/-!
# The account endpoint

The balance, the restrictions and the pages of transactions of the account whose credential is
shown.
-/

set_option autoImplicit false

namespace Steward

structure AccountEndpoint where
  /-- The address below which everything is found. -/
  base : String

namespace AccountEndpoint

def of (address : String) : AccountEndpoint := ⟨Text.dropTrailingSlashes address⟩

def draft (endpoint : AccountEndpoint) (path : String) (access : Secret)
    (headers : List (String × String)) : Net.Draft where
  method := "GET"
  address := endpoint.base ++ path
  headers := Net.bearerHeader access.expose :: headers
  body := ""

def balanceDraft (endpoint : AccountEndpoint) (access : Secret) : Net.Draft :=
  endpoint.draft "/users/me/wallet" access []

def restrictionsDraft (endpoint : AccountEndpoint) (access : Secret) : Net.Draft :=
  endpoint.draft "/users/me/restrictions" access []

def transactionsDraft (endpoint : AccountEndpoint) (access : Secret) (page size : Nat) :
    Net.Draft :=
  endpoint.draft "/users/me/wallet/transactions" access
    [("x-page", toString page), ("x-size", toString size)]

/-- The number of transactions on all pages, if the answer tells it in digits. -/
def total? (response : Net.Response) : Option Nat := do
  let named := response.headers.find? fun header => header.1.map Char.toLower == "x-total"
  let value ← named.map (·.2)
  if value.toList.all fun c => c == '\t' || (32 ≤ c.toNat && c.toNat < 127) then
    let digits := match Text.stripBoth Text.isBlank value.toList with
      | '+' :: digits => digits
      | digits => digits
    (Json.decimal? digits).filter (· < UInt64.size)
  else none

def balance (draft : Net.Draft) (reply : Net.Reply) : Except RemoteError Balance :=
  (draft.fetch "balance" reply).bind (·.content "balance" Balance.ofJson?)

def restrictions (draft : Net.Draft) (reply : Net.Reply) : Except RemoteError Restrictions :=
  (draft.fetch "restrictions" reply).bind (·.content "restrictions" Restrictions.ofJson?)

def transactions (draft : Net.Draft) (reply : Net.Reply) :
    Except RemoteError (Page Transaction) := do
  let response ← draft.fetch "transactions" reply
  let items ← response.content "transactions" Transaction.listOfJson?
  return ⟨items, total? response⟩

end AccountEndpoint

end Steward
