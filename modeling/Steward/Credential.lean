import Steward.Duration
import Steward.Record
import Steward.Secret
import Steward.Text.Quoted
/-!
# Credentials

A credential carries the token for calls, the token for obtaining the next credential, and the
instants at which it was issued and expires.  Instants count milliseconds since 1970 in sixty-four
bits.
-/

set_option autoImplicit false

namespace Steward

abbrev Instant := UInt64

def Instant.latest : Nat := 18446744073709551615

structure Credential where
  access : Secret
  refresh : Secret
  scope : String
  issuedAt : Instant
  expiresAt : Instant
  deriving DecidableEq

namespace Credential

/-- A credential that is valid for `lifetime` from `issuedAt` on.  The lifetime counts in whole
milliseconds modulo 2^64, and the sum stops at the latest instant. -/
def issue (access refresh scope : String) (issuedAt : Instant) (lifetime : Duration) :
    Credential where
  access := .conceal access
  refresh := .conceal refresh
  scope := scope
  issuedAt := issuedAt
  expiresAt :=
    UInt64.ofNat (min (issuedAt.toNat + lifetime.millis % UInt64.size) Instant.latest)

def lifetime (credential : Credential) : Duration :=
  .ofMillis (credential.expiresAt.toNat - credential.issuedAt.toNat)

def remaining (credential : Credential) (now : Instant) : Duration :=
  .ofMillis (credential.expiresAt.toNat - now.toNat)

def isExpired (credential : Credential) (now : Instant) : Bool := credential.expiresAt ≤ now

def shown (credential : Credential) : String :=
  "Credential \x7b access: " ++ credential.access.shown ++ ", refresh: "
    ++ credential.refresh.shown ++ ", scope: " ++ Text.quoted credential.scope ++ ", issued_at: "
    ++ toString credential.issuedAt.toNat ++ ", expires_at: "
    ++ toString credential.expiresAt.toNat ++ " \x7d"

/-! ## Documents -/

def fieldNames : List String := ["access", "refresh", "scope", "issued_at", "expires_at"]

def json (credential : Credential) : Json :=
  .record [("access", credential.access.json), ("refresh", credential.refresh.json),
    ("scope", .ofText credential.scope), ("issued_at", .ofNat credential.issuedAt.toNat),
    ("expires_at", .ofNat credential.expiresAt.toNat)]

def ofJson? (json : Json) : Option Credential :=
  match Record.fields? fieldNames json with
  | some [access, refresh, scope, issuedAt, expiresAt] => do
    let access ← Record.required Json.text? access
    let refresh ← Record.required Json.text? refresh
    let scope ← Record.required Json.text? scope
    let issuedAt ← Record.required Json.word? issuedAt
    let expiresAt ← Record.required Json.word? expiresAt
    return ⟨.conceal access, .conceal refresh, scope, issuedAt, expiresAt⟩
  | _ => none

end Credential

end Steward
