import Steward.Record
/-!
# What the account service tells

Amounts are in minor units of the currency.
-/

set_option autoImplicit false

namespace Steward

structure Balance where
  available : Int64
  blocked : Int64
  currency : String
  deriving DecidableEq

structure Restrictions where
  investingAllowed : Bool
  minimumAmount : Int64
  maximumAmount : Int64
  deriving DecidableEq

structure Transaction where
  id : UInt64
  amount : Int64
  category : String
  date : String
  deriving DecidableEq

def Balance.json (balance : Balance) : Json :=
  .record [("available", .ofInt balance.available.toInt),
    ("blocked", .ofInt balance.blocked.toInt), ("currency", .ofText balance.currency)]

def Balance.ofJson? (json : Json) : Option Balance :=
  match Record.fields? ["available", "blocked", "currency"] json with
  | some [available, blocked, currency] => do
    let available ← Record.required Json.int64? available
    let blocked ← Record.required Json.int64? blocked
    let currency ← Record.required Json.text? currency
    return ⟨available, blocked, currency⟩
  | _ => none

def Restrictions.json (restrictions : Restrictions) : Json :=
  .record [("investingAllowed", .boolean restrictions.investingAllowed),
    ("minimumAmount", .ofInt restrictions.minimumAmount.toInt),
    ("maximumAmount", .ofInt restrictions.maximumAmount.toInt)]

def Restrictions.ofJson? (json : Json) : Option Restrictions :=
  match Record.fields? ["investingAllowed", "minimumAmount", "maximumAmount"] json with
  | some [allowed, minimum, maximum] => do
    let allowed ← Record.required Json.boolean? allowed
    let minimum ← Record.required Json.int64? minimum
    let maximum ← Record.required Json.int64? maximum
    return ⟨allowed, minimum, maximum⟩
  | _ => none

def Transaction.json (transaction : Transaction) : Json :=
  .record [("id", .ofNat transaction.id.toNat), ("amount", .ofInt transaction.amount.toInt),
    ("category", .ofText transaction.category), ("date", .ofText transaction.date)]

def Transaction.ofJson? (json : Json) : Option Transaction :=
  match Record.fields? ["id", "amount", "category", "date"] json with
  | some [id, amount, category, date] => do
    let id ← Record.required Json.word? id
    let amount ← Record.required Json.int64? amount
    let category ← Record.required Json.text? category
    let date ← Record.required Json.text? date
    return ⟨id, amount, category, date⟩
  | _ => none

def Transaction.listOfJson? (json : Json) : Option (List Transaction) := do
  (← json.items?).mapM Transaction.ofJson?

end Steward
