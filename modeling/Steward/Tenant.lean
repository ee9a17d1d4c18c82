import Steward.Cache
import Steward.Notice
/-!
# The account as listeners hear of it

The balance and the restrictions of the account are cached.  A computation that succeeds stores its
value, and then shows it to an announcer, which tells listeners if it differs from the value that
was announced last.  The next computation is let in only after that.
-/

set_option autoImplicit false

namespace Steward

structure Announced (V E : Type) where
  cache : Cache V E
  announcer : Announcer V
  unseen : Option V

namespace Announced

variable {V E : Type}

inductive Event (V E : Type) where
  | cache (event : Cache.Event V E)
  | announce

inductive Reply (V E : Type) where
  | cache (reply : Cache.Reply V E)
  | announced (change : Option (Option V × V))
  | refused

def Reply.change? : Reply V E → Option (Option V × V)
  | .announced change => change
  | _ => none

def new (ttl : Option Duration) : Announced V E := ⟨.new ttl, ⟨none⟩, none⟩

/-- Whether the event would let somebody inside whose turn has not come. -/
def isEarly (announced : Announced V E) : Cache.Event V E → Bool
  | .enter .. => announced.unseen.isSome
  | _ => false

def step [DecidableEq V] (announced : Announced V E) : Event V E → Announced V E × Reply V E
  | .cache event =>
    if announced.isEarly event then (announced, .cache .wait)
    else
      let (cache, reply) := announced.cache.step event
      ({ announced with cache := cache, unseen := reply.news?.or announced.unseen },
        .cache reply)
  | .announce =>
    match announced.unseen with
    | none => (announced, .refused)
    | some value =>
      let (announcer, change) := announced.announcer.observe value
      ({ announced with announcer := announcer, unseen := none }, .announced change)

end Announced

structure Tenant where
  balance : Announced Balance AccountError
  restrictions : Announced Restrictions AccountError

namespace Tenant

inductive Event where
  | balance (event : Announced.Event Balance AccountError)
  | restrictions (event : Announced.Event Restrictions AccountError)

inductive Reply where
  | balance (reply : Announced.Reply Balance AccountError)
  | restrictions (reply : Announced.Reply Restrictions AccountError)

def Reply.notice? : Reply → Option Notice
  | .balance reply => reply.change?.map fun (previous, current) => .balanceChanged previous current
  | .restrictions reply => reply.change?.map fun (_, current) => .restrictionsChanged current

def new (balanceTtl restrictionsTtl : Option Duration) : Tenant :=
  ⟨.new balanceTtl, .new restrictionsTtl⟩

def step (tenant : Tenant) : Event → Tenant × Reply
  | .balance event =>
    let (balance, reply) := tenant.balance.step event
    ({ tenant with balance := balance }, .balance reply)
  | .restrictions event =>
    let (restrictions, reply) := tenant.restrictions.step event
    ({ tenant with restrictions := restrictions }, .restrictions reply)

def cachedBalance (tenant : Tenant) : Option Balance := tenant.balance.cache.value

def cachedRestrictions (tenant : Tenant) : Option Restrictions := tenant.restrictions.cache.value

def failures (tenant : Tenant) : List AccountError :=
  tenant.balance.cache.lastFailure.toList ++ tenant.restrictions.cache.lastFailure.toList

end Tenant

end Steward
