import Steward.Json.Printer
import Steward.Simulation.Steps
/-!
# Routines that read and fill caches
-/

set_option autoImplicit false

namespace Steward

/-- A reply in terms of other values and failures. -/
def Cache.Reply.map {V E V' E' : Type} (value : V → V') (failure : E → E') :
    Cache.Reply V E → Cache.Reply V' E'
  | .shown current start => .shown (current.map value) start
  | .join => .join
  | .wait => .wait
  | .load ticket => .load ticket
  | .served result => .served ((result.map value).mapError failure)
  | .completed result reader => .completed ((result.map value).mapError failure) reader
  | .done => .done
  | .refused => .refused

namespace Simulation

def updateShelf (index : Nat) (change : Shelf → Shelf) : Run Unit :=
  update fun world => { world with shelves := world.shelves.modify index change }

def World.gate? (world : World) : Spot → Option Turnstile
  | .shelf index => (world.shelves[index]?).map (·.cache.gate)
  | .balance => some world.tenant.balance.cache.gate
  | .restrictions => some world.tenant.restrictions.cache.gate

def World.follower? (world : World) (index : Nat) : Option Follower :=
  (world.shelves[index]?).map (·.follower)

def World.cacheName (world : World) : Spot → String
  | .shelf index => ((world.shelves[index]?).map (·.name)).getD ""
  | .balance => Operation.balance.name
  | .restrictions => Operation.restrictions.name

def stepShelf (self index : Nat) (event : Cache.Event Item Fault) :
    Run (Cache.Reply Item Fault) := do
  match (← world).shelves[index]? with
  | none => return .refused
  | some shelf =>
    let (cache, reply) := shelf.cache.step event
    updateShelf index fun shelf => { shelf with cache := cache }
    wakeHolder self shelf.cache.gate cache.gate
    return reply

/-- Lets an event happen to the caches of the account. -/
def stepAccount (self : Nat) (event : Tenant.Event) : Run (Cache.Reply Item Fault) := do
  match ← stepCrew self 0 (.account event) with
  | .account (.balance (.cache reply)) => return reply.map .balance .account
  | .account (.restrictions (.cache reply)) => return reply.map .restrictions .account
  | _ => return .refused

/-- Lets an event happen to a cache, of whatever values. -/
def stepCache (self : Nat) (spot : Spot) (event : ∀ {V E : Type}, Cache.Event V E) :
    Run (Cache.Reply Item Fault) :=
  match spot with
  | .shelf index => stepShelf self index event
  | .balance => stepAccount self (.balance (.cache event))
  | .restrictions => stepAccount self (.restrictions (.cache event))

def stepLoaded (self : Nat) (spot : Spot) (result : Except Fault Item) :
    Run (Cache.Reply Item Fault) := do
  let now ← clock
  match spot, result with
  | .shelf index, result => stepShelf self index (.loaded self result now)
  | .balance, .ok (.balance balance) =>
    stepAccount self (.balance (.cache (.loaded self (.ok balance) now)))
  | .balance, .error (.account error) =>
    stepAccount self (.balance (.cache (.loaded self (.error error) now)))
  | .restrictions, .ok (.restrictions restrictions) =>
    stepAccount self (.restrictions (.cache (.loaded self (.ok restrictions) now)))
  | .restrictions, .error (.account error) =>
    stepAccount self (.restrictions (.cache (.loaded self (.error error) now)))
  | _, _ => return .refused

def cacheOn (self : Nat) (spot : Spot) (event : ∀ {V E : Type}, Cache.Event V E) : Step := do
  return .go (.caching spot (← stepCache self spot event))

/-! ## Routines -/

def announce (self : Nat) (event : Tenant.Event) : Run Unit := do
  match ← stepCrew self 0 (.account event) with
  | .account reply => reply.notice?.forM tell
  | _ => pure ()

/-- Tells a new value of a cache to whoever follows it. -/
def follow (self : Nat) (spot : Spot) (item : Item) : Run Unit := do
  match spot with
  | .shelf index =>
    let world ← world
    match world.follower? index, item with
    | some .journal, .document json => note (world.cacheName spot ++ " finished " ++ json.compact)
    | _, _ => pure ()
  | .balance => announce self (.balance .announce)
  | .restrictions => announce self (.restrictions .announce)

def pollCaching (self : Nat) (spot : Spot) (reply : Cache.Reply Item Fault) : Step := do
  match reply with
  | .join => cacheOn self spot (.join self)
  | .wait =>
    if ((← world).gate? spot).any (·.holder? = some self) then
      let now ← clock
      cacheOn self spot (.enter self now)
    else return .pending (.caching spot reply) none
  | .load _ => return .go (.computing spot)
  | .served result => return .answer (.item result)
  | .completed result reader =>
    record (.computation ((← world).cacheName spot) result.isOk)
    match reply.news? with
    | some item => follow self spot item
    | none => pure ()
    return .answer (if reader then .item result else .done)
  | .shown .. => return .answer .done
  | .done => return .answer .done
  | .refused => return .answer .done

def pollComputing (self : Nat) (spot : Spot) : Option Answer → Step
  | some (.item result) => return .go (.caching spot (← stepLoaded self spot result))
  | _ => return .call (.computing spot) (.load spot)

def pollLoad : Spot → Step
  | .balance => return .go (.calling .balance)
  | .restrictions => return .go (.calling .restrictions)
  | .shelf index => do
    match (← world).shelves[index]? with
    | none => return .crash
    | some shelf =>
      let number := shelf.loads + 1
      updateShelf index fun shelf => { shelf with loads := number }
      note (shelf.name ++ " load " ++ toString number)
      return .go (.loading number (answerTo shelf.loader.script (.after 0 (.ok none)) number))

def pollLoading (number : Nat) (answer : Scripted (Except String (Option Json))) :
    Option Answer → Step
  | none => do return .call (.loading number answer) (.sleeping (answer.moment (← clock)))
  | some _ =>
    if answer.crashes then return .crash
    else
      match answer.outcome with
      | .ok json => return .answer (.item (.ok (.document (json.getD (.ofNat number)))))
      | .error message => return .answer (.item (.error (.text message)))

def dropCaching (self : Nat) (spot : Spot) : Run Unit :=
  discard (stepCache self spot (.drop self))

end Simulation

end Steward
