import Steward.Proofs.Keeper.Requests
/-!
# The one look at the secret store

The secret store is asked once in the life of a keeper, by the first transition.  The keeper notes
that it has asked before the answer is there.  So if the caller that asked is dropped while it
waits, nobody asks again, and the requests that follow are made without regard to what is stored.
In all other lives the answer was there before the first request.
-/

set_option autoImplicit false

namespace Steward.Keeper

variable {window : RefreshWindow}

section Step

variable {keeper next : Keeper} {event : Event} {reply : Reply}

def Reading (keeper : Keeper) : Prop :=
  ∃ call forced, keeper.stage? call = some (.loading forced)

def Tells (event : Event) (reply : Reply) : Prop :=
  (∃ call stored, event = .loaded call stored) ∧ reply ≠ .refused

def GivesUp (keeper : Keeper) (event : Event) (reply : Reply) : Prop :=
  (∃ call forced, event = .drop call ∧ keeper.stage? call = some (.loading forced)) ∧
    reply ≠ .refused

theorem reading_of_tells (change : Change keeper event next reply) (tells : Tells event reply) :
    ∃ forced, keeper.stage? event.call = some (.loading forced) := by
  obtain ⟨⟨call, stored, rfl⟩, heeded⟩ := tells
  cases change with
  | refused => exact absurd rfl heeded
  | restored stage => exact ⟨_, stage⟩
  | unrestored stage => exact ⟨_, stage⟩
  | refresh due => cases due
  | login due => cases due

theorem reading_of_givesUp (givesUp : GivesUp keeper event reply) :
    ∃ forced, keeper.stage? event.call = some (.loading forced) := by
  obtain ⟨⟨call, forced, rfl, stage⟩, -⟩ := givesUp
  exact ⟨forced, stage⟩

theorem loading_unique (orderly : Orderly keeper) {call other : Nat} {forced forced' : Bool}
    (found : keeper.stage? call = some (.loading forced))
    (beside : keeper.stage? other = some (.loading forced')) : call = other :=
  orderly.inside_unique beside rfl found rfl

theorem goes_on_reading (change : Change keeper event next reply) {call : Nat} {forced : Bool}
    (found : keeper.stage? call = some (.loading forced)) :
    next.stage? call = some (.loading forced) ∨
      event.call = call ∧ (Tells event reply ∨ GivesUp keeper event reply) ∧
        next.stage? call ≠ some (.loading forced) := by
  by_cases own : event.call = call
  · have moves := moves_of_change change own found
    generalize later : next.stage? call = after at moves
    subst own
    cases moves with
    | refused => exact .inl rfl
    | told => exact .inr ⟨rfl, .inl ⟨⟨_, _, rfl⟩, nofun⟩, nofun⟩
    | withdrew outside => cases outside
    | interrupted => exact .inr ⟨rfl, .inr ⟨⟨_, _, rfl, found⟩, nofun⟩, nofun⟩
  · exact .inl ((stage?_of_other change own).trans found)

theorem reading_before (change : Change keeper event next reply) {call : Nat} {forced : Bool}
    (found : next.stage? call = some (.loading forced)) :
    keeper.stage? call = some (.loading forced) ∨ reply = .load := by
  cases before : keeper.stage? call with
  | none =>
      rcases begins_of_change change before found with ⟨-, arrived⟩ | ⟨_, -, queued⟩
      · cases arrived
      · cases queued
  | some stage =>
      rcases moves_or_stays change before found with ⟨-, moves⟩ | same
      · cases moves with
        | refused => exact .inl rfl
        | asked => exact .inr rfl
      · exact .inl (congrArg some same.symm)

theorem not_reading_after (orderly : Orderly keeper) (change : Change keeper event next reply)
    (ended : Tells event reply ∨ GivesUp keeper event reply) : ¬ Reading next := by
  obtain ⟨forced, found⟩ : ∃ forced, keeper.stage? event.call = some (.loading forced) := by
    rcases ended with tells | givesUp
    · exact reading_of_tells change tells
    · exact reading_of_givesUp givesUp
  have heeded : reply ≠ .refused := by
    rcases ended with tells | givesUp
    · exact tells.2
    · exact givesUp.2
  have moves := moves_of_change change rfl found
  rintro ⟨call, forced', reading⟩
  rcases reading_before change reading with before | rfl
  · obtain rfl := loading_unique orderly found before
    rw [reading] at moves
    cases moves
    exact heeded rfl
  · cases moves

theorem asked_of_load (change : Change keeper event next .load) :
    keeper.restored = false ∧ Reading next := by
  cases change with
  | asked _ _ _ fresh => exact ⟨fresh, _, _, stage?_place_self _ _ _⟩

theorem restored_of_change (change : Change keeper event next reply) :
    next.restored = keeper.restored ∨ reply = .load := by
  cases change with
  | asked => exact .inr rfl
  | _ => exact .inl rfl

theorem Reading.restored (reading : Reading keeper) (consistent : Consistent keeper) :
    keeper.restored = true := by
  obtain ⟨call, forced, found⟩ := reading
  exact (consistent.fits call _ found).1

/-! ## The answer, or none at all -/

/-- Whether the secret store has answered (`told`) or the look at it was given up (`lost`), one look
has been begun as soon as the keeper notes it, and it has ended in one way. -/
structure LooksOnce (keeper : Keeper) (told lost : Prop) : Prop where
  fresh : keeper.restored = false → ¬ told ∧ ¬ lost
  reading : Reading keeper → ¬ told ∧ ¬ lost
  ended : keeper.restored = true → Reading keeper ∨ told ∧ ¬ lost ∨ lost ∧ ¬ told

theorem looksOnce_of_change (consistent : Consistent keeper)
    (change : Change keeper event next reply) {told lost : Prop}
    (looks : LooksOnce keeper told lost) :
    LooksOnce next (told ∨ Tells event reply) (lost ∨ GivesUp keeper event reply) := by
  have reading_of_tells : Tells event reply → Reading keeper :=
    fun tells => ⟨_, reading_of_tells change tells⟩
  have reading_of_givesUp : GivesUp keeper event reply → Reading keeper :=
    fun givesUp => ⟨_, reading_of_givesUp givesUp⟩
  have apart : Tells event reply → ¬ GivesUp keeper event reply := by
    rintro ⟨⟨call, stored, rfl⟩, -⟩ ⟨⟨_, _, event, -⟩, -⟩
    cases event
  have stops : Reading next → ¬ Tells event reply ∧ ¬ GivesUp keeper event reply := fun reading =>
    ⟨fun tells => not_reading_after consistent.toOrderly change (.inl tells) reading,
      fun givesUp => not_reading_after consistent.toOrderly change (.inr givesUp) reading⟩
  constructor
  case fresh =>
    intro fresh
    rcases restored_of_change change with same | rfl
    · have before := same.symm.trans fresh
      have idle : ¬ Reading keeper := by
        intro reading
        cases before.symm.trans (reading.restored consistent)
      have none := looks.fresh before
      exact ⟨not_or.mpr ⟨none.1, fun tells => idle (reading_of_tells tells)⟩,
        not_or.mpr ⟨none.2, fun givesUp => idle (reading_of_givesUp givesUp)⟩⟩
    · have restored := (asked_of_load change).2.restored (consistent_change consistent change)
      cases fresh.symm.trans restored
  case reading =>
    intro reading
    have goesOn := stops reading
    have none : ¬ told ∧ ¬ lost := by
      obtain ⟨call, forced, found⟩ := reading
      rcases reading_before change found with before | rfl
      · exact looks.reading ⟨call, forced, before⟩
      · exact looks.fresh (asked_of_load change).1
    exact ⟨not_or.mpr ⟨none.1, goesOn.1⟩, not_or.mpr ⟨none.2, goesOn.2⟩⟩
  case ended =>
    intro restored
    rcases restored_of_change change with same | rfl
    · rcases looks.ended (same.symm.trans restored) with reading | ⟨told, kept⟩ | ⟨lost, untold⟩
      · obtain ⟨untold, kept⟩ := looks.reading reading
        obtain ⟨call, forced, found⟩ := reading
        rcases goes_on_reading change found with stays | ⟨-, tells | givesUp, -⟩
        · exact .inl ⟨call, forced, stays⟩
        · exact .inr (.inl ⟨.inr tells, not_or.mpr ⟨kept, apart tells⟩⟩)
        · exact .inr (.inr ⟨.inr givesUp, not_or.mpr ⟨untold, fun tells => apart tells givesUp⟩⟩)
      · refine .inr (.inl ⟨.inl told, not_or.mpr ⟨kept, fun givesUp => ?_⟩⟩)
        exact (looks.reading (reading_of_givesUp givesUp)).1 told
      · refine .inr (.inr ⟨.inl lost, not_or.mpr ⟨untold, fun tells => ?_⟩⟩)
        exact (looks.reading (reading_of_tells tells)).2 lost
    · exact .inl (asked_of_load change).2

theorem looked_of_request (consistent : Consistent keeper)
    (change : Change keeper event next reply) (asks : reply.request?.isSome = true) :
    keeper.restored = true ∧ ¬ Reading keeper := by
  have idle : ∀ {call : Nat} {stage : Stage}, keeper.stage? call = some stage →
      keeper.gate.holder? = some call → (∀ forced, stage ≠ .loading forced) →
      ¬ Reading keeper := by
    rintro call stage found first apart ⟨other, forced, reading⟩
    have same := (consistent.toOrderly.first_of_inside other _ reading rfl).symm.trans first
    obtain rfl : other = call := Option.some.inj same
    cases found.symm.trans reading
    exact apart forced rfl
  have idle_of_due : ∀ {call : Nat} {forced : Bool}, Due keeper call forced event →
      ¬ Reading keeper := by
    intro call forced due
    have first := due.first consistent.toOrderly
    cases due with
    | entered stage => exact idle stage first nofun
    | resumed stage => exact idle stage first nofun
  cases change with
  | refresh due => exact ⟨due.restored consistent, idle_of_due due⟩
  | login due => exact ⟨due.restored consistent, idle_of_due due⟩
  | discarded stage =>
      exact ⟨(consistent.fits _ _ stage).1,
        idle stage (consistent.toOrderly.first_of_inside _ _ stage rfl) nofun⟩
  | _ => cases asks

end Step

/-- Before event number `n` the secret store has answered. -/
def Told (life : Life window) (n : Nat) : Prop :=
  ∃ m, m < n ∧ Tells (life.event m) (life.reply m)

/-- Before event number `n` the call that waited for the secret store was given up. -/
def GivenUp (life : Life window) (n : Nat) : Prop :=
  ∃ d, d < n ∧ GivesUp (life.before d) (life.event d) (life.reply d)

theorem looksOnce_before (life : Life window) (n : Nat) :
    LooksOnce (life.before n) (Told life n) (GivenUp life n) := by
  induction n with
  | zero =>
      have none : ¬ Told life 0 ∧ ¬ GivenUp life 0 :=
        ⟨fun ⟨m, below, _⟩ => Nat.not_lt_zero m below, fun ⟨d, below, _⟩ => Nat.not_lt_zero d below⟩
      exact ⟨fun _ => none, fun _ => none, nofun⟩
  | succ n ih =>
      rw [Told, GivenUp, Nat.exists_lt_succ_right, Nat.exists_lt_succ_right]
      exact looksOnce_of_change (consistent_before life n) (change_at life n) ih

/-- When a request is made, either the secret store has answered, or the call that waited for its
answer was given up, and never both. -/
theorem looked_before_request {life : Life window} {n : Nat}
    (asks : (life.reply n).request?.isSome = true) :
    Told life n ∧ ¬ GivenUp life n ∨ GivenUp life n ∧ ¬ Told life n := by
  have looks := looksOnce_before life n
  obtain ⟨restored, idle⟩ := looked_of_request (consistent_before life n) (change_at life n) asks
  exact (looks.ended restored).resolve_left idle

/-- When a request is made, the secret store has answered, unless the call that waited for its
answer was given up. -/
theorem told_iff_of_request {life : Life window} {n : Nat}
    (asks : (life.reply n).request?.isSome = true) : Told life n ↔ ¬ GivenUp life n := by
  rcases looked_before_request asks with ⟨told, kept⟩ | ⟨lost, untold⟩
  · exact iff_of_true told kept
  · exact iff_of_false untold (not_not_intro lost)

def droppedWhileReading : Life default :=
  .ofList [.arrive 1, .look 1 0, .join 1, .enter 1 0, .drop 1, .leave 1, .arrive 2, .look 2 0,
    .join 2, .enter 2 0] (.leave 0)

theorem told_iff_of_request_droppedWhileReading :
    (droppedWhileReading.reply 9).request?.isSome = true ∧
      (Told droppedWhileReading 9 ↔ ¬ GivenUp droppedWhileReading 9) :=
  ⟨rfl, told_iff_of_request rfl⟩

/-- The answer of the secret store is not always awaited before the first request. -/
theorem not_always_told :
    ¬ ∀ (life : Life default) (n : Nat), (life.reply n).request?.isSome = true → Told life n := by
  intro always
  have asks : (droppedWhileReading.reply 9).request?.isSome = true := rfl
  have lost : GivenUp droppedWhileReading 9 := ⟨4, by decide, ⟨1, false, rfl, rfl⟩, nofun⟩
  rcases looked_before_request asks with ⟨-, kept⟩ | ⟨-, untold⟩
  · exact kept lost
  · exact untold (always droppedWhileReading 9 asks)

end Steward.Keeper
