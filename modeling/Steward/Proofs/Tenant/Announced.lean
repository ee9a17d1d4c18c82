import Steward.Proofs.Cache.Line
import Steward.Tenant
/-!
# What is announced of a cache

Listeners are told every change in the sequence of values that a cache has stored, and nothing else.
The announcer remembers the last value on its own.  It holds the same value as the cache, except
for the time between a success and its announcement, in which nobody else computes.
-/

set_option autoImplicit false

namespace Steward

variable {V E : Type}

/-- The changes in a sequence of values, of which `last` comes first if there is one. -/
def changesOf [DecidableEq V] (last : Option V) : List V → List (Option V × V)
  | [] => []
  | value :: rest =>
    if last = some value then changesOf last rest
    else (last, value) :: changesOf (some value) rest

/-- Each change begins with the value with which the one before has ended, and ends with another. -/
def Linked (last : Option V) : List (Option V × V) → Prop
  | [] => True
  | (previous, current) :: rest =>
    previous = last ∧ previous ≠ some current ∧ Linked (some current) rest

theorem getLast?_cons_or (value : V) (rest : List V) (last : Option V) :
    (value :: rest).getLast?.or last = rest.getLast?.or (some value) := by
  rw [List.getLast?_cons]
  cases rest.getLast? <;> rfl

section Changes

variable [DecidableEq V]

theorem changesOf_concat (last : Option V) (values : List V) (value : V) :
    changesOf last (values ++ [value]) = changesOf last values ++
      if values.getLast?.or last = some value then [] else [(values.getLast?.or last, value)] := by
  induction values generalizing last with
  | nil => rfl
  | cons first rest ih =>
      rw [getLast?_cons_or, List.cons_append, changesOf, changesOf]
      by_cases same : last = some first
      · rw [if_pos same, if_pos same, ih, same]
      · rw [if_neg same, if_neg same, ih, List.cons_append]

theorem linked_changesOf (last : Option V) (values : List V) :
    Linked last (changesOf last values) := by
  induction values generalizing last with
  | nil => trivial
  | cons first rest ih =>
      rw [changesOf]
      split
      · exact ih last
      · next differs => exact ⟨rfl, differs, ih (some first)⟩

theorem last_changesOf (last : Option V) (values : List V) :
    ((changesOf last values).getLast?.map (·.2)).or last = values.getLast?.or last := by
  induction values generalizing last with
  | nil => rfl
  | cons first rest ih =>
      rw [getLast?_cons_or, changesOf]
      split
      · next same => rw [ih, same]
      · rw [← ih (some first), List.getLast?_cons]
        cases (changesOf (some first) rest).getLast? <;> rfl

omit [DecidableEq V] in
theorem apart_of_linked {last : Option V} {changes : List (Option V × V)}
    (linked : Linked last changes) : (changes.map (·.2)).IsChain (· ≠ ·) := by
  induction changes generalizing last with
  | nil => exact .nil
  | cons first rest ih =>
      obtain ⟨previous, current⟩ := first
      obtain ⟨-, -, further⟩ := linked
      have later := ih further
      cases rest with
      | nil => exact .singleton _
      | cons second rest =>
          obtain ⟨same, differs, -⟩ := further
          refine List.isChain_cons_cons.mpr ⟨?_, later⟩
          intro equal
          exact differs (same.trans (congrArg some equal))

end Changes

namespace Cache

theorem value_of_change {cache next : Cache V E} {event : Event V E} {reply : Reply V E}
    (change : Change cache event next reply) : next.value = reply.news?.or cache.value := by
  cases change with
  | @completed call ticket epoch now role result =>
      have kept := (Alike.retire (cache.apply epoch now result) call role).value
      cases result <;> exact kept
  | declined => exact ((Alike.forget _ _).trans (.clearPending _ _)).value
  | shared => exact (Alike.retire _ _ _).value
  | spared => exact (Alike.retire _ _ _).value
  | abandoned => exact (Alike.retire _ _ _).value
  | _ => rfl

theorem inFlight_of_news {cache next : Cache V E} {event : Event V E} {reply : Reply V E}
    {value : V} (change : Change cache event next reply) (news : reply.news? = some value) :
    ∃ call, InFlight cache call := by
  cases change with
  | completed stage => exact ⟨_, _, _, _, stage⟩
  | _ => cases news

theorem idle_of_news {cache next : Cache V E} {event : Event V E} {reply : Reply V E} {value : V}
    (orderly : Orderly cache) (change : Change cache event next reply)
    (news : reply.news? = some value) (call : Nat) : ¬ InFlight next call := by
  rintro ⟨role, ticket, epoch, computes⟩
  have before := computing_of_change change computes
  cases change with
  | @completed own _ since now _ result stage =>
      rcases before with earlier | ⟨-, -, ⟨_, impossible, -⟩, -⟩
      · have same := inFlight_unique orderly ⟨_, _, _, earlier⟩ ⟨_, _, _, stage⟩
        rw [same, stage?_retire, if_pos rfl] at computes
        cases computes
      · cases impossible
  | _ => cases news

theorem news?_of_failed (cache : Cache V E) (call : Nat) (error : E) (now : Nat) :
    (cache.step (.loaded call (.error error) now)).2.news? = none := by
  simp only [step]
  split <;> rfl

end Cache

namespace Announced

def Reply.stored? : Reply V E → Option V
  | .cache reply => reply.news?
  | _ => none

/-- A cache that has stored these values, of which these changes were told. -/
structure Standing [DecidableEq V] (announced : Announced V E) (stored : List V)
    (changes : List (Option V × V)) : Prop where
  orderly : Cache.Orderly announced.cache
  idle : announced.unseen.isSome = true → ∀ call, ¬ Cache.InFlight announced.cache call
  value : announced.cache.value = stored.getLast?
  shown : ∃ shown, stored = shown ++ announced.unseen.toList ∧
    announced.announcer.last = shown.getLast? ∧ changes = changesOf none shown

section Standing

variable [DecidableEq V] {announced next : Announced V E} {event : Event V E}
  {reply : Reply V E} {stored : List V} {changes : List (Option V × V)}

theorem standing_new (ttl : Option Duration) :
    Standing (new ttl : Announced V E) [] [] :=
  ⟨Turnstile.orderly_empty _ _, nofun, rfl, [], rfl, rfl, rfl⟩

theorem standing_of_change (standing : Standing announced stored changes)
    {event : Cache.Event V E} {cache : Cache V E} {reply : Cache.Reply V E}
    (timely : announced.isEarly event = false)
    (change : Cache.Change announced.cache event cache reply) :
    Standing { announced with cache := cache, unseen := reply.news?.or announced.unseen }
      (stored ++ reply.news?.toList) changes := by
  obtain ⟨orderly, idle, value, shown, same, last, told⟩ := standing
  have after := Cache.value_of_change change
  cases news : reply.news? with
  | none =>
      rw [news] at after
      refine ⟨Cache.orderly_change orderly change, ?_, ?_, shown, ?_, last, told⟩
      · rintro unseen call ⟨role, ticket, epoch, computes⟩
        rcases Cache.computing_of_change change computes with earlier | ⟨-, -, ⟨now, rfl, -⟩, -⟩
        · exact idle unseen call ⟨role, ticket, epoch, earlier⟩
        · cases timely.symm.trans unseen
      · simpa using after.trans value
      · simpa using same
  | some new =>
      rw [news] at after
      have unseen : announced.unseen = none := by
        obtain ⟨call, computes⟩ := Cache.inFlight_of_news change news
        rw [← Option.not_isSome_iff_eq_none]
        exact fun unseen => idle unseen call computes
      rw [unseen, Option.toList_none, List.append_nil] at same
      refine ⟨Cache.orderly_change orderly change, ?_, ?_, shown, ?_, last, told⟩
      · exact fun _ => Cache.idle_of_news orderly change news
      · simpa using after
      · simp [same]

theorem standing_of_observe (standing : Standing announced stored changes) {value : V}
    (unseen : announced.unseen = some value) :
    Standing
      { announced with announcer := (announced.announcer.observe value).1, unseen := none }
      stored (changes ++ (announced.announcer.observe value).2.toList) := by
  obtain ⟨orderly, -, holds, shown, same, last, told⟩ := standing
  have more := changesOf_concat none shown value
  rw [Option.or_none, ← last] at more
  rw [unseen] at same
  refine ⟨orderly, nofun, holds, shown ++ [value], by simpa using same, ?_, ?_⟩
  · simp only [Announcer.observe]
    split
    · next known => simpa using known
    · simp
  · rw [more, told]
    simp only [Announcer.observe]
    split <;> rfl

theorem standing_of_step (standing : Standing announced stored changes)
    (steps : announced.step event = (next, reply)) :
    Standing next (stored ++ reply.stored?.toList) (changes ++ reply.change?.toList) := by
  cases event with
  | cache event =>
      by_cases early : announced.isEarly event = true
      · simp only [step, if_pos early] at steps
        cases steps
        simpa [Reply.stored?, Reply.change?, Cache.Reply.news?] using standing
      · simp only [step, if_neg early] at steps
        cases steps
        have timely := Bool.eq_false_iff.mpr early
        simpa [Reply.stored?, Reply.change?] using
          standing_of_change standing timely (Cache.change_step announced.cache event)
  | announce =>
      cases unseen : announced.unseen with
      | none =>
          simp only [step, unseen] at steps
          cases steps
          simpa [Reply.stored?, Reply.change?] using standing
      | some value =>
          simp only [step, unseen] at steps
          cases steps
          simpa [Reply.stored?, Reply.change?] using standing_of_observe standing unseen

end Standing

/-- A computation that fails leaves the value alone, and what is to be announced. -/
theorem step_failed [DecidableEq V] (announced : Announced V E) (call : Nat) (error : E)
    (now : Nat) :
    (announced.step (.cache (.loaded call (.error error) now))).1.cache.value =
        announced.cache.value ∧
      (announced.step (.cache (.loaded call (.error error) now))).1.unseen = announced.unseen := by
  have change := Cache.change_step announced.cache (.loaded call (.error error) now)
  have silent := Cache.news?_of_failed announced.cache call error now
  have value := Cache.value_of_change change
  rw [silent] at value
  refine ⟨value, ?_⟩
  simp only [step, isEarly, Bool.false_eq_true, if_false, silent, Option.none_or]

end Announced

end Steward
