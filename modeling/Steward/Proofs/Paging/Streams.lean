import Steward.Paging.Streams
import Steward.Proofs.Paging.Served
import Steward.Proofs.Run
/-!
# Lives of streams

Streams of one collection are demanded from in any order, and the service answers in any order.
What a stream yields depends on the answers that it was given itself.  It yields what a walk over
these answers comes to, and asks for a further page only when that is needed to yield what was
demanded.
-/

set_option autoImplicit false

namespace Steward.Streams

open Paging

variable {α ε : Type}

/-! ## One stream -/

inductive Moves (size : Nat) (stream : Stream α) : Input α ε → Stream α → Reply α ε → Prop where
  | busy (waits : stream.waiting = true) : Moves size stream .demand stream .refused
  | ended (free : stream.waiting = false) (pulls : stream.cursor.pull = .ended) :
      Moves size stream .demand stream .ended
  | item {value : α} {cursor : Cursor α} (free : stream.waiting = false)
      (pulls : stream.cursor.pull = .item value cursor) :
      Moves size stream .demand ⟨cursor, false⟩ (.yielded (.ok value))
  | asked {page : Nat} (free : stream.waiting = false)
      (pulls : stream.cursor.pull = .fetch page) :
      Moves size stream .demand ⟨stream.cursor, true⟩ (.request page size)
  | answered {answer : Except ε (Page α)} (waits : stream.waiting = true) :
      Moves size stream (.answer answer)
        ⟨(stream.cursor.receive stream.cursor.next answer).cursor, false⟩
        (.of (stream.cursor.receive stream.cursor.next answer).result)
  | unasked {answer : Except ε (Page α)} (free : stream.waiting = false) :
      Moves size stream (.answer answer) stream .refused

theorem moves_step (size : Nat) (stream : Stream α) (input : Input α ε) :
    Moves size stream input (stream.step size input).1 (stream.step size input).2 := by
  cases input with
  | demand =>
      simp only [Stream.step]
      split
      · next waits => exact .busy waits
      · next free =>
          have free := Bool.eq_false_iff.mpr free
          split
          · next pulls => exact .ended free pulls
          · next pulls => exact .item free pulls
          · next pulls => exact .asked free pulls
  | answer answer =>
      simp only [Stream.step]
      split
      · next waits => exact .answered waits
      · next free => exact .unasked (Bool.eq_false_iff.mpr free)

def requested? : Input α ε × Reply α ε → Option (Nat × Nat)
  | (_, .request page size) => some (page, size)
  | _ => none

def yielded? : Input α ε × Reply α ε → Option (Except ε α)
  | (_, .yielded result) => some result
  | _ => none

def taken? : Input α ε × Reply α ε → Option (Except ε (Page α))
  | (.answer _, .refused) => none
  | (.answer answer, _) => some answer
  | _ => none

section Replies

variable (answer : Except ε (Page α)) (result : Option (Except ε α))

@[simp] theorem requested?_of (input : Input α ε) : requested? (input, .of result) = none := by
  cases result <;> rfl

@[simp] theorem yielded?_of (input : Input α ε) : yielded? (input, .of result) = result := by
  cases result <;> rfl

@[simp] theorem taken?_of : taken? (.answer answer, .of result) = some answer := by
  cases result <;> rfl

variable {result} in
theorem of_eq_ended : (.of result : Reply α ε) = .ended ↔ result = none := by
  cases result <;> simp [Reply.of]

theorem of_ne_request {page size : Nat} : (.of result : Reply α ε) ≠ .request page size := by
  cases result <;> exact nofun

theorem of_ne_refused : (.of result : Reply α ε) ≠ .refused := by
  cases result <;> exact nofun

end Replies

/-- A stream that has sent these requests, was given these answers and has yielded these results. -/
structure Stands (size : Nat) (stream : Stream α) (requests : List (Nat × Nat))
    (answers : List (Except ε (Page α))) (yielded : List (Except ε α)) : Prop where
  fits : Fits stream.cursor answers yielded
  asks : stream.waiting = true → stream.cursor.pull = .fetch answers.length
  requests : requests = (List.range (answers.length + stream.waiting.toNat)).map (·, size)
  frugal : Frugal answers

theorem stands_start (size : Nat) :
    Stands size (.start : Stream α) [] ([] : List (Except ε (Page α))) [] :=
  ⟨fits_start, nofun, rfl, frugal_nil⟩

section Stands

variable {size : Nat} {stream next : Stream α} {requests : List (Nat × Nat)}
  {answers : List (Except ε (Page α))} {yielded : List (Except ε α)} {input : Input α ε}
  {reply : Reply α ε}

theorem stands_of_moves (stands : Stands size stream requests answers yielded)
    (moves : Moves size stream input next reply) :
    Stands size next (requests ++ (requested? (input, reply)).toList)
      (answers ++ (taken? (input, reply)).toList)
      (yielded ++ (yielded? (input, reply)).toList) := by
  have pulled := pulls_of_fits stands.fits
  cases moves with
  | busy => simpa [requested?, taken?, yielded?] using stands
  | ended => simpa [requested?, taken?, yielded?] using stands
  | unasked => simpa [requested?, taken?, yielded?] using stands
  | item free pulls =>
      rw [pulls] at pulled
      cases pulled with
      | item fits =>
          obtain ⟨-, -, sent, frugal⟩ := stands
          rw [free] at sent
          refine ⟨?_, nofun, ?_, ?_⟩
          · simpa [taken?, yielded?] using fits
          · simpa [requested?, taken?] using sent
          · simpa [taken?] using frugal
  | asked free pulls =>
      have behind := pulls
      rw [pulls] at pulled
      cases pulled with
      | fetch =>
          obtain ⟨fits, -, sent, frugal⟩ := stands
          rw [free] at sent
          refine ⟨?_, fun _ => ?_, ?_, ?_⟩
          · simpa [taken?, yielded?] using fits
          · simpa [taken?] using pulls
          · simp [requested?, taken?, sent, List.range_succ]
          · simpa [taken?] using frugal
  | @answered answer waits =>
      obtain ⟨fits, asks, sent, frugal⟩ := stands
      have pulls := asks waits
      have received := (fits_of_received fits pulls answer stream.cursor.next).1
      rw [pulls] at pulled
      cases pulled with
      | fetch going =>
          rw [waits] at sent
          rw [requested?_of, taken?_of, yielded?_of]
          refine ⟨received, nofun, ?_, frugal_concat frugal going answer⟩
          simpa using sent

theorem needed_of_request (stands : Stands size stream requests answers yielded)
    (moves : Moves size stream input next reply) {page asked : Nat}
    (asks : reply = .request page asked) :
    input = .demand ∧ isOver answers = false ∧ yielded = (items answers).map .ok := by
  have pulled := pulls_of_fits stands.fits
  cases moves with
  | asked free pulls =>
      rw [pulls] at pulled
      cases pulled with
      | fetch going all => exact ⟨rfl, going, all⟩
  | answered => exact absurd asks (of_ne_request _)
  | _ => cases asks

theorem all_of_ended (stands : Stands size stream requests answers yielded)
    (moves : Moves size stream input next reply) (ends : reply = .ended) :
    next.waiting = false ∧ isOver (answers ++ (taken? (input, reply)).toList) = true ∧
      yielded ++ (yielded? (input, reply)).toList =
        traversal (answers ++ (taken? (input, reply)).toList) := by
  have pulled := pulls_of_fits stands.fits
  cases moves with
  | ended free pulls =>
      rw [pulls] at pulled
      cases pulled with
      | ended complete all => simpa [taken?, yielded?] using ⟨free, complete, all⟩
  | @answered answer waits =>
      have received := fits_of_received stands.fits (stands.asks waits) answer stream.cursor.next
      have none := of_eq_ended.mp ends
      rw [taken?_of, yielded?_of, none, Option.toList_none, List.append_nil]
      exact ⟨rfl, received.2 none⟩
  | _ => cases ends

theorem ended_of_all (stands : Stands size stream requests answers yielded)
    (moves : Moves size stream .demand next reply) (complete : isOver answers = true)
    (all : yielded = traversal answers) : reply = .ended := by
  have pulled := pulls_of_fits stands.fits
  cases moves with
  | ended => rfl
  | busy waits =>
      rw [stands.asks waits] at pulled
      cases pulled with
      | fetch going => cases complete.symm.trans going
  | item free pulls =>
      rw [pulls] at pulled
      cases pulled with
      | item fits =>
          have short := (prefix_of_fits fits).length_le
          rw [← all, List.length_append, List.length_singleton] at short
          omega
  | asked free pulls =>
      rw [pulls] at pulled
      cases pulled with
      | fetch going => cases complete.symm.trans going

/-- Only a stream that waits for a page refuses what is demanded, and no other one takes an
answer. -/
theorem waiting_of_refused (moves : Moves size stream input next reply)
    (refuses : reply = .refused) : input = .demand ↔ stream.waiting = true := by
  cases moves with
  | busy waits => exact iff_of_true rfl waits
  | unasked free => simp [free]
  | answered => exact absurd refuses (of_ne_refused _)
  | _ => cases refuses

end Stands

/-! ## Lives -/

abbrev Life (α ε : Type) (requested : Nat) := Run (@Streams.step α ε) (Streams.new requested)

variable {requested : Nat}

theorem size_before (life : Life α ε requested) (n : Nat) :
    (life.before n).size = max requested 1 :=
  life.holds_of_kept (fun streams => streams.size = max requested 1) rfl (fun _ same => same) n

/-- What is read off the events before number `n` that are of the stream of that number. -/
def logged {β : Type} (read : Input α ε × Reply α ε → Option β) (life : Life α ε requested)
    (number n : Nat) : List β :=
  life.log (fun event reply => if event.stream = number then read (event.input, reply) else none) n

section Logged

variable {β : Type} (read : Input α ε × Reply α ε → Option β) (life : Life α ε requested)
  {number n : Nat}

theorem logged_own (own : (life.event n).stream = number) :
    logged read life number (n + 1) =
      logged read life number n ++ (read ((life.event n).input, life.reply n)).toList := by
  rw [logged, Run.log_succ, if_pos own]
  rfl

theorem logged_other (other : (life.event n).stream ≠ number) :
    logged read life number (n + 1) = logged read life number n := by
  rw [logged, Run.log_succ, if_neg other]
  exact List.append_nil _

end Logged

/-- The requests of the stream of that number up to event number `n`. -/
def requests : Life α ε requested → Nat → Nat → List (Nat × Nat) := logged requested?

def answers : Life α ε requested → Nat → Nat → List (Except ε (Page α)) := logged taken?

def yielded : Life α ε requested → Nat → Nat → List (Except ε α) := logged yielded?

section Lives

variable (life : Life α ε requested) (number n : Nat)

theorem moves_at : Moves (max requested 1) ((life.before n).stream (life.event n).stream)
    (life.event n).input ((life.before (n + 1)).stream (life.event n).stream) (life.reply n) := by
  have moves := moves_step (life.before n).size ((life.before n).stream (life.event n).stream)
    (life.event n).input
  rw [size_before] at moves
  have put : (life.before (n + 1)).stream (life.event n).stream =
      (((life.before n).stream (life.event n).stream).step (max requested 1)
        (life.event n).input).1 := by
    rw [Run.before_succ, ← size_before life n]
    exact if_pos rfl
  have replied : life.reply n =
      (((life.before n).stream (life.event n).stream).step (max requested 1)
        (life.event n).input).2 := by
    rw [← size_before life n]
    rfl
  rw [put, replied]
  exact moves

theorem stream_other {number n : Nat} (other : (life.event n).stream ≠ number) :
    (life.before (n + 1)).stream number = (life.before n).stream number :=
  if_neg fun same => other same.symm

theorem stands_before : Stands (max requested 1) ((life.before n).stream number)
    (requests life number n) (answers life number n) (yielded life number n) := by
  induction n with
  | zero => exact stands_start _
  | succ n ih =>
      by_cases own : (life.event n).stream = number
      · have moved := moves_at life n
        rw [own] at moved
        rw [requests, answers, yielded, logged_own _ life own, logged_own _ life own,
          logged_own _ life own]
        exact stands_of_moves ih moved
      · rw [requests, answers, yielded, logged_other _ life own, logged_other _ life own,
          logged_other _ life own, stream_other life own]
        exact ih

end Lives

/-! ## What a stream comes to -/

/-- What is true of the stream of that number when event number `n` comes.  Pages are requested in
order and one at a time, each only when all items before it have been yielded and one more is
demanded.  Whatever the further answers are, the results begin like what is yielded; a failure
comes once, behind all items. -/
structure Traverses (life : Life α ε requested) (number n : Nat) : Prop where
  inOrder : ∃ underway ≤ 1, requests life number n =
    (List.range ((answers life number n).length + underway)).map (·, max requested 1)
  begins : ∀ more, yielded life number n <+: traversal (answers life number n ++ more)
  needed : (life.event n).stream = number → ∀ page size, life.reply n = .request page size →
    (life.event n).input = .demand ∧ isOver (answers life number n) = false ∧
      yielded life number n = (items (answers life number n)).map .ok
  refused : (life.event n).stream = number → life.reply n = .refused →
    ((life.event n).input = .demand ↔
      (requests life number n).length = (answers life number n).length + 1)
  ended : (life.event n).stream = number → life.reply n = .ended →
    ∀ more, yielded life number (n + 1) = traversal (answers life number (n + 1) ++ more)
  failed : ∀ error, .error error ∈ yielded life number n →
    failure (answers life number n) = some error ∧
      yielded life number n = (items (answers life number n)).map .ok ++ [.error error] ∧
      (life.event n = ⟨number, .demand⟩ → life.reply n = .ended)
  served : ∀ (held : List α) (tells : Bool),
    (∀ (page : Nat) (answer : Except ε (Page α)),
      (answers life number (n + 1))[page]? = some answer →
        answer = .ok (served held (max requested 1) tells page)) →
    (life.event n).stream = number → life.reply n = .ended →
      yielded life number (n + 1) = held.map .ok ∧
        requests life number (n + 1) =
          (List.range (pagesAskedFor held.length (max requested 1) tells)).map (·, max requested 1)

section Traverses

variable (life : Life α ε requested) {number n : Nat}

theorem moves_of_own (own : (life.event n).stream = number) :
    Moves (max requested 1) ((life.before n).stream number) (life.event n).input
      ((life.before (n + 1)).stream number) (life.reply n) :=
  own ▸ moves_at life n

theorem ended_at (own : (life.event n).stream = number) (ends : life.reply n = .ended) :
    ((life.before (n + 1)).stream number).waiting = false ∧
      isOver (answers life number (n + 1)) = true ∧
      yielded life number (n + 1) = traversal (answers life number (n + 1)) := by
  have given : answers life number (n + 1) = _ := logged_own taken? life own
  have gives : yielded life number (n + 1) = _ := logged_own yielded? life own
  rw [given, gives]
  exact all_of_ended (stands_before life number n) (moves_of_own life own) ends

theorem traverses_at (number n : Nat) : Traverses life number n where
  inOrder := by
    have stands := stands_before life number n
    exact ⟨_, Bool.toNat_le _, stands.requests⟩
  begins more := (prefix_of_fits (stands_before life number n).fits).trans (prefix_of_more _ more)
  needed own page size asks :=
    needed_of_request (stands_before life number n) (moves_of_own life own) asks
  refused own refuses := by
    have stands := stands_before life number n
    rw [waiting_of_refused (moves_of_own life own) refuses, stands.requests, List.length_map,
      List.length_range]
    cases ((life.before n).stream number).waiting <;> simp
  ended own ends more := by
    obtain ⟨-, complete, all⟩ := ended_at life own ends
    rw [all, traversal_of_over complete]
  failed error yields := by
    have stands := stands_before life number n
    obtain ⟨fails, last, all⟩ := failed_of_mem stands.fits yields
    refine ⟨fails, last, fun demanded => ?_⟩
    have own : (life.event n).stream = number := by rw [demanded]
    have moves := moves_of_own life own
    rw [demanded] at moves
    exact ended_of_all stands moves (isOver_of_failure fails) all
  served held tells given own ends := by
    obtain ⟨idle, complete, all⟩ := ended_at life own ends
    obtain ⟨-, -, sent, frugal⟩ := stands_before life number (n + 1)
    have holds := eq_servedAnswers given
    rw [holds] at complete frugal
    have positive : 0 < max requested 1 := by omega
    rw [idle] at sent
    refine ⟨?_, ?_⟩
    · rw [all, holds, traversal_served positive complete]
    · rw [sent, Bool.toNat_false, Nat.add_zero, ← pages_of_frugal positive frugal complete]

/-- Every stream traverses the collection, whatever happens to the others.  Over a collection that
is served in pages, the demands that are one more than its items get all of them and then the end,
for no more pages than needed.  Page numbers are not bounded here; they are those of a service that
numbers its pages in 32 bits as long as there are fewer than 2 ^ 32 of them. -/
theorem every_stream_traverses :
    (∀ (life : Life α ε requested) (number n : Nat), Traverses life number n) ∧
      ∀ (held : List α) (tells : Bool) (further : Nat),
        (Cursor.start : Cursor α).walk
            (fun page => (.ok (served held (max requested 1) tells page) : Except ε (Page α)))
            (held.length + 1 + further) =
          ⟨held.map .ok, true,
            List.range (pagesAskedFor held.length (max requested 1) tells)⟩ :=
  ⟨traverses_at, fun _ _ _ => walk_served (by omega) (by omega)⟩

end Traverses

end Steward.Streams
