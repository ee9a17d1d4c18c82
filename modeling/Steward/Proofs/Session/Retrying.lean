import Steward.Proofs.Session.Walks
/-!
# Trying once more

The rules for a call of the service, put together: what it does and what its result is, how often
its operation is run and with which credentials, and what is recorded of it.  A walk of all
transactions makes its calls for pages by these rules.
-/

set_option autoImplicit false

namespace Steward

namespace Desk

variable {α : Type} {window : RefreshWindow}

/-- The call of this number that begins with event number `i` ends with `result` by event number
`j`. -/
structure Ends (life : Life window α) (number : Nat) (operation : String) (i j : Nat)
    (result : Except AccountError α) : Prop where
  begins : ∃ now, Begins life number operation now i
  after : i < j
  lasts : Lasts life number i j
  own : (life.event j).number = number
  finishes : ∃ shown samples, life.reply j = .finished shown result samples

/-- Every call is made once, and once more only with another credential than the refused one. -/
structure Disciplined (life : Life window α) : Prop where
  told : ∀ number operation i j result, Ends life number operation i j result →
    Story (tale life number i (j + 1)) result
  at_most_twice : ∀ number operation now i j, Begins life number operation now i → i < j →
    Lasts life number i j → AtMostTwice (tale life number i (j + 1))
  twice_iff : ∀ number operation i j result, Ends life number operation i j result →
    ((runs (tale life number i (j + 1))).length = 2 ↔
      (∃ answer, (answers (tale life number i (j + 1))).head? = some answer ∧
        Session.IsRejection answer) ∧
      ∀ error, .fails error ∉ tale life number i (j + 1))
  recorded_once : ∀ number operation now i j shown result samples,
    Begins life number operation now i → i < j → Lasts life number i j →
      (life.event j).number = number → life.reply j = .finished shown result samples →
        shown = operation ∧ ∃ later, samples =
          Sample.remoteCall operation (Session.outcome result) (Moment.since later now).inSeconds
  counted : ∀ n operation outcome,
    standing (recorded life n) (callSeries operation outcome) =
        (ended life n).countP (endsAs operation outcome) ∧
      standing (recorded life n) (lengthSeries operation) =
        (ended life n).countP (isOf operation)

theorem disciplined (life : Life window α) : Disciplined life := by
  have told : ∀ number operation i j result, Ends life number operation i j result →
      Story (tale life number i (j + 1)) result := by
    rintro number operation i j result ⟨⟨now, begins⟩, after, lasts, own, shown, samples, finishes⟩
    exact (story_of_finished begins after lasts own finishes).2.1
  refine ⟨told, ?_, ?_, ?_, standing_recorded life⟩
  · intro number operation now i j begins after lasts
    exact atMostTwice_while_lasting begins after lasts
  · intro number operation i j result ends
    exact runs_twice_iff (told number operation i j result ends)
  · intro number operation now i j shown result samples begins after lasts own finishes
    obtain ⟨same, -, recorded⟩ := story_of_finished begins after lasts own finishes
    exact ⟨same, recorded⟩

end Desk

namespace Syncs

variable {β : Type} {window : RefreshWindow}

/-- The walk of this number that begins with event number `i` ends by event number `j`. -/
structure Ends (life : Life window β) (number i j : Nat) (result : Except AccountError Nat)
    (notice : Option Notice) : Prop where
  begins : Begins life number i
  after : i < j
  lasts : Lasts life number i j
  own : (life.event j).number = number
  ends : life.reply j = .ended result notice

/-- A call that ends has one of the four stories, with its result.  It runs its operation once, and
once more exactly if the first answer was a rejection and another credential could be had.  Its end
goes with one count and one length. -/
structure Disciplined (life : Life window β) : Prop where
  calls : ∃ calls : Desk.Life window (Answer β), Desk.Disciplined calls ∧
    (∀ n, calls.before n = (life.before n).desk) ∧
    ∀ n told, life.reply n = .desk told →
      life.event n = .desk (calls.event n) ∧ told = calls.reply n
  synced : ∀ number i j result notice, Ends life number i j result notice →
    Synced (gathered Reply.result? life number i j) result notice ∧
      gathered Reply.notice? life number i (j + 1) = notice.toList

theorem disciplined (life : Life window β) : Disciplined life := by
  obtain ⟨calls, same, told⟩ := exists_calls life
  refine ⟨⟨calls, Desk.disciplined calls, same, told⟩, ?_⟩
  rintro number i j result notice ⟨begins, after, lasts, own, ends⟩
  exact synced_of_ended_walk begins after lasts own ends

end Syncs

/-- In every order of events, all calls of the service keep to the rules, whatever the service
answers and whatever else is asked of the keeper, and so do the walks of all transactions. -/
theorem call_discipline (window : RefreshWindow) (α β : Type) :
    (∀ life : Desk.Life window α, Desk.Disciplined life) ∧
      ∀ life : Syncs.Life window β, Syncs.Disciplined life :=
  ⟨Desk.disciplined, Syncs.disciplined⟩

def refusedOnce : Desk.Life default Nat := .ofList
  ([.begin 1 "balance" 0] ++ Keeper.loggedIn.map (.keeper · 0) ++
    [.answered 1 (.error ⟨.authentication, "expired"⟩) 5, .keeper (.reject 1 1) 5,
      .keeper (.enter 1 0) 5, .keeper (.answered 1 (.ok Keeper.tenMinutes) 0) 6,
      .keeper (.saved 1 (.ok ())) 6, .keeper (.install 1) 6, .keeper (.leave 1) 6,
      .answered 1 (.ok 70) 9]) (.abandon 0)

def onePage : Syncs.Life default Unit := .ofList
  ([.begin 1, .goOn 1 0] ++ Keeper.loggedIn.map (fun event => .desk (.keeper event 0)) ++
    [.desk (.answered 1 (.ok (.page ⟨[⟨7, -200, "", ""⟩], some 1⟩)) 2), .goOn 1 2, .goOn 1 2,
      .goOn 1 2]) (.abandon 0)

theorem call_discipline_atWork :
    (Desk.runs (Desk.tale refusedOnce 1 0 19) =
        [⟨1, Keeper.tenMinutes⟩, ⟨2, Keeper.tenMinutes⟩] ∧
      Desk.Story (Desk.tale refusedOnce 1 0 19) (.ok 70)) ∧
    Syncs.gathered Syncs.Reply.notice? onePage 1 0 16 = [.transactionsSynced 1] := by
  constructor
  · have there : ∀ k < 19, 0 < k → ((refusedOnce.before k).call? 1).isSome = true := by decide
    refine ⟨rfl, ((call_discipline default Nat Nat).1 refusedOnce).told 1 "balance" 0 18 _ ?_⟩
    refine ⟨⟨0, rfl, rfl⟩, by decide, fun k after upTo absent => ?_, rfl, _, _, rfl⟩
    have present := there k (Nat.lt_succ_of_le upTo) after
    rw [absent] at present
    cases present
  · have there : ∀ k < 16, 0 < k → ((onePage.before k).walk? 1).isSome = true := by decide
    refine (((call_discipline default Nat Unit).2 onePage).synced 1 0 15 (.ok 1)
      (some (.transactionsSynced 1)) ?_).2
    refine ⟨⟨rfl, rfl⟩, by decide, fun k after upTo absent => ?_, rfl, rfl⟩
    have present := there k (Nat.lt_succ_of_le upTo) after
    rw [absent] at present
    cases present

end Steward
