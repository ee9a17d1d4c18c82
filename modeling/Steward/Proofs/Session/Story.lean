import Steward.Proofs.Keeper.Requests
import Steward.Proofs.Session.Seated
/-!
# The story of a call

What one call of the service does can be told as a list of deeds: it asks the keeper for a
credential, contacts the token endpoint for it, runs with what it is given, and gets an answer.
There are four stories, and each has its result.  `Sofar` is the part of a story that goes with the
stage of the call, and every event of the call adds to it what is due.
-/

set_option autoImplicit false

namespace Steward

namespace Keeper

theorem refused_of_known {keeper next : Keeper} {event : Event} {reply : Reply}
    (change : Change keeper event next reply) {stage : Stage}
    (found : keeper.stage? event.call = some stage)
    (begins : (∃ call, event = .arrive call) ∨ ∃ call rejected, event = .reject call rejected) :
    reply = .refused := by
  rcases begins with ⟨call, rfl⟩ | ⟨call, rejected, rfl⟩
  · cases change with
    | refused => rfl
    | arrived absent => cases absent.symm.trans found
    | refresh due => cases due
    | login due => cases due
  · cases change with
    | refused => rfl
    | rejected absent => cases absent.symm.trans found
    | refresh due => cases due
    | login due => cases due

end Keeper

namespace Desk

variable {α : Type}

/-! ## Deeds -/

inductive Deed (α : Type) where
  | wants
  | rejects (number : Nat)
  | asks (request : Keeper.Request)
  | fails (error : AuthError)
  | runs (held : Held)
  | gets (answer : Except RemoteError α)

/-- By this event a request to the keeper begins. -/
def opening : Keeper.Event → Keeper.Reply → List (Deed α)
  | .arrive _, .look => [.wants]
  | .reject _ rejected, .wait => [.rejects rejected]
  | _, _ => []

def deeds : Event α → Reply α → List (Deed α)
  | .keeper event _, .keeper reply => opening event reply ++ reply.request?.toList.map .asks
  | .keeper _ _, .run held => [.runs held]
  | .keeper _ _, .finished _ (.error (.auth error)) _ => [.fails error]
  | .answered _ answer _, .replace _ | .answered _ answer _, .finished .. => [.gets answer]
  | _, _ => []

def Deed.run? : Deed α → Option Held
  | .runs held => some held
  | _ => none

def Deed.answer? : Deed α → Option (Except RemoteError α)
  | .gets answer => some answer
  | _ => none

def runs (deeds : List (Deed α)) : List Held := deeds.filterMap Deed.run?

def answers (deeds : List (Deed α)) : List (Except RemoteError α) := deeds.filterMap Deed.answer?

def obtaining (asked : List Keeper.Request) : List (Deed α) := .wants :: asked.map .asks

def replacing (refused : Held) (asked : List Keeper.Request) : List (Deed α) :=
  .rejects refused.number :: asked.map .asks

/-! ## Stories -/

/-- What a call does from its beginning to its end, and its result.  Only a rejection is answered
by asking for another credential, and the second answer stands whatever it is. -/
inductive Story : List (Deed α) → Except AccountError α → Prop where
  | unobtained {asked : List Keeper.Request} {error : AuthError} :
      Story (obtaining asked ++ [.fails error]) (.error (.auth error))
  | settled {asked : List Keeper.Request} {held : Held} {answer : Except RemoteError α}
      (taken : ¬ Session.IsRejection answer) :
      Story (obtaining asked ++ [.runs held, .gets answer]) (Session.standing answer)
  | unreplaced {asked again : List Keeper.Request} {held : Held} {answer : Except RemoteError α}
      {error : AuthError} (rejection : Session.IsRejection answer) :
      Story (obtaining asked ++ [.runs held, .gets answer] ++ replacing held again ++
        [.fails error]) (.error (.auth error))
  | retried {asked again : List Keeper.Request} {held fresh : Held}
      {answer last : Except RemoteError α} (rejection : Session.IsRejection answer)
      (differs : fresh.number ≠ held.number) :
      Story (obtaining asked ++ [.runs held, .gets answer] ++ replacing held again ++
        [.runs fresh, .gets last]) (Session.standing last)

/-- What a call at this stage has done; the keeper knows it or not. -/
inductive Sofar : Session.Stage → Bool → List (Deed α) → Prop where
  | begun : Sofar .obtaining false []
  | obtaining {asked : List Keeper.Request} : Sofar .obtaining true (obtaining asked)
  | running {asked : List Keeper.Request} {held : Held} :
      Sofar (.running held) false (Desk.obtaining asked ++ [.runs held])
  | refused {asked : List Keeper.Request} {held : Held} {answer : Except RemoteError α}
      (rejection : Session.IsRejection answer) :
      Sofar (.replacing held) false (Desk.obtaining asked ++ [.runs held, .gets answer])
  | replacing {asked again : List Keeper.Request} {held : Held} {answer : Except RemoteError α}
      (rejection : Session.IsRejection answer) :
      Sofar (.replacing held) true
        (Desk.obtaining asked ++ [.runs held, .gets answer] ++ Desk.replacing held again)
  | rerunning {asked again : List Keeper.Request} {held fresh : Held}
      {answer : Except RemoteError α} (rejection : Session.IsRejection answer)
      (differs : fresh.number ≠ held.number) :
      Sofar (.rerunning fresh) false
        (Desk.obtaining asked ++ [.runs held, .gets answer] ++ Desk.replacing held again ++
          [.runs fresh])

section Runs

variable {told : List (Deed α)} {result : Except AccountError α}

@[simp] theorem runs_nil : runs ([] : List (Deed α)) = [] := rfl

@[simp] theorem runs_cons (deed : Deed α) (rest : List (Deed α)) :
    runs (deed :: rest) = deed.run?.toList ++ runs rest := by
  cases deed <;> rfl

@[simp] theorem runs_append (first second : List (Deed α)) :
    runs (first ++ second) = runs first ++ runs second := List.filterMap_append

@[simp] theorem runs_obtaining (asked : List Keeper.Request) :
    runs (obtaining asked : List (Deed α)) = [] := by
  simp [runs, obtaining, Deed.run?]

@[simp] theorem runs_replacing (refused : Held) (asked : List Keeper.Request) :
    runs (replacing refused asked : List (Deed α)) = [] := by
  simp [runs, replacing, Deed.run?]

@[simp] theorem answers_nil : answers ([] : List (Deed α)) = [] := rfl

@[simp] theorem answers_cons (deed : Deed α) (rest : List (Deed α)) :
    answers (deed :: rest) = deed.answer?.toList ++ answers rest := by
  cases deed <;> rfl

@[simp] theorem answers_append (first second : List (Deed α)) :
    answers (first ++ second) = answers first ++ answers second := List.filterMap_append

@[simp] theorem answers_obtaining (asked : List Keeper.Request) :
    answers (obtaining asked : List (Deed α)) = [] := by
  simp [answers, obtaining, Deed.answer?]

@[simp] theorem answers_replacing (refused : Held) (asked : List Keeper.Request) :
    answers (replacing refused asked : List (Deed α)) = [] := by
  simp [answers, replacing, Deed.answer?]

theorem not_fails_obtaining (asked : List Keeper.Request) (error : AuthError) :
    (.fails error : Deed α) ∉ obtaining asked := by
  simp [obtaining]

theorem not_fails_replacing (refused : Held) (asked : List Keeper.Request) (error : AuthError) :
    (.fails error : Deed α) ∉ replacing refused asked := by
  simp [replacing]

/-- The operation is run at most twice, and the second time with another object than the first. -/
structure AtMostTwice (told : List (Deed α)) : Prop where
  few : (runs told).length ≤ 2
  differ : ∀ first second, runs told = [first, second] → second.number ≠ first.number

theorem AtMostTwice.of_fewer (fewer : (runs told).length ≤ 1) : AtMostTwice told := by
  refine ⟨Nat.le_succ_of_le fewer, fun first second twice => ?_⟩
  rw [twice] at fewer
  exact absurd fewer (by simp)

theorem AtMostTwice.of_two {held fresh : Held} (twice : runs told = [held, fresh])
    (differs : fresh.number ≠ held.number) : AtMostTwice told := by
  refine ⟨by simp [twice], fun first second same => ?_⟩
  cases twice.symm.trans same
  exact differs

theorem atMostTwice_of_sofar {stage : Session.Stage} {known : Bool}
    (sofar : Sofar stage known told) : AtMostTwice told := by
  cases sofar with
  | @rerunning asked again held fresh answer rejection differs =>
      have twice : (runs (Desk.obtaining asked ++ [.runs held, .gets answer] ++
          Desk.replacing held again ++ [.runs fresh])) = [held, fresh] := by
        simp [Deed.run?]
      exact .of_two twice differs
  | _ => exact .of_fewer (by simp [Deed.run?])

theorem atMostTwice_of_story (story : Story told result) : AtMostTwice told := by
  cases story with
  | @retried asked again held fresh answer last rejection differs =>
      have twice : (runs (obtaining asked ++ [.runs held, .gets answer] ++ replacing held again ++
          [.runs fresh, .gets last])) = [held, fresh] := by
        simp [Deed.run?]
      exact .of_two twice differs
  | _ => exact .of_fewer (by simp [Deed.run?])

/-- The operation is run a second time if and only if the first answer was a rejection and another
credential was given. -/
theorem runs_twice_iff (story : Story told result) :
    (runs told).length = 2 ↔
      (∃ answer, (answers told).head? = some answer ∧ Session.IsRejection answer) ∧
        ∀ error, .fails error ∉ told := by
  cases story with
  | unobtained => simp [Deed.run?, Deed.answer?]
  | settled taken => simp [Deed.run?, Deed.answer?, taken]
  | @unreplaced asked again held answer error rejection =>
      refine iff_of_false (by simp [Deed.run?]) fun given => given.2 error ?_
      exact List.mem_append_right _ List.mem_cons_self
  | retried rejection =>
      simp [Deed.run?, Deed.answer?, rejection, not_fails_obtaining, not_fails_replacing]

end Runs

/-! ## How stories go on -/

theorem obtaining_append (asked more : List Keeper.Request) :
    (obtaining asked ++ more.map .asks : List (Deed α)) = obtaining (asked ++ more) := by
  rw [obtaining, List.cons_append, ← List.map_append]
  rfl

theorem replacing_append (refused : Held) (asked more : List Keeper.Request) :
    (replacing refused asked ++ more.map .asks : List (Deed α)) =
      replacing refused (asked ++ more) := by
  rw [replacing, List.cons_append, ← List.map_append]
  rfl

theorem deeds_refused (event : Event α) : deeds event .refused = [] := by
  cases event <;> rfl

theorem deeds_abandoned (event : Event α) : deeds event .abandoned = [] := by
  cases event <;> rfl

theorem opening_refused (event : Keeper.Event) : (opening event .refused : List (Deed α)) = [] := by
  cases event <;> rfl

theorem opening_of_known {keeper next : Keeper} {event : Keeper.Event} {reply : Keeper.Reply}
    (change : Keeper.Change keeper event next reply) {stage : Keeper.Stage}
    (found : keeper.stage? event.call = some stage) :
    (opening event reply : List (Deed α)) = [] := by
  unfold opening
  split
  · next call => cases Keeper.refused_of_known change found (.inl ⟨call, rfl⟩)
  · next call rejected => cases Keeper.refused_of_known change found (.inr ⟨call, rejected, rfl⟩)
  · rfl

section Step

variable {desk next : Desk} {event : Event α} {reply : Reply α} {written : List (Deed α)}

theorem sofar_of_went {keeper next : Keeper} {event : Keeper.Event} {reply : Keeper.Reply}
    {stage : Session.Stage} {now : Nat} (placed : Placed keeper event.call stage)
    (admitted : stage.admits event = true) (change : Keeper.Change keeper event next reply)
    (unfinished : ∀ result, reply ≠ .finished result)
    (sofar : Sofar stage (keeper.stage? event.call).isSome written) :
    Sofar stage (next.stage? event.call).isSome
      (written ++ deeds (.keeper event now) (.keeper reply)) := by
  cases known : keeper.stage? event.call with
  | none =>
      rw [known] at sofar
      rcases Keeper.begins_of_absent change known with ⟨rfl, rfl⟩ | ⟨⟨call, rfl⟩, rfl, there⟩ |
        ⟨call, rejected, rfl, rfl, there⟩
      · rw [known, deeds, opening_refused]
        simpa [Keeper.Reply.request?] using sofar
      · rw [there]
        cases sofar with
        | begun => exact .obtaining
        | _ => cases admitted
      · rw [there]
        cases sofar with
        | refused rejection =>
            cases eq_of_beq admitted
            exact .replacing rejection
        | _ => cases admitted
  | some inside =>
      rw [known] at sofar
      obtain ⟨after, there⟩ := Keeper.goes_on_of_change change (undropped_of_admits admitted)
        unfinished known (brings_of_placed placed known)
      rw [there, deeds, opening_of_known change known, List.nil_append]
      cases sofar with
      | obtaining =>
          rw [obtaining_append]
          exact .obtaining
      | replacing rejection =>
          rw [List.append_assoc, replacing_append]
          exact .replacing rejection

section Stages

variable {stage : Session.Stage} {known : Bool}

theorem sofar_of_runs (sofar : Sofar stage true written) {held : Held} {after : Session.Stage}
    (runs : stage.RunsWith held after) (differs : refused? stage ≠ some held.number) :
    Sofar after false (written ++ [.runs held]) := by
  cases runs with
  | first =>
      cases sofar with
      | obtaining => exact .running
  | again =>
      cases sofar with
      | replacing rejection =>
          exact .rerunning rejection fun same => differs (congrArg some same.symm)

theorem story_of_failure (sofar : Sofar stage true written) (error : AuthError) :
    Story (written ++ [.fails error]) (.error (.auth error)) := by
  cases sofar with
  | obtaining => exact .unobtained
  | replacing rejection => exact .unreplaced rejection

theorem sofar_of_rejection {used : Held} {answer : Except RemoteError α}
    (sofar : Sofar (.running used) known written) (rejection : Session.IsRejection answer) :
    Sofar (.replacing used) known (written ++ [.gets answer]) := by
  cases sofar with
  | running =>
      rw [List.append_assoc]
      exact .refused rejection

theorem story_of_settles {answer : Except RemoteError α} (sofar : Sofar stage known written)
    (settles : stage.Settles answer) :
    Story (written ++ [.gets answer]) (Session.standing answer) := by
  cases settles with
  | first taken =>
      cases sofar with
      | running =>
          rw [List.append_assoc]
          exact .settled taken
  | again =>
      cases sofar with
      | rerunning rejection differs =>
          rw [List.append_assoc (_ ++ replacing _ _)]
          exact .retried rejection differs

end Stages

def Reply.ended? : Reply α → Option (String × Except AccountError α)
  | .finished operation result _ => some (operation, result)
  | _ => none

/-- What an event leaves of the call to which it belongs. -/
inductive Goes (number : Nat) (call : Call) (next : Desk) (told : List (Deed α)) :
    Reply α → Prop where
  | on {reply : Reply α} {stage : Session.Stage}
      (there : next.call? number = some { call with stage := stage })
      (sofar : Sofar stage (next.keeper.stage? number).isSome told)
      (goesOn : reply.ended? = none) : Goes number call next told reply
  | ended {result : Except AccountError α} {now : Nat} (gone : next.call? number = none)
      (story : Story told result) :
      Goes number call next told (.finished call.operation result (call.samples result now))
  | abandoned (gone : next.call? number = none) : Goes number call next told .abandoned

/-- Every event of a call adds to its story, or ends it. -/
theorem goes_of_step (seated : Seated desk) (step : Step desk event next reply) {call : Call}
    (found : desk.call? event.number = some call)
    (sofar : Sofar call.stage (desk.keeper.stage? event.number).isSome written) :
    Goes event.number call next (written ++ deeds event reply) reply := by
  cases step with
  | refused =>
      rw [deeds_refused, List.append_nil]
      exact .on found sofar rfl
  | begun absent => cases absent.symm.trans found
  | foreign absent => cases absent.symm.trans found
  | went there admitted change unfinished =>
      cases there.symm.trans found
      exact .on found
        (sofar_of_went (seated.placed _ call found) admitted change unfinished sofar) rfl
  | obtained there change runs =>
      cases there.symm.trans found
      obtain ⟨⟨inside, known⟩, absent, -⟩ := Keeper.ended_of_finished change
      simp only [Event.number, known] at sofar ⊢
      refine .on (call?_place_self _ _ _) ?_ rfl
      simp only [place, absent]
      exact sofar_of_runs sofar runs (acceptable_of_given seated found change _ rfl).2
  | unobtained there change waits =>
      cases there.symm.trans found
      obtain ⟨⟨inside, known⟩, -, -⟩ := Keeper.ended_of_finished change
      simp only [Event.number, known] at sofar ⊢
      exact .ended (call?_forget_self _ _) (story_of_failure sofar _)
  | stray there change busy =>
      obtain ⟨⟨inside, known⟩, -, -⟩ := Keeper.ended_of_finished change
      cases (absent_of_busy (seated.placed _ _ there) busy).symm.trans known
  | rejected there stage rejection =>
      cases there.symm.trans found
      rw [stage] at sofar
      exact .on (call?_place_self _ _ _) (sofar_of_rejection sofar rejection) rfl
  | settled there settles =>
      cases there.symm.trans found
      exact .ended (call?_forget_self _ _) (story_of_settles sofar settles)
  | abandoned => exact .abandoned (call?_forget_self _ _)

end Step

end Desk

end Steward
