import Mathlib.Data.Fintype.EquivFin
import Steward.Proofs.Paging.Traversal
import Steward.Proofs.Session.Calls
import Steward.Session.Syncs
/-!
# Walks of all transactions

A walk that is not given up ends in one of two ways.  If all its calls for pages succeed, it tells
listeners once how many transactions it has passed.  If one of them fails, it ends with that failure
and tells nothing.
-/

set_option autoImplicit false

namespace Steward

namespace Desk

variable {α : Type} {desk next : Desk} {event : Event α} {reply : Reply α}

/-- A call that does not exist does not end, and only its beginning brings it about. -/
theorem quiet_of_absent (step : Step desk event next reply)
    (absent : desk.call? event.number = none)
    (unbegun : ∀ number operation now, event ≠ .begin number operation now) :
    next.call? event.number = none ∧ reply.ended? = none := by
  cases step with
  | refused => exact ⟨absent, rfl⟩
  | begun => exact absurd rfl (unbegun _ _ _)
  | foreign => exact ⟨absent, rfl⟩
  | went found => cases absent.symm.trans found
  | obtained found => cases absent.symm.trans found
  | unobtained found => cases absent.symm.trans found
  | stray found => cases absent.symm.trans found
  | rejected found => cases absent.symm.trans found
  | settled found => cases absent.symm.trans found
  | abandoned found => cases absent.symm.trans found

theorem gone_of_ended (step : Step desk event next reply) (ended : reply.ended?.isSome = true) :
    next.call? event.number = none := by
  cases step with
  | unobtained => exact call?_forget_self _ _
  | settled => exact call?_forget_self _ _
  | _ => cases ended

end Desk

namespace Syncs

variable {β : Type}

/-! ## Steps -/

theorem walk?_place (syncs : Syncs) (number : Nat) (walk : Walk) (other : Nat) :
    (syncs.place number walk).walk? other =
      if other = number then some walk else syncs.walk? other :=
  lookup_placed syncs.walks number other walk

theorem walk?_forget (syncs : Syncs) (number other : Nat) :
    (syncs.forget number).walk? other = if other = number then none else syncs.walk? other :=
  lookup_forgotten syncs.walks number other

theorem walk?_place_self (syncs : Syncs) (number : Nat) (walk : Walk) :
    (syncs.place number walk).walk? number = some walk :=
  (walk?_place syncs number walk number).trans (if_pos rfl)

theorem walk?_forget_self (syncs : Syncs) (number : Nat) :
    (syncs.forget number).walk? number = none :=
  (walk?_forget syncs number number).trans (if_pos rfl)

def Event.number : Event β → Nat
  | .desk event => event.number
  | .begin number | .goOn number _ | .abandon number => number

/-- Everything an event can do to the walks. -/
inductive Step (syncs : Syncs) : Event β → Syncs → Reply β → Prop where
  | refused {event : Event β} : Step syncs event syncs .refused
  | foreign {event : Desk.Event (Answer β)} {next : Desk} {reply : Desk.Reply (Answer β)}
      (absent : syncs.walk? event.number = none) (step : Desk.Step syncs.desk event next reply) :
      Step syncs (.desk event) { syncs with desk := next } (.desk reply)
  | went {event : Desk.Event (Answer β)} {walk : Walk} {next : Desk}
      {reply : Desk.Reply (Answer β)} (found : syncs.walk? event.number = some walk)
      (free : isReserved event = false) (step : Desk.Step syncs.desk event next reply)
      (unfinished : result? reply = none) :
      Step syncs (.desk event) { syncs with desk := next } (.desk reply)
  | given {event : Desk.Event (Answer β)} {walk : Walk} {next : Desk}
      {reply : Desk.Reply (Answer β)} {result : Except AccountError (Page Transaction)}
      (found : syncs.walk? event.number = some walk) (free : isReserved event = false)
      (step : Desk.Step syncs.desk event next reply) (gives : result? reply = some result) :
      Step syncs (.desk event)
        ({ syncs with desk := next }.place event.number ⟨walk.cursor, walk.count, .given result⟩)
        (.desk reply)
  | begun {number : Nat} (absent : syncs.walk? number = none)
      (free : syncs.desk.call? number = none) :
      Step syncs (.begin number) (syncs.place number ⟨.start, 0, .walking⟩) .progress
  | exhausted {number now count : Nat} {cursor : Cursor Transaction}
      (found : syncs.walk? number = some ⟨cursor, count, .walking⟩)
      (ends : cursor.pull = .ended) :
      Step syncs (.goOn number now) (syncs.forget number)
        (.ended (.ok count) (some (.transactionsSynced count)))
  | passed {number now count : Nat} {cursor rest : Cursor Transaction} {value : Transaction}
      (found : syncs.walk? number = some ⟨cursor, count, .walking⟩)
      (passes : cursor.pull = .item value rest) :
      Step syncs (.goOn number now) (syncs.place number ⟨rest, count + 1, .walking⟩) .progress
  | called {number now count page : Nat} {cursor : Cursor Transaction} {next : Desk}
      (found : syncs.walk? number = some ⟨cursor, count, .walking⟩)
      (needs : cursor.pull = .fetch page)
      (step : Desk.Step syncs.desk (.begin number operation now : Desk.Event (Answer β)) next
        .obtain) :
      Step syncs (.goOn number now)
        ({ syncs with desk := next }.place number ⟨cursor, count, .calling⟩) (.call page)
  | turned {number now count : Nat} {cursor : Cursor Transaction} {page : Page Transaction}
      (found : syncs.walk? number = some ⟨cursor, count, .given (.ok page)⟩) :
      Step syncs (.goOn number now) (syncs.place number ⟨cursor.supply page, count, .walking⟩)
        .progress
  | broken {number now count : Nat} {cursor : Cursor Transaction} {error : AccountError}
      (found : syncs.walk? number = some ⟨cursor, count, .given (.error error)⟩) :
      Step syncs (.goOn number now) (syncs.forget number) (.ended (.error error) none)
  | abandoned {number : Nat} {walk : Walk} {next : Desk} {reply : Desk.Reply (Answer β)}
      (found : syncs.walk? number = some walk)
      (step : Desk.Step syncs.desk (.abandon number) next reply) :
      Step syncs (.abandon number) ({ syncs with desk := next }.forget number) .abandoned

theorem step_goOn {syncs : Syncs} {number : Nat} {walk : Walk} (now : Nat)
    (found : syncs.walk? number = some walk) :
    Step (β := β) syncs (.goOn number now) (syncs.goOn (β := β) number walk now).1
      (syncs.goOn (β := β) number walk now).2 := by
  obtain ⟨cursor, count, stage⟩ := walk
  cases stage with
  | walking =>
      simp only [goOn]
      split
      · next ends => exact .exhausted found ends
      · next passes => exact .passed found passes
      · next needs =>
          have step := Desk.step_of_event syncs.desk
            (.begin number operation now : Desk.Event (Answer β))
          split
          · next same =>
              rw [same] at step
              exact .called found needs step
          · exact .refused
  | calling => exact .refused
  | given result =>
      cases result with
      | ok page => exact .turned found
      | error error => exact .broken found

theorem step_of_event (syncs : Syncs) (event : Event β) :
    Step syncs event (syncs.step event).1 (syncs.step event).2 := by
  cases event with
  | desk event =>
      have moved := Desk.step_of_event syncs.desk event
      simp only [step]
      split
      · next absent => exact .foreign absent moved
      · next found =>
          split
          · exact .refused
          · next free =>
              split
              · next gives => exact .given found (Bool.eq_false_iff.mpr free) moved gives
              · next unfinished => exact .went found (Bool.eq_false_iff.mpr free) moved unfinished
  | begin number =>
      simp only [step]
      split
      · next absent free => exact .begun absent free
      · exact .refused
  | goOn number now =>
      simp only [step]
      split
      · next found => exact step_goOn now found
      · exact .refused
  | abandon number =>
      simp only [step]
      split
      · next found => exact .abandoned found (Desk.step_of_event _ _)
      · exact .refused

/-! ## How far a walk has come -/

def Reply.result? : Reply β → Option (Except AccountError (Page Transaction))
  | .desk reply => Syncs.result? reply
  | _ => none

def Reply.ended? : Reply β → Option (Except AccountError Nat × Option Notice)
  | .ended result notice => some (result, notice)
  | _ => none

def Reply.notice? : Reply β → Option Notice
  | .ended _ notice => notice
  | _ => none

def Succeeded (given : List (Except AccountError (Page Transaction))) : Prop :=
  ∀ answer ∈ given, ∃ page, answer = .ok page

/-- How a walk ends that was given these answers for its pages. -/
inductive Synced : List (Except AccountError (Page Transaction)) → Except AccountError Nat →
    Option Notice → Prop where
  | whole {given : List (Except AccountError (Page Transaction))} {passed : List Transaction}
      (succeeded : Succeeded given) (drained : Paging.isOver given = true)
      (passes : Paging.traversal given = passed.map .ok) :
      Synced given (.ok passed.length) (some (.transactionsSynced passed.length))
  | broken {given : List (Except AccountError (Page Transaction))} {error : AccountError}
      (succeeded : Succeeded given) : Synced (given ++ [.error error]) (.error error) none

/-- The walk has passed as many transactions as it has counted, on the pages that it was given. -/
inductive Walked (given : List (Except AccountError (Page Transaction))) (idle : Prop) :
    Walk → Prop where
  | walking {cursor : Cursor Transaction} {yielded : List (Except AccountError Transaction)}
      (succeeded : Succeeded given) (fits : Paging.Fits cursor given yielded) (free : idle) :
      Walked given idle ⟨cursor, yielded.length, .walking⟩
  | calling {cursor : Cursor Transaction} {yielded : List (Except AccountError Transaction)}
      {page : Nat} (succeeded : Succeeded given) (fits : Paging.Fits cursor given yielded)
      (needs : cursor.pull = .fetch page) : Walked given idle ⟨cursor, yielded.length, .calling⟩
  | given {before : List (Except AccountError (Page Transaction))} {cursor : Cursor Transaction}
      {yielded : List (Except AccountError Transaction)} {page : Nat}
      {result : Except AccountError (Page Transaction)} (last : given = before ++ [result])
      (succeeded : Succeeded before) (fits : Paging.Fits cursor before yielded)
      (needs : cursor.pull = .fetch page) (free : idle) :
      Walked given idle ⟨cursor, yielded.length, .given result⟩

section Given

variable {given : List (Except AccountError (Page Transaction))}

theorem failure_of_succeeded (succeeded : Succeeded given) : Paging.failure given = none := by
  induction given with
  | nil => rfl
  | cons answer rest ih =>
      obtain ⟨page, rfl⟩ := succeeded answer List.mem_cons_self
      have later := ih fun other member => succeeded other (List.mem_cons_of_mem _ member)
      by_cases empty : page.items.isEmpty = true
      · simp [Paging.failure, empty]
      · simp [Paging.failure, empty, later]

/-- If all calls for pages succeed, a walk comes to nothing but transactions. -/
theorem passed_of_succeeded (succeeded : Succeeded given) :
    ∃ passed : List Transaction, Paging.traversal given = passed.map .ok := by
  have gathers : Paging.gathered given = (Paging.items given).map .ok := by
    rw [Paging.gathered, failure_of_succeeded succeeded]
    exact List.append_nil _
  cases tells : Paging.reported given with
  | none => exact ⟨_, (Paging.traversal_of_unreported tells).trans gathers⟩
  | some total =>
      refine ⟨(Paging.items given).take total, ?_⟩
      rw [Paging.traversal_of_reported tells, gathers, List.map_take]

theorem succeeded_append (succeeded : Succeeded given) (page : Page Transaction) :
    Succeeded (given ++ [.ok page]) := by
  intro answer member
  rcases List.mem_append.mp member with before | last
  · exact succeeded answer before
  · exact ⟨page, List.mem_singleton.mp last⟩

theorem synced_of_ended {cursor : Cursor Transaction}
    {yielded : List (Except AccountError Transaction)} (succeeded : Succeeded given)
    (fits : Paging.Fits cursor given yielded) (ends : cursor.pull = .ended) :
    Synced given (.ok yielded.length) (some (.transactionsSynced yielded.length)) := by
  have pulls := Paging.pulls_of_fits fits
  rw [ends] at pulls
  obtain ⟨passed, passes⟩ := passed_of_succeeded succeeded
  cases pulls with
  | ended drained all =>
      have synced := Synced.whole succeeded drained passes
      rwa [← List.length_map (f := Except.ok (ε := AccountError)), ← passes, ← all] at synced

theorem walked_of_item {cursor rest : Cursor Transaction} {value : Transaction} {idle : Prop}
    {yielded : List (Except AccountError Transaction)} (succeeded : Succeeded given)
    (fits : Paging.Fits cursor given yielded) (passes : cursor.pull = .item value rest)
    (free : idle) : Walked given idle ⟨rest, yielded.length + 1, .walking⟩ := by
  have pulls := Paging.pulls_of_fits fits
  rw [passes] at pulls
  cases pulls with
  | item fits =>
      have walked := Walked.walking succeeded fits free
      rwa [List.length_append, List.length_singleton] at walked

end Given

/-- What an event leaves of the walk to which it belongs. -/
inductive Goes (number : Nat) (next : Syncs)
    (given : List (Except AccountError (Page Transaction))) : Reply β → Prop where
  | on {reply : Reply β} {walk : Walk} (there : next.walk? number = some walk)
      (walked : Walked (given ++ reply.result?.toList) (next.desk.call? number = none) walk)
      (goesOn : reply.ended? = none) : Goes number next given reply
  | ended {result : Except AccountError Nat} {notice : Option Notice}
      (gone : next.walk? number = none) (synced : Synced given result notice) :
      Goes number next given (.ended result notice)
  | abandoned (gone : next.walk? number = none) : Goes number next given .abandoned

section Step

variable {syncs next : Syncs} {event : Event β} {reply : Reply β}
  {given : List (Except AccountError (Page Transaction))}

theorem ended_of_result {reply : Desk.Reply (Answer β)}
    {result : Except AccountError (Page Transaction)} (gives : result? reply = some result) :
    reply.ended?.isSome = true := by
  unfold result? at gives
  split at gives
  · rfl
  · rfl
  · cases gives

theorem unbegun_of_free {event : Desk.Event (Answer β)} (free : isReserved event = false)
    (number : Nat) (operation : String) (now : Nat) : event ≠ .begin number operation now := by
  rintro rfl
  cases free

theorem walked_of_went {event : Desk.Event (Answer β)} {desk next : Desk}
    {reply : Desk.Reply (Answer β)} {walk : Walk} (free : isReserved event = false)
    (step : Desk.Step desk event next reply)
    (walked : Walked given (desk.call? event.number = none) walk) :
    Walked given (next.call? event.number = none) walk := by
  cases walked with
  | walking succeeded fits idle =>
      exact .walking succeeded fits (Desk.quiet_of_absent step idle (unbegun_of_free free)).1
  | calling succeeded fits needs => exact .calling succeeded fits needs
  | given last succeeded fits needs idle =>
      exact .given last succeeded fits needs
        (Desk.quiet_of_absent step idle (unbegun_of_free free)).1

theorem walked_of_given {event : Desk.Event (Answer β)} {desk next : Desk}
    {reply : Desk.Reply (Answer β)} {walk : Walk}
    {result : Except AccountError (Page Transaction)} (free : isReserved event = false)
    (step : Desk.Step desk event next reply) (gives : result? reply = some result)
    (walked : Walked given (desk.call? event.number = none) walk) :
    Walked (given ++ [result]) (next.call? event.number = none)
      ⟨walk.cursor, walk.count, .given result⟩ := by
  have ended := ended_of_result gives
  have busy : desk.call? event.number ≠ none := by
    intro idle
    rw [(Desk.quiet_of_absent step idle (unbegun_of_free free)).2] at ended
    cases ended
  cases walked with
  | walking _ _ idle => exact absurd idle busy
  | calling succeeded fits needs =>
      exact .given rfl succeeded fits needs (Desk.gone_of_ended step ended)
  | given _ _ _ _ idle => exact absurd idle busy

theorem goes_of_step (step : Step syncs event next reply) {walk : Walk}
    (found : syncs.walk? event.number = some walk)
    (walked : Walked given (syncs.desk.call? event.number = none) walk) :
    Goes event.number next given reply := by
  cases step with
  | refused => exact .on found ((List.append_nil given).symm ▸ walked) rfl
  | foreign absent => cases absent.symm.trans found
  | went there free step unfinished =>
      cases there.symm.trans found
      refine .on found ?_ rfl
      rw [Reply.result?, unfinished, Option.toList_none, List.append_nil]
      exact walked_of_went free step walked
  | given there free step gives =>
      cases there.symm.trans found
      refine .on (walk?_place_self _ _ _) ?_ rfl
      rw [Reply.result?, gives]
      exact walked_of_given free step gives walked
  | begun absent => cases absent.symm.trans found
  | exhausted there ends =>
      cases there.symm.trans found
      cases walked with
      | walking succeeded fits =>
          exact .ended (walk?_forget_self _ _) (synced_of_ended succeeded fits ends)
  | passed there passes =>
      cases there.symm.trans found
      cases walked with
      | walking succeeded fits idle =>
          refine .on (walk?_place_self _ _ _) ?_ rfl
          exact (List.append_nil given).symm ▸ walked_of_item succeeded fits passes idle
  | called there needs =>
      cases there.symm.trans found
      cases walked with
      | walking succeeded fits =>
          refine .on (walk?_place_self _ _ _) ?_ rfl
          exact (List.append_nil given).symm ▸ .calling succeeded fits needs
  | turned there =>
      cases there.symm.trans found
      cases walked with
      | given last succeeded fits needs idle =>
          subst last
          refine .on (walk?_place_self _ _ _) ?_ rfl
          exact (List.append_nil _).symm ▸
            .walking (succeeded_append succeeded _) (Paging.fits_of_supply fits needs _) idle
  | broken there =>
      cases there.symm.trans found
      cases walked with
      | given last succeeded =>
          subst last
          exact .ended (walk?_forget_self _ _) (.broken succeeded)
  | abandoned => exact .abandoned (walk?_forget_self _ _)

theorem silent_of_going (goesOn : reply.ended? = none) : reply.notice? = none := by
  cases reply with
  | ended => cases goesOn
  | _ => rfl

theorem other_of_step {number : Nat} (step : Step syncs event next reply)
    (other : event.number ≠ number) :
    next.walk? number = syncs.walk? number ∧
      next.desk.call? number = syncs.desk.call? number := by
  have placed : ∀ {syncs : Syncs} {own : Nat} {walk : Walk}, own ≠ number →
      (syncs.place own walk).walk? number = syncs.walk? number := fun differs =>
    (walk?_place _ _ _ _).trans (if_neg differs.symm)
  have forgotten : ∀ {syncs : Syncs} {own : Nat}, own ≠ number →
      (syncs.forget own).walk? number = syncs.walk? number := fun differs =>
    (walk?_forget _ _ _).trans (if_neg differs.symm)
  cases step with
  | refused => exact ⟨rfl, rfl⟩
  | foreign _ step => exact ⟨rfl, (Desk.other_of_step step other).1⟩
  | went _ _ step => exact ⟨rfl, (Desk.other_of_step step other).1⟩
  | given _ _ step => exact ⟨placed other, (Desk.other_of_step step other).1⟩
  | begun => exact ⟨placed other, rfl⟩
  | exhausted => exact ⟨forgotten other, rfl⟩
  | passed => exact ⟨placed other, rfl⟩
  | called _ _ step => exact ⟨placed other, (Desk.other_of_step step other).1⟩
  | turned => exact ⟨placed other, rfl⟩
  | broken => exact ⟨forgotten other, rfl⟩
  | abandoned _ step => exact ⟨forgotten other, (Desk.other_of_step step other).1⟩

end Step

/-! ## Lives -/

variable {window : RefreshWindow}

/-- The life of the walks is an order of events that reach them and the calls of the service. -/
abbrev Life (window : RefreshWindow) (β : Type) := Run (step (β := β)) (start window)

theorem step_at (life : Life window β) (n : Nat) :
    Step (life.before n) (life.event n) (life.before (n + 1)) (life.reply n) :=
  step_of_event (life.before n) (life.event n)

def Begins (life : Life window β) (number i : Nat) : Prop :=
  life.event i = .begin number ∧ life.reply i = .progress

/-- The walk that began with event number `i` has not ended when event number `j` comes. -/
def Lasts (life : Life window β) (number i j : Nat) : Prop :=
  ∀ k, i < k → k ≤ j → (life.before k).walk? number ≠ none

/-- What is read off the replies to the walk from event number `i` on and before number `n`. -/
def gathered {γ : Type} (read : Reply β → Option γ) (life : Life window β) (number i n : Nat) :
    List γ :=
  life.between (fun event reply => if event.number = number then (read reply).toList else []) i n

theorem gathered_of_own {γ : Type} (read : Reply β → Option γ) (life : Life window β)
    {number i n : Nat} (le : i ≤ n) (own : (life.event n).number = number) :
    gathered read life number i (n + 1) =
      gathered read life number i n ++ (read (life.reply n)).toList := by
  rw [gathered, life.between_succ _ le, if_pos own]
  rfl

theorem gathered_of_other {γ : Type} (read : Reply β → Option γ) (life : Life window β)
    {number i n : Nat} (le : i ≤ n) (other : (life.event n).number ≠ number) :
    gathered read life number i (n + 1) = gathered read life number i n := by
  rw [gathered, life.between_succ _ le, if_neg other, List.append_nil]
  rfl

/-- Something can always happen to a desk that it refuses. -/
theorem exists_idle {α : Type} (desk : Desk) :
    ∃ event : Desk.Event α, desk.step event = (desk, .refused) := by
  obtain ⟨number, unused⟩ := Infinite.exists_notMem_finset (desk.calls.map (·.1)).toFinset
  have absent : desk.call? number = none := by
    refine List.lookup_eq_none_iff.mpr fun call member => bne_iff_ne.mpr ?_
    rintro rfl
    exact unused (List.mem_toFinset.mpr (List.mem_map_of_mem member))
  exact ⟨.abandon number, by simp only [Desk.step, absent]⟩

def Reply.desk? : Reply β → Option (Desk.Reply (Answer β))
  | .desk reply => some reply
  | _ => none

theorem desk_of_step (syncs : Syncs) (event : Event β) :
    ∃ happens : Desk.Event (Answer β), (syncs.step event).1.desk = (syncs.desk.step happens).1 ∧
      ∀ told, (syncs.step event).2.desk? = some told →
        event = .desk happens ∧ told = (syncs.desk.step happens).2 := by
  obtain ⟨idle, nothing⟩ := exists_idle (α := Answer β) syncs.desk
  have still : syncs.desk = (syncs.desk.step idle).1 := by rw [nothing]
  have silent : ∀ (happens : Desk.Event (Answer β)) (told : Desk.Reply (Answer β)),
      none = some told → event = .desk happens ∧ told = (syncs.desk.step happens).2 := by
    intro happens told impossible
    cases impossible
  cases event with
  | desk event =>
      simp only [step]
      split
      · exact ⟨event, rfl, by rintro told ⟨⟩; exact ⟨rfl, rfl⟩⟩
      · split
        · exact ⟨idle, still, silent idle⟩
        · split
          · exact ⟨event, rfl, by rintro told ⟨⟩; exact ⟨rfl, rfl⟩⟩
          · exact ⟨event, rfl, by rintro told ⟨⟩; exact ⟨rfl, rfl⟩⟩
  | begin number =>
      refine ⟨idle, ?_, ?_⟩
      · simp only [step]
        split <;> exact still
      · simp only [step]
        split <;> exact silent idle
  | goOn number now =>
      simp only [step]
      split
      · next walk found =>
          obtain ⟨cursor, count, stage⟩ := walk
          cases stage with
          | calling => exact ⟨idle, still, silent idle⟩
          | given result =>
              cases result with
              | ok page => exact ⟨idle, still, silent idle⟩
              | error error => exact ⟨idle, still, silent idle⟩
          | walking =>
              simp only [goOn]
              split
              · exact ⟨idle, still, silent idle⟩
              · exact ⟨idle, still, silent idle⟩
              · split
                · next began =>
                    refine ⟨.begin number operation now, ?_, silent _⟩
                    rw [began]
                    rfl
                · exact ⟨idle, still, silent idle⟩
      · exact ⟨idle, still, silent idle⟩
  | abandon number =>
      simp only [step]
      split
      · exact ⟨.abandon number, rfl, silent _⟩
      · exact ⟨idle, still, silent idle⟩

/-- The calls of a life of walks, with those for pages among them, are a life of calls. -/
theorem exists_calls (life : Life window β) :
    ∃ calls : Desk.Life window (Answer β), (∀ n, calls.before n = (life.before n).desk) ∧
      ∀ n told, life.reply n = .desk told →
        life.event n = .desk (calls.event n) ∧ told = calls.reply n := by
  choose happens moved replied using desk_of_step (β := β)
  let calls : Desk.Life window (Answer β) := ⟨fun n => happens (life.before n) (life.event n)⟩
  have same : ∀ n, calls.before n = (life.before n).desk := by
    intro n
    induction n with
    | zero => rfl
    | succ n ih =>
        rw [Run.before_succ, Run.before_succ, ih]
        exact (moved _ _).symm
  refine ⟨calls, same, fun n told tells => ?_⟩
  rw [Run.reply, same n]
  exact replied _ _ told (congrArg Reply.desk? tells)

section Course

variable {life : Life window β} {number i j : Nat}

theorem walk_of_begins (begins : Begins life number i) :
    (life.before (i + 1)).walk? number = some ⟨.start, 0, .walking⟩ ∧
      (life.before (i + 1)).desk.call? number = none := by
  have step := step_at life i
  rw [begins.1, begins.2] at step
  generalize life.before (i + 1) = next at step
  cases step with
  | begun absent free => exact ⟨walk?_place_self _ _ _, free⟩

/-- While a walk lasts, it has passed what it has counted, and nothing was told. -/
theorem walked_while_lasting (begins : Begins life number i) (after : i < j)
    (lasts : Lasts life number i j) :
    (∃ walk, (life.before j).walk? number = some walk ∧
      Walked (gathered Reply.result? life number i j)
        ((life.before j).desk.call? number = none) walk) ∧
      gathered Reply.notice? life number i j = [] := by
  induction j, after using Nat.le_induction with
  | base =>
      obtain ⟨found, free⟩ := walk_of_begins begins
      have own : (life.event i).number = number := congrArg Event.number begins.1
      rw [gathered_of_own _ life (Nat.le_refl i) own, gathered_of_own _ life (Nat.le_refl i) own,
        begins.2]
      simp only [gathered, life.between_self]
      have nothing : Succeeded [] := nofun
      exact ⟨⟨_, found, .walking nothing Paging.fits_start free⟩, rfl⟩
  | succ j after ih =>
      obtain ⟨⟨walk, found, walked⟩, silent⟩ := ih fun k later upTo => lasts k later (by omega)
      have step := step_at life j
      have le : i ≤ j := Nat.le_of_lt after
      by_cases own : (life.event j).number = number
      · have there := lasts (j + 1) (Nat.lt_succ_of_lt after) (Nat.le_refl _)
        rw [gathered_of_own _ life le own, gathered_of_own _ life le own, silent]
        subst own
        have goes := goes_of_step step found walked
        generalize life.reply j = reply at goes ⊢
        cases goes with
        | on moved walked goesOn =>
            rw [silent_of_going goesOn]
            exact ⟨⟨_, moved, walked⟩, rfl⟩
        | ended gone => exact absurd gone there
        | abandoned gone => exact absurd gone there
      · obtain ⟨same, calls⟩ := other_of_step step own
        rw [same, calls, gathered_of_other _ life le own, gathered_of_other _ life le own]
        exact ⟨⟨walk, found, walked⟩, silent⟩

/-- A walk ends as its calls for pages say, and what it tells by that is all that it tells. -/
theorem synced_of_ended_walk (begins : Begins life number i) (after : i < j)
    (lasts : Lasts life number i j) (own : (life.event j).number = number)
    {result : Except AccountError Nat} {notice : Option Notice}
    (ends : life.reply j = .ended result notice) :
    Synced (gathered Reply.result? life number i j) result notice ∧
      gathered Reply.notice? life number i (j + 1) = notice.toList := by
  obtain ⟨⟨walk, found, walked⟩, silent⟩ := walked_while_lasting begins after lasts
  rw [gathered_of_own _ life (Nat.le_of_lt after) own, silent, ends]
  subst own
  have goes := goes_of_step (step_at life j) found walked
  rw [ends] at goes
  cases goes with
  | on moved walked goesOn => cases goesOn
  | ended gone synced => exact ⟨synced, rfl⟩

end Course

end Syncs

end Steward
