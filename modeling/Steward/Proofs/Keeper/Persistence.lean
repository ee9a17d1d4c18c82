import Mathlib.Tactic.IntervalCases
import Steward.Proofs.Keeper.Restart
/-!
# What persistence is worth

The secret store carries a credential over a restart, and that is all it does.  It is the current
one, or one that was saved for a call which was given up before the keeper took it over.  Whether a
save succeeds has no influence on the keeper: what has been saved is read by nobody before the
restart.
-/

set_option autoImplicit false

namespace Steward.Keeper

variable {window : RefreshWindow}

/-! ## Failures to save -/

/-- The same happens, but a save may end otherwise, and where the secret store answers it may hold
something else. -/
inductive Alike : Event → Event → Prop where
  | same (event : Event) : Alike event event
  | saved (call : Nat) (result other : Except AuthError Unit) :
      Alike (.saved call result) (.saved call other)
  | told (call : Nat) (stored other : Option Credential) :
      Alike (.loaded call (.ok stored)) (.loaded call (.ok other))

theorem Alike.call_eq {event other : Event} (alike : Alike event other) :
    other.call = event.call := by
  cases alike with
  | same => rfl
  | saved => rfl
  | told => rfl

def LookedAt (keeper : Keeper) : Prop := keeper.restored = true ∧ ¬ Reading keeper

theorem lookedAt_of_change {keeper next : Keeper} {event : Event} {reply : Reply}
    (change : Change keeper event next reply) (looked : LookedAt keeper) : LookedAt next := by
  obtain ⟨restored, unread⟩ := looked
  have unasked : reply ≠ .load := by
    rintro rfl
    cases restored.symm.trans (asked_of_load change).1
  refine ⟨((restored_of_change change).resolve_right unasked).trans restored, ?_⟩
  rintro ⟨call, forced, found⟩
  exact unread ⟨call, forced, (reading_before change found).resolve_right unasked⟩

theorem lookedAt_of_saving {keeper : Keeper} (consistent : Consistent keeper)
    (saving : Saving keeper) : LookedAt keeper := by
  obtain ⟨call, fresh, found⟩ := saving
  refine ⟨consistent.fits call _ found, ?_⟩
  rintro ⟨reader, forced, reading⟩
  obtain rfl := consistent.inside_unique found rfl reading rfl
  cases found.symm.trans reading

theorem step_of_unread {keeper : Keeper} {call : Nat}
    {stored : Except AuthError (Option Credential)}
    (unread : ∀ forced, keeper.stage? call ≠ some (.loading forced)) :
    keeper.step (.loaded call stored) = (keeper, .refused) := by
  simp only [step]

theorem step_saved (keeper : Keeper) (call : Nat) (result other : Except AuthError Unit) :
    keeper.step (.saved call other) = keeper.step (.saved call result) := by
  cases result <;> cases other <;> rfl

section TwoStores

variable {life other : Life window} {content otherContent : Nat → Option Credential}

/-- As long as two secret stores hold the same, or nobody asks them any more, the same happens. -/
theorem same_step (backing : Backing life content)
    (otherBacking : Backing other otherContent) {n : Nat}
    (alike : Alike (life.event n) (other.event n)) (same : other.before n = life.before n)
    (contents : otherContent n = content n ∨ LookedAt (life.before n)) :
    (other.before n).step (other.event n) = (life.before n).step (life.event n) := by
  rw [same]
  generalize event : life.event n = first, otherEvent : other.event n = second at alike
  cases alike with
  | same => rfl
  | saved call result otherResult => exact step_saved _ call result otherResult
  | told call stored otherStored =>
      by_cases reading : ∃ forced, (life.before n).stage? call = some (.loading forced)
      · obtain ⟨forced, found⟩ := reading
        have contents := contents.resolve_right fun looked => looked.2 ⟨call, forced, found⟩
        have told := backing.told n call forced stored event found
        have otherTold := otherBacking.told n call forced otherStored otherEvent (same ▸ found)
        rw [told, otherTold, contents]
      · have unread := fun forced found => reading ⟨forced, found⟩
        rw [step_of_unread unread, step_of_unread unread]

/-- Two keepers on secret stores that hold the same at first go through the same states, whatever
becomes of the saves. -/
theorem same_course (backing : Backing life content)
    (otherBacking : Backing other otherContent)
    (start : otherContent 0 = content 0) (alike : ∀ n, Alike (life.event n) (other.event n))
    (n : Nat) :
    other.before n = life.before n ∧ (otherContent n = content n ∨ LookedAt (life.before n)) := by
  induction n with
  | zero => exact ⟨rfl, .inl start⟩
  | succ n ih =>
      obtain ⟨same, contents⟩ := ih
      have next := congrArg Prod.fst (same_step backing otherBacking (alike n) same contents)
      refine ⟨next, ?_⟩
      by_cases looked : LookedAt (life.before n)
      · exact .inr (lookedAt_of_change (change_at life n) looked)
      · -- A store changes only while a credential is saved, when nobody asks it any more.
        have idle := fun saving => looked (lookedAt_of_saving (consistent_before life n) saving)
        rw [backing.steady n idle, otherBacking.steady n (same ▸ idle)]
        exact .inl (contents.resolve_right looked)

theorem same_reply (backing : Backing life content)
    (otherBacking : Backing other otherContent)
    (start : otherContent 0 = content 0) (alike : ∀ n, Alike (life.event n) (other.event n))
    (n : Nat) : other.reply n = life.reply n := by
  obtain ⟨same, contents⟩ := same_course backing otherBacking start alike n
  exact congrArg Prod.snd (same_step backing otherBacking (alike n) same contents)

end TwoStores

theorem requests_congr {life other : Life window} (call i : Nat)
    (calls : ∀ n, (other.event n).call = (life.event n).call)
    (replies : ∀ n, other.reply n = life.reply n) (n : Nat) :
    requests other call i n = requests life call i n := by
  induction n with
  | zero => rfl
  | succ n ih => simp only [requests, issued, ih, calls, replies]

/-! ## Persistence -/

/-- In every life of a keeper beside a secret store:

* as long as no save has failed or was given up, the secret store holds the current credential
  whenever nobody is inside, unless the call for which something was saved last was given up before
  the keeper took it over: then the secret store holds that.  A keeper that begins on what it holds
  asks for nothing and hands it out as long as it is outside the refresh window, nobody rejects it
  and the look at the secret store succeeds, however calls come and are given up; and when its first
  call comes alone, that call is answered;
* what becomes of the saves is without influence: where the same happens beside a secret store that
  held the same at first, each call asks for the same and gets the same. -/
theorem persistence (life : Life window) {content : Nat → Option Credential}
    (backing : Backing life content) :
    (∀ j held, SavesAll life j → (life.before j).gate.holder? = none →
      (life.before j).current = some held →
      ∃ stored, content j = some stored ∧ (stored = held.credential ∨ LeftBehind life j stored) ∧
      ∀ (nextWindow : RefreshWindow) (again : Life nextWindow)
        (nextContent : Nat → Option Credential),
        Backing again nextContent → nextContent 0 = content j →
          (∀ k, (∀ i ≤ k, Undisturbed stored (again.before i) (again.event i)) →
            (again.reply k).request? = none ∧
              ∀ result, again.reply k = .finished result → result = .ok ⟨1, stored⟩) ∧
          (∀ call read looked entered resumed,
            (∀ now ∈ [looked, entered, resumed], nextWindow.needsRefresh stored now = false) →
            (∀ k event, (firstCall call (.ok read) looked entered resumed)[k]? = some event →
              again.event k = event) →
            again.reply 6 = .finished (.ok ⟨1, stored⟩) ∧
              ∀ k < 7, (again.reply k).request? = none)) ∧
    (∀ (other : Life window) (otherContent : Nat → Option Credential),
      Backing other otherContent → otherContent 0 = content 0 →
        (∀ n, Alike (life.event n) (other.event n)) →
          (∀ n, other.reply n = life.reply n) ∧
          (∀ call j result, Returns other call j result ↔ Returns life call j result) ∧
          ∀ call i n, requests other call i n = requests life call i n) := by
  constructor
  · intro j held saves free present
    obtain ⟨stored, holds, origin⟩ := stored_of_free backing saves free present
    refine ⟨stored, holds, origin, fun nextWindow again nextContent nextBacking start => ⟨?_, ?_⟩⟩
    · intro k undisturbed
      exact stored_handed_out nextBacking (start.trans holds) undisturbed
    · intro call read looked entered resumed lasting events
      exact first_call_answered nextBacking (start.trans holds) lasting events
  · intro other otherContent otherBacking start alike
    have replies := same_reply backing otherBacking start alike
    have calls := fun n => (alike n).call_eq
    refine ⟨replies, fun call j result => ?_, fun call i n => requests_congr call i calls replies n⟩
    unfold Returns
    rw [calls j, replies j]

theorem ite_le_succ {α : Type} {n k : Nat} (other : n ≠ k) (first later : α) :
    (if n + 1 ≤ k then first else later) = if n ≤ k then first else later := by
  rcases Nat.lt_or_gt_of_ne other with before | after
  · rw [if_pos (by omega), if_pos (by omega)]
  · rw [if_neg (by omega), if_neg (by omega)]

def vaultOfLogin (n : Nat) : Vault :=
  if n ≤ 7 then ⟨"secrets.json", "alice", []⟩
  else ((⟨"secrets.json", "alice", []⟩ : Vault).save .empty 0 "1" tenMinutes).1

def loggedInOnce : Life default := .ofList loggedIn (.leave 0)

def startedAgain (read : Except AuthError (Option Credential)) : Life default :=
  .ofList (firstCall 1 read 0 0 0) (.leave 0)

theorem backing_loggedInOnce : Backing loggedInOnce fun n => (vaultOfLogin n).load := by
  refine .of_vault vaultOfLogin ?_ ?_ ?_
  · intro n call forced stored event found
    rcases Nat.lt_or_ge n 10 with early | late
    · interval_cases n <;> cases event
      rfl
    · have rest : loggedInOnce.event n = .leave 0 := Run.event_ofList_rest _ late
      cases rest.symm.trans event
  · intro n idle
    refine ite_le_succ ?_ _ _
    rintro rfl
    exact idle ⟨1, tenMinutes, rfl⟩
  · intro n call fresh result event found
    rcases Nat.lt_or_ge n 10 with early | late
    · interval_cases n <;> cases event
      cases found
      exact ⟨.empty, 0, "1", rfl, rfl⟩
    · have rest : loggedInOnce.event n = .leave 0 := Run.event_ofList_rest _ late
      cases rest.symm.trans event

theorem savesAll_loggedInOnce : SavesAll loggedInOnce 10 := by
  intro n early call fresh found
  have member : loggedInOnce.event n ∈ _ := Run.event_ofList_mem _ _ n
  constructor
  · intro dropped
    simp [dropped, loggedIn] at member
  · intro error event
    simp [event, loggedIn] at member

theorem backing_startedAgain {read : Except AuthError (Option Credential)}
    (told : ∀ stored, read = .ok stored → stored = some tenMinutes) :
    Backing (startedAgain read) fun _ => some tenMinutes := by
  refine ⟨?_, fun n _ => rfl, ?_⟩
  · intro n call forced stored event found
    have member : (startedAgain read).event n ∈ _ := Run.event_ofList_mem _ _ n
    simp [event, firstCall] at member
    exact told stored member.2.symm
  · intro n call fresh event
    have member : (startedAgain read).event n ∈ _ := Run.event_ofList_mem _ _ n
    simp [event, firstCall] at member

theorem event_of_startedAgain {read : Except AuthError (Option Credential)} (k : Nat)
    (event : Event) (found : (firstCall 1 read 0 0 0)[k]? = some event) :
    (startedAgain read).event k = event := by
  change (firstCall 1 read 0 0 0).getD k (.leave 0) = event
  rw [List.getD_eq_getElem?_getD, found]
  rfl

theorem persistence_loggedInOnce :
    (vaultOfLogin 10).load = some tenMinutes ∧
      (startedAgain (.ok (some tenMinutes))).reply 6 = .finished (.ok ⟨1, tenMinutes⟩) := by
  obtain ⟨stored, holds, -, again⟩ := (persistence loggedInOnce backing_loggedInOnce).1 10
    ⟨1, tenMinutes⟩ savesAll_loggedInOnce rfl rfl
  obtain rfl : tenMinutes = stored := Option.some.inj holds
  have lasting : RefreshWindow.needsRefresh default tenMinutes 0 = false := by decide
  refine ⟨holds, ((again default (startedAgain (.ok (some tenMinutes))) _
    (backing_startedAgain fun _ same => (Except.ok.inj same).symm) holds.symm).2 1
    (some tenMinutes) 0 0 0 ?_ ?_).1⟩
  · simp [lasting]
  · exact event_of_startedAgain

def tenMinutesMore : Credential := .issue "access2" "refresh2" "full" 590000 (.ofSeconds 600)

/-- A stored credential is about to expire and is refreshed.  The call is given up when the new one
has been saved and not been taken over. -/
def leftOnce : Life default :=
  .ofList [.arrive 1, .look 1 590000, .join 1, .enter 1 590000, .loaded 1 (.ok (some tenMinutes)),
    .resume 1 590000, .answered 1 (.ok tenMinutesMore) 590000, .saved 1 (.ok ()), .drop 1, .leave 1]
    (.leave 0)

def storedOnce (n : Nat) : Option Credential :=
  if n ≤ 7 then some tenMinutes else some tenMinutesMore

theorem backing_leftOnce : Backing leftOnce storedOnce := by
  constructor
  case told =>
    intro n call forced stored event found
    rcases Nat.lt_or_ge n 10 with early | late
    · interval_cases n <;> cases event
      rfl
    · have rest : leftOnce.event n = .leave 0 := Run.event_ofList_rest _ late
      cases rest.symm.trans event
  case steady =>
    intro n idle
    refine ite_le_succ ?_ _ _
    rintro rfl
    exact idle ⟨1, tenMinutesMore, rfl⟩
  case saved =>
    intro n call fresh event found
    rcases Nat.lt_or_ge n 10 with early | late
    · interval_cases n <;> cases event
      cases found
      rfl
    · have rest : leftOnce.event n = .leave 0 := Run.event_ofList_rest _ late
      cases rest.symm.trans event

theorem savesAll_leftOnce : SavesAll leftOnce 10 := by
  intro n early call fresh found
  constructor
  · intro dropped
    interval_cases n <;> cases dropped
    cases found
  · intro error event
    interval_cases n <;> cases event

/-- Also when no save has failed or was given up, the secret store may hold another credential than
the keeper, and a keeper that begins on what it holds may have to log in. -/
theorem not_always_persistent :
    (¬ ∀ (life : Life default) (content : Nat → Option Credential) (j : Nat) (held : Held),
      Backing life content → SavesAll life j → (life.before j).gate.holder? = none →
        (life.before j).current = some held → content j = some held.credential) ∧
    ¬ ∀ (life again : Life default) (content nextContent : Nat → Option Credential) (j : Nat)
        (held : Held) (read : Except AuthError (Option Credential)),
      Backing life content → SavesAll life j → (life.before j).gate.holder? = none →
        (life.before j).current = some held → content j = some held.credential →
          Backing again nextContent → nextContent 0 = content j →
            (∀ k event, (firstCall 1 read 0 0 0)[k]? = some event → again.event k = event) →
              RefreshWindow.needsRefresh default held.credential 0 = false →
                again.reply 6 = .finished (.ok ⟨1, held.credential⟩) := by
  constructor
  · intro always
    have holds := always leftOnce storedOnce 10 ⟨1, tenMinutes⟩ backing_leftOnce savesAll_leftOnce
      rfl rfl
    exact absurd holds (by decide)
  · intro always
    -- The secret store holds what the login has given, and fails when it is asked for it.
    have answered := always loggedInOnce (startedAgain (.error (.io "denied")))
      (fun n => (vaultOfLogin n).load) (fun _ => some tenMinutes) 10 ⟨1, tenMinutes⟩ _
      backing_loggedInOnce savesAll_loggedInOnce rfl rfl rfl (backing_startedAgain nofun) rfl
      event_of_startedAgain (by decide)
    cases answered

end Steward.Keeper
