import Steward.Proofs.Keeper.Outcome
import Steward.Proofs.Keeper.Storage
/-!
# Keepers on a secret store that holds a credential

A new keeper on a secret store that holds a usable credential takes it over and hands it out, and
asks for nothing.  This is so whatever the order in which calls come and are given up, as long as
nobody rejects the credential and the one look at the secret store brings it.
-/

set_option autoImplicit false

namespace Steward.Keeper

variable {window : RefreshWindow}

/-- By this event nobody asks for a replacement, the look at the secret store is neither given up
nor fails, and the credential is still outside the refresh window. -/
structure Undisturbed (credential : Credential) (keeper : Keeper) (event : Event) : Prop where
  pursued : ∀ call forced, keeper.stage? call = some (.loading forced) → event ≠ .drop call
  unrejected : ∀ call rejected, event ≠ .reject call rejected
  answered : ∀ call error, event ≠ .loaded call (.error error)
  lasting : ∀ now, event.now? = some now → keeper.window.needsRefresh credential now = false

/-- Where a call may stand while `held` is the only credential that there is. -/
def Stage.Served (keeper : Keeper) (held : Held) : Stage → Prop
  | .arrived _ | .missed _ | .queued (.usable _) => True
  | .loading forced => forced = false ∧ keeper.current = none
  | .restored forced => forced = false ∧ keeper.current = some held
  | .leaving result => ∀ given, result = some given → given = .ok held
  | _ => False

/-- The keeper has taken over `held` from the secret store, or is about to do so. -/
structure Reopened (keeper : Keeper) (held : Held) : Prop where
  served : ∀ call stage, keeper.stage? call = some stage → stage.Served keeper held
  unmade : keeper.current = none → keeper.made = 0
  taken : keeper.restored = true → keeper.current = some held ∨ Reading keeper
  unfailed : keeper.lastFailure = none

theorem reopened_new (window : RefreshWindow) (held : Held) :
    Reopened (Keeper.new window) held := by
  refine ⟨?_, fun _ => rfl, ?_, rfl⟩
  · intro call stage found
    cases found
  · intro impossible
    cases impossible

theorem served_congr {keeper next : Keeper} {held : Held} {stage : Stage}
    (served : stage.Served keeper held) (current : next.current = keeper.current) :
    stage.Served next held := by
  unfold Stage.Served at served ⊢
  rw [current]
  exact served

theorem served_leaving {keeper : Keeper} {held : Held} :
    (Stage.leaving (some (.ok held))).Served keeper held := by
  rintro _ ⟨⟩
  rfl

theorem served_of_some {keeper : Keeper} {held : Held} {stage : Stage}
    (served : stage.Served keeper held) (other : Stage) (same : some stage = some other) :
    other.Served keeper held := by
  cases same
  exact served

theorem served_of_outside {keeper next : Keeper} {held : Held} {stage : Stage}
    (served : stage.Served keeper held) (outside : stage.isInside = false) :
    stage.Served next held := by
  cases stage with
  | arrived seen => trivial
  | missed seen => trivial
  | queued purpose =>
      cases purpose with
      | usable seen => trivial
      | replacement rejected => exact served
  | _ => cases outside

namespace Reopened

variable {keeper next : Keeper} {held : Held} {call : Nat}

theorem eq_of_current (reopened : Reopened keeper held) (consistent : Consistent keeper)
    {other : Held} (present : keeper.current = some other) : other = held := by
  cases restored : keeper.restored with
  | false =>
      have absent := (consistent.untouched restored).2
      cases present.symm.trans absent
  | true =>
      rcases reopened.taken restored with current | ⟨reader, forced, found⟩
      · exact Option.some.inj (present.symm.trans current)
      · have absent := (reopened.served reader _ found).2
        cases present.symm.trans absent

theorem keep (reopened : Reopened keeper held) {was after : Option Stage}
    (found : keeper.stage? call = was) (unread : ∀ forced, was ≠ some (.loading forced))
    (stages : ∀ other, next.stage? other = if other = call then after else keeper.stage? other)
    (served : ∀ stage, after = some stage → stage.Served keeper held)
    (current : next.current = keeper.current) (made : next.made = keeper.made)
    (restored : next.restored = keeper.restored) (unfailed : next.lastFailure = none) :
    Reopened next held := by
  refine ⟨holds_of_moved stages ?_ ?_, ?_, ?_, unfailed⟩
  · intro stage same
    exact served_congr (served stage same) current
  · intro other stage _ otherFound
    exact served_congr (reopened.served other stage otherFound) current
  · rw [current, made]
    exact reopened.unmade
  · rw [current, restored]
    intro asked
    rcases reopened.taken asked with present | ⟨reader, forced, reading⟩
    · exact .inl present
    · have differs : reader ≠ call := by
        rintro rfl
        exact unread forced (found.symm.trans reading)
      exact .inr ⟨reader, forced, ((stages reader).trans (if_neg differs)).trans reading⟩

theorem advance (reopened : Reopened keeper held) (consistent : Consistent keeper)
    {stage : Stage} (first : keeper.gate.holder? = some call)
    (stages : ∀ other, next.stage? other =
      if other = call then some stage else keeper.stage? other)
    (served : stage.Served next held) (unmade : next.current = none → next.made = 0)
    (taken : next.current = some held ∨ Reading next) (unfailed : next.lastFailure = none) :
    Reopened next held := by
  refine ⟨holds_of_moved stages (served_of_some served) ?_, unmade, fun _ => taken, unfailed⟩
  intro other otherStage differs found
  exact served_of_outside (reopened.served other otherStage found)
    (consistent.outside_of_first first found differs)

end Reopened

theorem usable_of_lasting {keeper : Keeper} {held : Held} {now : Instant}
    (current : keeper.current = some held)
    (lasting : keeper.window.needsRefresh held.credential now = false) :
    keeper.usable now = some held := by
  simp [usable, current, lasting]

theorem unusable_of_unknown {keeper : Keeper} {now : Instant} {seen : Nat}
    (unknown : keeper.known now (.usable seen) = none) : keeper.usable now = none := by
  simp only [known, Option.or_eq_none_iff, Option.map_eq_none_iff] at unknown
  exact unknown.2

theorem ok_of_known {keeper : Keeper} {now : Instant} {seen : Nat}
    {result : Except AuthError Held} (unfailed : keeper.lastFailure = none)
    (known : keeper.known now (.usable seen) = some result) :
    ∃ held, keeper.current = some held ∧ result = .ok held := by
  rcases shows_or_usable_of_known known with ⟨_, shows⟩ | ⟨held, rfl, usable⟩
  · cases result with
    | ok held => exact ⟨held, shows.2, rfl⟩
    | error error => cases unfailed.symm.trans shows
  · exact ⟨held, (eq_of_usable usable).1, rfl⟩

namespace Reopened

variable {keeper next : Keeper} {held : Held} {event : Event} {reply : Reply}

theorem not_due {call : Nat} {forced : Bool} (reopened : Reopened keeper held)
    (consistent : Consistent keeper)
    (lasting : ∀ now, event.now? = some now →
      keeper.window.needsRefresh held.credential now = false) :
    ¬ Due keeper call forced event := by
  intro due
  cases due with
  | @entered now purpose stage first unknown restored =>
      have present : keeper.current = some held := by
        refine (reopened.taken restored).resolve_right ?_
        rintro ⟨reader, forced, found⟩
        cases first.symm.trans (consistent.first_of_inside reader _ found rfl)
        cases stage.symm.trans found
      have usable := usable_of_lasting present (lasting now rfl)
      cases purpose with
      | usable seen => cases (unusable_of_unknown unknown).symm.trans usable
      | replacement rejected => exact reopened.served call _ stage
  | @resumed now forced stage unusable =>
      obtain ⟨rfl, present⟩ := reopened.served call _ stage
      have usable := usable_of_lasting present (lasting now rfl)
      rcases unusable with impossible | none
      · cases impossible
      · cases none.symm.trans usable

/-- While the credential lasts, an event leaves it the only one, asks for nothing and gives it to
whoever gets an answer. -/
theorem of_change {credential : Credential} (reopened : Reopened keeper ⟨1, credential⟩)
    (consistent : Consistent keeper) (change : Change keeper event next reply)
    (undisturbed : Undisturbed credential keeper event)
    (told : ∀ call forced stored, event = .loaded call (.ok stored) →
      keeper.stage? call = some (.loading forced) → stored = some credential) :
    Reopened next ⟨1, credential⟩ ∧ reply.request? = none ∧
      ∀ result, reply = .finished result → result = .ok ⟨1, credential⟩ := by
  cases change with
  | refused => exact ⟨reopened, rfl, nofun⟩
  | waited => exact ⟨reopened, rfl, nofun⟩
  | arrived absent =>
      exact ⟨reopened.keep absent nofun (stage?_place _ _ _) (served_of_some trivial) rfl rfl rfl
        reopened.unfailed, rfl, nofun⟩
  | served stage usable =>
      obtain rfl := reopened.eq_of_current consistent (eq_of_usable usable).1
      refine ⟨reopened.keep stage nofun (stage?_forget _ _) nofun rfl rfl rfl reopened.unfailed,
        rfl, ?_⟩
      rintro result ⟨⟩
      rfl
  | missed stage =>
      exact ⟨reopened.keep stage nofun (stage?_place _ _ _) (served_of_some trivial) rfl rfl rfl
        reopened.unfailed, rfl, nofun⟩
  | joined stage =>
      exact ⟨reopened.keep stage nofun (stage?_place _ _ _) (served_of_some trivial) rfl rfl rfl
        reopened.unfailed, rfl, nofun⟩
  | rejected absent => exact absurd rfl (undisturbed.unrejected _ _)
  | @shared call now purpose result stage inside known =>
      cases purpose with
      | replacement rejected => exact (reopened.served call _ stage).elim
      | usable seen =>
          obtain ⟨other, present, rfl⟩ := ok_of_known reopened.unfailed known
          obtain rfl := reopened.eq_of_current consistent present
          exact ⟨reopened.keep stage nofun (stage?_place _ _ _) (served_of_some served_leaving) rfl
            rfl rfl reopened.unfailed, rfl, nofun⟩
  | @asked call now purpose stage inside unknown fresh =>
      cases purpose with
      | replacement rejected => exact (reopened.served call _ stage).elim
      | usable seen =>
          have absent := (consistent.untouched fresh).2
          exact ⟨reopened.advance consistent inside (stage?_place _ _ _) ⟨rfl, absent⟩
            reopened.unmade (.inr ⟨call, false, stage?_place_self _ _ _⟩) reopened.unfailed, rfl,
            nofun⟩
  | @restored call forced stored stage =>
      obtain ⟨rfl, absent⟩ := reopened.served call _ stage
      cases told call false _ rfl stage
      have current : some (⟨keeper.made + 1, credential⟩ : Held) = some ⟨1, credential⟩ := by
        rw [reopened.unmade absent]
      exact ⟨reopened.advance consistent (consistent.first_of_inside call _ stage rfl)
        (stage?_place _ _ _) ⟨rfl, current⟩ nofun (.inl current) reopened.unfailed, rfl, nofun⟩
  | @unrestored call forced stored stage nothing =>
      cases stored with
      | error error => exact absurd rfl (undisturbed.answered call error)
      | ok stored =>
        exact absurd (congrArg Except.ok (told call forced stored rfl stage)) (nothing _)
  | @sufficed call now other stage usable =>
      have present := (eq_of_usable usable).1
      obtain rfl := reopened.eq_of_current consistent present
      exact ⟨reopened.advance consistent (consistent.first_of_inside call _ stage rfl)
        (stage?_place _ _ _) served_leaving reopened.unmade (.inl present) rfl, rfl, nofun⟩
  | refresh due => exact (reopened.not_due consistent undisturbed.lasting due).elim
  | login due => exact (reopened.not_due consistent undisturbed.lasting due).elim
  | granted found asking =>
      have served := reopened.served _ _ found
      rcases asking with rfl | ⟨_, _, rfl⟩
      · exact served.elim
      · exact served.elim
  | kept stage => exact (reopened.served _ _ stage).elim
  | discarded stage => exact (reopened.served _ _ stage).elim
  | failed stage => exact (reopened.served _ _ stage).elim
  | saved stage => exact (reopened.served _ _ stage).elim
  | installed stage => exact (reopened.served _ _ stage).elim
  | withdrew stage =>
      rcases stage with stage | stage
      · exact ⟨reopened.keep stage nofun (stage?_forget _ _) nofun rfl rfl rfl reopened.unfailed,
          rfl, nofun⟩
      · exact ⟨reopened.keep stage nofun (stage?_forget _ _) nofun rfl rfl rfl reopened.unfailed,
          rfl, nofun⟩
  | unqueued stage =>
      exact ⟨reopened.keep stage nofun (stage?_forget _ _) nofun rfl rfl rfl reopened.unfailed,
        rfl, nofun⟩
  | @interrupted call stage _ found =>
      have unread : ∀ forced, some stage ≠ some (.loading forced) := fun forced same =>
        undisturbed.pursued call forced (found.trans same) rfl
      exact ⟨reopened.keep found unread (stage?_place _ _ _) (served_of_some nofun) rfl rfl rfl
        reopened.unfailed, rfl, nofun⟩
  | @returned call result stage =>
      obtain rfl := reopened.served call _ stage result rfl
      refine ⟨reopened.keep stage nofun (stage?_forget _ _) nofun rfl rfl rfl reopened.unfailed,
        rfl, ?_⟩
      rintro result ⟨⟩
      rfl
  | gone stage =>
      exact ⟨reopened.keep stage nofun (stage?_forget _ _) nofun rfl rfl rfl reopened.unfailed,
        rfl, nofun⟩

theorem not_saving (reopened : Reopened keeper held) : ¬ Saving keeper := by
  rintro ⟨call, fresh, found⟩
  exact reopened.served call _ found

end Reopened

section Beginning

variable {life : Life window} {content : Nat → Option Credential} {credential : Credential}

theorem goes_on_open (backing : Backing life content) {j : Nat}
    (reopened : Reopened (life.before j) ⟨1, credential⟩) (holds : content j = some credential)
    (undisturbed : Undisturbed credential (life.before j) (life.event j)) :
    Reopened (life.before (j + 1)) ⟨1, credential⟩ ∧ (life.reply j).request? = none ∧
      ∀ result, life.reply j = .finished result → result = .ok ⟨1, credential⟩ := by
  refine reopened.of_change (consistent_before life j) (change_at life j) undisturbed ?_
  intro call forced stored event found
  exact (backing.told j call forced stored event found).trans holds

theorem reopened_before (backing : Backing life content)
    (holds : content 0 = some credential) {j : Nat}
    (undisturbed : ∀ k < j, Undisturbed credential (life.before k) (life.event k)) :
    Reopened (life.before j) ⟨1, credential⟩ ∧ content j = some credential := by
  induction j with
  | zero => exact ⟨reopened_new window _, holds⟩
  | succ j ih =>
      obtain ⟨reopened, same⟩ := ih fun k below => undisturbed k (Nat.lt_succ_of_lt below)
      exact ⟨(goes_on_open backing reopened same (undisturbed j (Nat.lt_succ_self j))).1,
        (backing.steady j reopened.not_saving).trans same⟩

/-- Nothing is asked for, and everybody who gets an answer gets the stored credential. -/
theorem stored_handed_out (backing : Backing life content)
    (holds : content 0 = some credential) {j : Nat}
    (undisturbed : ∀ k ≤ j, Undisturbed credential (life.before k) (life.event k)) :
    (life.reply j).request? = none ∧
      ∀ result, life.reply j = .finished result → result = .ok ⟨1, credential⟩ := by
  obtain ⟨reopened, same⟩ := reopened_before backing holds
    fun k below => undisturbed k (Nat.le_of_lt below)
  exact (goes_on_open backing reopened same (undisturbed j (Nat.le_refl j))).2

/-- The first call for a usable credential, while nobody else calls. -/
def firstCall (call : Nat) (stored : Except AuthError (Option Credential))
    (looked entered resumed : Instant) : List Event :=
  [.arrive call, .look call looked, .join call, .enter call entered, .loaded call stored,
    .resume call resumed, .leave call]

theorem undisturbed_of_firstCall {keeper : Keeper} {call : Nat} {stored : Option Credential}
    {looked entered resumed : Instant} {event : Event}
    (member : event ∈ firstCall call (.ok stored) looked entered resumed)
    (lasting : ∀ now ∈ [looked, entered, resumed],
      keeper.window.needsRefresh credential now = false) :
    Undisturbed credential keeper event := by
  simp only [List.mem_cons, List.not_mem_nil, or_false, forall_eq_or_imp, forall_eq] at lasting
  obtain ⟨look, enter, resume⟩ := lasting
  simp only [firstCall, List.mem_cons, List.not_mem_nil, or_false] at member
  rcases member with rfl | rfl | rfl | rfl | rfl | rfl | rfl
  · exact ⟨nofun, nofun, nofun, nofun⟩
  · exact ⟨nofun, nofun, nofun, fun now same => Option.some.inj same ▸ look⟩
  · exact ⟨nofun, nofun, nofun, nofun⟩
  · exact ⟨nofun, nofun, nofun, fun now same => Option.some.inj same ▸ enter⟩
  · exact ⟨nofun, nofun, nofun, nofun⟩
  · exact ⟨nofun, nofun, nofun, fun now same => Option.some.inj same ▸ resume⟩
  · exact ⟨nofun, nofun, nofun, nofun⟩

theorem loading_of_firstCall {call : Nat} {stored : Except AuthError (Option Credential)}
    {looked entered resumed : Instant}
    (events : ∀ k event, (firstCall call stored looked entered resumed)[k]? = some event →
      life.event k = event) :
    (life.before 4).stage? call = some (.loading false) := by
  have arrived : life.before 1 = (new window).place call (.arrived 0) := by
    rw [Run.before_succ, events 0 _ rfl, step_arrive rfl]
    rfl
  have missed : life.before 2 = (life.before 1).place call (.missed 0) := by
    have stage := arrived ▸ stage?_place_self (new window) call (.arrived 0)
    rw [Run.before_succ, events 1 _ rfl, step_look_unusable stage (arrived ▸ rfl)]
  have queued : life.before 3 = { life.before 2 with gate := (life.before 2).gate.enter call }.place
      call (.queued (.usable 0)) := by
    have stage := missed ▸ stage?_place_self (life.before 1) call (.missed 0)
    rw [Run.before_succ, events 2 _ rfl, step_join stage]
  have stage : (life.before 3).stage? call = some (.queued (.usable 0)) :=
    queued ▸ stage?_place_self _ _ _
  have first : (life.before 3).gate.holder? = some call := by
    rw [queued, missed, arrived]
    rfl
  have unknown : (life.before 3).known entered (.usable 0) = none := by
    rw [queued, missed, arrived]
    rfl
  have unasked : (life.before 3).restored = false := by
    rw [queued, missed, arrived]
    rfl
  rw [Run.before_succ, events 3 _ rfl, step_enter_unknown stage first unknown, beginTransition,
    unasked]
  exact stage?_place_self _ _ _

/-- The first call is answered, with the stored credential and without a request. -/
theorem first_call_answered (backing : Backing life content)
    (holds : content 0 = some credential) {call : Nat} {stored : Option Credential}
    {looked entered resumed : Instant}
    (lasting : ∀ now ∈ [looked, entered, resumed], window.needsRefresh credential now = false)
    (events : ∀ k event, (firstCall call (.ok stored) looked entered resumed)[k]? = some event →
      life.event k = event) :
    life.reply 6 = .finished (.ok ⟨1, credential⟩) ∧ ∀ k < 7, (life.reply k).request? = none := by
  have undisturbed : ∀ k < 7, Undisturbed credential (life.before k) (life.event k) := by
    intro k below
    have found :=
      List.getElem?_eq_getElem (l := firstCall call (.ok stored) looked entered resumed) below
    rw [events k _ found]
    refine undisturbed_of_firstCall (List.getElem_mem below) ?_
    rw [window_before life k]
    exact lasting
  have opened : ∀ j ≤ 7, Reopened (life.before j) ⟨1, credential⟩ ∧ content j = some credential :=
    fun j upTo => reopened_before backing holds fun k below =>
      undisturbed k (Nat.lt_of_lt_of_le below upTo)
  refine ⟨?_, fun k below => (stored_handed_out backing holds
    fun i upTo => undisturbed i (Nat.lt_of_le_of_lt upTo below)).1⟩
  have loading := loading_of_firstCall events
  have told : stored = some credential :=
    (backing.told 4 call false stored (events 4 _ rfl) loading).trans (opened 4 (by decide)).2
  have restored : (life.before 5).stage? call = some (.restored false) := by
    rw [Run.before_succ, events 4 _ rfl, told, step_loaded loading]
    exact stage?_place_self _ _ _
  have current := ((opened 5 (by decide)).1.served call _ restored).2
  have usable : (life.before 5).usable resumed = some ⟨1, credential⟩ := by
    refine usable_of_lasting current ?_
    rw [window_before life 5]
    exact lasting resumed (by simp)
  have leaving : (life.before 6).stage? call = some (.leaving (some (.ok ⟨1, credential⟩))) := by
    rw [Run.before_succ, events 5 _ rfl, step_resume_usable restored usable]
    exact stage?_place_self _ _ _
  rw [Run.reply, events 6 _ rfl, step_leave leaving]

end Beginning

end Steward.Keeper
