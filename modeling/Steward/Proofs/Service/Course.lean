import Steward.Proofs.Run
import Steward.Service
/-!
# The course of the service

Whatever happens and in whatever order, the service does the same few things in the same order,
each at most once: it authenticates, starts its tasks, drains them and exits, or it exits early.
What has been done so far determines the state, and the first reason to end is the one with which it
exits.
-/

set_option autoImplicit false

namespace Steward

/-- What an action has the caller do, whatever the reason. -/
inductive Deed where
  | authenticate
  | startTasks
  | drain
  | exit
  deriving DecidableEq

namespace ServiceAction

def deed? : ServiceAction → Option Deed
  | .authenticate => some .authenticate
  | .startTasks => some .startTasks
  | .drain _ => some .drain
  | .exit _ => some .exit
  | .none => Option.none

def taken? : ServiceAction → Option ServiceAction
  | .none => Option.none
  | action => some action

theorem taken?_of_deed? {action : ServiceAction} {deed : Deed} (does : action.deed? = some deed) :
    action.taken? = some action := by
  cases action with
  | none => cases does
  | _ => rfl

theorem eq_of_taken? {action taken : ServiceAction} (same : action.taken? = some taken) :
    action = taken := by
  cases action with
  | none => cases same
  | _ => exact Option.some.inj same

end ServiceAction

/-- The reason to end that an event gives a service whose tasks are running. -/
def ServiceEvent.ending? : ServiceEvent → Option ExitReason
  | .shutdownSignal => some .ok
  | .fatal reason => some reason
  | _ => none

namespace ServiceState

abbrev Life := Run handle .initializing

def actions (life : Life) (n : Nat) : List ServiceAction :=
  life.log (fun _ action => action.taken?) n

/-- All that a service does from its start to its exit. -/
inductive Complete : List ServiceAction → Prop where
  | unused (reason : ExitReason) : Complete [.exit reason]
  | unauthenticated (reason : ExitReason) : Complete [.authenticate, .exit reason]
  | served (reason : ExitReason) :
      Complete [.authenticate, .startTasks, .drain reason, .exit reason]

/-- The state that goes with what has been done. -/
inductive Stands : List ServiceAction → ServiceState → Prop where
  | initializing : Stands [] .initializing
  | authenticating : Stands [.authenticate] .authenticating
  | running : Stands [.authenticate, .startTasks] .running
  | draining (reason : ExitReason) :
      Stands [.authenticate, .startTasks, .drain reason] (.draining reason)
  | stopped (reason : ExitReason) {done : List ServiceAction} (complete : Complete done)
      (last : done.getLast? = some (.exit reason)) : Stands done (.stopped reason.code)

/-! ## One event -/

section Step

variable {state : ServiceState} {event : ServiceEvent} {reason : ExitReason}

theorem handle_eq_authenticate_iff :
    (state.handle event).2 = .authenticate ↔ state = .initializing ∧ event = .configLoaded := by
  cases state <;> cases event <;> simp [handle, stop]

theorem handle_eq_startTasks_iff :
    (state.handle event).2 = .startTasks ↔ state = .authenticating ∧ event = .authenticated := by
  cases state <;> cases event <;> simp [handle, stop]

theorem handle_eq_drain_iff :
    (state.handle event).2 = .drain reason ↔ state = .running ∧ event.ending? = some reason := by
  cases state <;> cases event <;> simp [handle, stop, ServiceEvent.ending?]

theorem handle_of_drain (drains : (state.handle event).2 = .drain reason) :
    (state.handle event).1 = .draining reason := by
  obtain ⟨rfl, ends⟩ := handle_eq_drain_iff.mp drains
  cases event <;> simp_all [handle, ServiceEvent.ending?]

theorem handle_of_exit (exits : (state.handle event).2 = .exit reason) :
    (state.handle event).1 = .stopped reason.code := by
  cases state <;> cases event <;> simp_all [handle, stop]

theorem handle_stopped (code : Int) (event : ServiceEvent) :
    handle (.stopped code) event = (.stopped code, .none) := rfl

theorem handle_draining (reason : ExitReason) (event : ServiceEvent) :
    handle (.draining reason) event = (.draining reason, .none) ∨
      handle (.draining reason) event = (.stopped reason.code, .exit reason) := by
  cases event with
  | drained => exact .inr rfl
  | _ => exact .inl rfl

/-- An event keeps what has been done and the state in step. -/
theorem stands_of_step {done : List ServiceAction} (stands : Stands done state)
    (event : ServiceEvent) :
    Stands (done ++ (state.handle event).2.taken?.toList) (state.handle event).1 := by
  cases stands with
  | initializing =>
      cases event with
      | configLoaded => exact .authenticating
      | configInvalid => exact .stopped .config (.unused .config) rfl
      | shutdownSignal => exact .stopped .ok (.unused .ok) rfl
      | _ => exact .initializing
  | authenticating =>
      cases event with
      | authenticated => exact .running
      | authenticationFailed reason => exact .stopped reason (.unauthenticated reason) rfl
      | shutdownSignal => exact .stopped .ok (.unauthenticated .ok) rfl
      | _ => exact .authenticating
  | running =>
      cases event with
      | shutdownSignal => exact .draining .ok
      | fatal reason => exact .draining reason
      | _ => exact .running
  | draining reason =>
      cases event with
      | drained => exact .stopped reason (.served reason) rfl
      | _ => exact .draining reason
  | stopped reason complete last =>
      rw [handle_stopped, ServiceAction.taken?, Option.toList_none, List.append_nil]
      exact .stopped reason complete last

end Step

/-! ## What has been done -/

theorem nodup_of_complete {whole : List ServiceAction} (complete : Complete whole) :
    (whole.filterMap ServiceAction.deed?).Nodup := by
  cases complete with
  | unused reason => simp [ServiceAction.deed?]
  | unauthenticated reason => simp [ServiceAction.deed?]
  | served reason => simp [ServiceAction.deed?]

theorem exists_complete {done : List ServiceAction} {state : ServiceState}
    (stands : Stands done state) : ∃ whole, Complete whole ∧ done <+: whole := by
  cases stands with
  | initializing => exact ⟨_, .unused .ok, List.nil_prefix⟩
  | authenticating => exact ⟨_, .unauthenticated .ok, [.exit .ok], rfl⟩
  | running => exact ⟨_, .served .ok, [.drain .ok, .exit .ok], rfl⟩
  | draining reason => exact ⟨_, .served reason, [.exit reason], rfl⟩
  | stopped reason complete last => exact ⟨_, complete, List.prefix_rfl⟩

theorem eq_of_stands {done : List ServiceAction} {state other : ServiceState}
    (stands : Stands done state) (also : Stands done other) : state = other := by
  cases stands with
  | stopped reason complete last =>
      cases also with
      | stopped otherReason _ otherLast =>
          cases last.symm.trans otherLast
          rfl
      | _ => cases complete
  | _ =>
      cases also with
      | stopped reason complete last => cases complete
      | _ => rfl

theorem done_of_stands {done other : List ServiceAction} {state : ServiceState}
    (unstopped : ∀ code, state ≠ .stopped code) (stands : Stands done state)
    (also : Stands other state) : done = other := by
  cases stands with
  | stopped reason complete last => exact absurd rfl (unstopped _)
  | _ =>
      cases also
      rfl

theorem exited_of_stands {done : List ServiceAction} {code : Int}
    (stands : Stands done (.stopped code)) :
    ∃ reason, .exit reason ∈ done ∧ code = reason.code := by
  cases stands with
  | stopped reason complete last => exact ⟨reason, List.mem_of_getLast? last, rfl⟩

section Lives

variable (life : Life)

theorem actions_succ (n : Nat) :
    actions life (n + 1) = actions life n ++ (life.reply n).taken?.toList :=
  life.log_succ _ n

theorem stands_before (n : Nat) : Stands (actions life n) (life.before n) := by
  induction n with
  | zero => exact .initializing
  | succ n ih =>
      rw [actions_succ]
      exact stands_of_step ih (life.event n)

theorem mem_actions_iff {n : Nat} {action : ServiceAction} :
    action ∈ actions life n ↔ ∃ k < n, (life.reply k).taken? = some action := by
  simp [actions, Run.log, List.mem_filterMap]

theorem eq_of_deed {i j : Nat} {deed : Deed} (first : (life.reply i).deed? = some deed)
    (second : (life.reply j).deed? = some deed) : i = j := by
  -- Of two moments, the later one would have its deed on the list a second time.
  have apart : ∀ {i j : Nat}, i < j → (life.reply i).deed? = some deed →
      (life.reply j).deed? ≠ some deed := by
    intro i j before first second
    obtain ⟨whole, complete, begun⟩ := exists_complete (stands_before life (j + 1))
    have once := (begun.sublist.filterMap ServiceAction.deed?).nodup (nodup_of_complete complete)
    rw [actions_succ, ServiceAction.taken?_of_deed? second, Option.toList_some,
      List.filterMap_append, List.filterMap_cons_some second, List.filterMap_nil] at once
    have already : life.reply i ∈ actions life j :=
      (mem_actions_iff life).mpr ⟨i, before, ServiceAction.taken?_of_deed? first⟩
    exact (List.nodup_append.mp once).2.2 deed (List.mem_filterMap.mpr ⟨_, already, first⟩) deed
      (List.mem_singleton_self deed) rfl
  rcases Nat.lt_trichotomy i j with before | same | after
  · exact absurd second (apart before first)
  · exact same
  · exact absurd first (apart after second)

theorem draining_or_stopped {k n : Nat} {reason : ExitReason} (after : k < n)
    (drains : life.reply k = .drain reason) :
    life.before n = .draining reason ∨ life.before n = .stopped reason.code := by
  induction n, after using Nat.le_induction with
  | base => exact .inl (handle_of_drain drains)
  | succ n _ ih =>
      rw [Run.before_succ]
      rcases ih with draining | stopped
      · rw [draining]
        rcases handle_draining reason (life.event n) with stays | exits
        · exact .inl (congrArg Prod.fst stays)
        · exact .inr (congrArg Prod.fst exits)
      · rw [stopped]
        exact .inr rfl

theorem exit_of_drain {k n : Nat} {reason other : ExitReason} (after : k < n)
    (drains : life.reply k = .drain reason) (exits : life.reply n = .exit other) :
    other = reason := by
  have reply : (handle (life.before n) (life.event n)).2 = .exit other := exits
  rcases draining_or_stopped life after drains with draining | stopped
  · rw [draining] at reply
    rcases handle_draining reason (life.event n) with stays | ends
    · rw [stays] at reply
      cases reply
    · rw [ends] at reply
      cases reply
      rfl
  · rw [stopped] at reply
    cases reply

theorem stopped_of_exit {k n : Nat} {reason : ExitReason} (after : k < n)
    (exits : life.reply k = .exit reason) : life.before n = .stopped reason.code := by
  induction n, after using Nat.le_induction with
  | base => exact handle_of_exit exits
  | succ n _ ih =>
      rw [Run.before_succ, ih]
      rfl

theorem exit_of_stopped {n : Nat} {code : Int} (stopped : life.before n = .stopped code) :
    ∃ k < n, ∃ reason, life.reply k = .exit reason ∧ code = reason.code := by
  obtain ⟨reason, exited, same⟩ := exited_of_stands (stopped ▸ stands_before life n)
  obtain ⟨k, before, taken⟩ := (mem_actions_iff life).mp exited
  exact ⟨k, before, reason, ServiceAction.eq_of_taken? taken, same⟩

theorem before_eq_iff {n : Nat} {done : List ServiceAction} {state : ServiceState}
    (stands : Stands done state) (unstopped : ∀ code, state ≠ .stopped code) :
    life.before n = state ↔ actions life n = done := by
  constructor
  · intro found
    exact done_of_stands unstopped (found ▸ stands_before life n) stands
  · intro found
    exact eq_of_stands (found ▸ stands_before life n) stands

theorem authenticate_iff {k : Nat} :
    life.reply k = .authenticate ↔ life.event k = .configLoaded ∧ actions life k = [] := by
  rw [Run.reply, handle_eq_authenticate_iff, and_comm, before_eq_iff life .initializing nofun]

theorem startTasks_iff {k : Nat} :
    life.reply k = .startTasks ↔
      life.event k = .authenticated ∧ actions life k = [.authenticate] := by
  rw [Run.reply, handle_eq_startTasks_iff, and_comm, before_eq_iff life .authenticating nofun]

theorem configured_of_startTasks {k : Nat} (starts : life.reply k = .startTasks) :
    life.event k = .authenticated ∧
      ∃ i < k, life.event i = .configLoaded ∧ life.reply i = .authenticate := by
  obtain ⟨event, done⟩ := (startTasks_iff life).mp starts
  have before : .authenticate ∈ actions life k := by simp [done]
  obtain ⟨i, earlier, taken⟩ := (mem_actions_iff life).mp before
  have reply := ServiceAction.eq_of_taken? taken
  exact ⟨event, i, earlier, ((authenticate_iff life).mp reply).1, reply⟩

/-- A running service drains at the first event that gives a reason to end, and for this reason. -/
theorem drain_iff {k : Nat} {reason : ExitReason} :
    life.reply k = .drain reason ↔
      life.before k = .running ∧ (life.event k).ending? = some reason ∧
        ∀ i < k, life.before i = .running → (life.event i).ending? = none := by
  rw [Run.reply, handle_eq_drain_iff]
  constructor
  · rintro ⟨running, ends⟩
    refine ⟨running, ends, fun i earlier also => ?_⟩
    cases ending : (life.event i).ending? with
    | none => rfl
    | some other =>
        have first : life.reply i = .drain other := handle_eq_drain_iff.mpr ⟨also, ending⟩
        have second : life.reply k = .drain reason := handle_eq_drain_iff.mpr ⟨running, ends⟩
        have same : i = k :=
          eq_of_deed life (congrArg ServiceAction.deed? first)
            (congrArg ServiceAction.deed? second)
        omega
  · rintro ⟨running, ends, -⟩
    exact ⟨running, ends⟩

/-- Whatever events reach the service, and in whatever order:

* what it does is the beginning of a complete course, and it does nothing twice;
* it authenticates once it is configured, and starts its tasks once it is authenticated after that;
* it drains at the first event that gives a running service a reason to end, for this reason, which
  no later event changes and with which it exits;
* it has stopped exactly if it has exited, with the code of the reason, and then nothing changes. -/
theorem lifecycle_discipline (life : Life) :
    (∀ n, ∃ whole, Complete whole ∧ actions life n <+: whole) ∧
    (∀ i j deed, (life.reply i).deed? = some deed → (life.reply j).deed? = some deed → i = j) ∧
    (∀ k, life.reply k = .authenticate ↔ life.event k = .configLoaded ∧ actions life k = []) ∧
    (∀ k, life.reply k = .startTasks ↔
      life.event k = .authenticated ∧ actions life k = [.authenticate]) ∧
    (∀ k, life.reply k = .startTasks → life.event k = .authenticated ∧
      ∃ i < k, life.event i = .configLoaded ∧ life.reply i = .authenticate) ∧
    (∀ k reason, life.reply k = .drain reason ↔
      life.before k = .running ∧ (life.event k).ending? = some reason ∧
        ∀ i < k, life.before i = .running → (life.event i).ending? = none) ∧
    (∀ k reason, life.reply k = .drain reason → ∀ n > k,
      (life.before n = .draining reason ∨ life.before n = .stopped reason.code) ∧
        ∀ other, life.reply n = .exit other → other = reason) ∧
    (∀ n code, life.before n = .stopped code ↔
      ∃ k < n, ∃ reason, life.reply k = .exit reason ∧ code = reason.code) ∧
    (∀ k reason, life.reply k = .exit reason → ∀ n > k,
      life.before n = .stopped reason.code ∧ life.reply n = .none) := by
  refine ⟨fun n => exists_complete (stands_before life n), fun _ _ _ => eq_of_deed life,
    fun _ => authenticate_iff life, fun _ => startTasks_iff life,
    fun _ => configured_of_startTasks life, fun _ _ => drain_iff life, ?_, ?_, ?_⟩
  · intro k reason drains n after
    exact ⟨draining_or_stopped life after drains, fun _ => exit_of_drain life after drains⟩
  · intro n code
    constructor
    · exact exit_of_stopped life
    · rintro ⟨k, after, reason, exits, rfl⟩
      exact stopped_of_exit life after exits
  · intro k reason exits n after
    have stopped := stopped_of_exit life after exits
    refine ⟨stopped, ?_⟩
    rw [Run.reply, stopped]
    rfl

end Lives

end ServiceState

end Steward
