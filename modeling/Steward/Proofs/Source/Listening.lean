import Steward.Proofs.Source.Step
/-!
# Listening to a source

Whoever listens to a source is told of every difference in its value and of nothing else.  So a
listener that follows the changes always holds what the next change says was there, and in the end
what the source holds.  A refresh that fails or is given up tells nothing and changes nothing, and
whatever it has failed to load is loaded by the next refresh that finds it there.
-/

set_option autoImplicit false

namespace Steward.Source

variable {V E : Type}

/-! ## Changes as listeners see them -/

namespace Change

def old : Change V → Option V
  | .set _ => none
  | .changed old _ | .unset old => some old

def new : Change V → Option V
  | .set new | .changed _ new => some new
  | .unset _ => none

end Change

def Reply.change? : Reply V E → Option (Change V)
  | .finished (.ok change) => change
  | _ => none

/-- The refresh has ended without an outcome. -/
def Reply.Fails (reply : Reply V E) : Prop :=
  (∃ error, reply = .finished (.error error)) ∨ reply = .dropped

theorem unfinished_of_fails {reply : Reply V E} (fails : reply.Fails)
    (change : Option (Change V)) : reply ≠ .finished (.ok change) := by
  rcases fails with ⟨error, rfl⟩ | rfl
  · exact nofun
  · exact nofun

/-- A source has a fingerprint if and only if it has a value, and what is being loaded is not what
it holds. -/
structure Consistent (source : Source V) : Prop extends Orderly source where
  paired : source.fingerprint.isSome = source.value.isSome
  differs : ∀ call fingerprint, source.stage? call = some (.loading fingerprint) →
    source.fingerprint ≠ some fingerprint

namespace Consistent

variable {source next : Source V} {call : Nat}

theorem keep (consistent : Consistent source) (orderly : Orderly next) {after : Option Stage}
    (stages : ∀ other, next.stage? other = if other = call then after else source.stage? other)
    (value : next.value = source.value) (same : next.fingerprint = source.fingerprint)
    (differs : ∀ fingerprint, after = some (.loading fingerprint) →
      source.fingerprint ≠ some fingerprint) : Consistent next := by
  refine ⟨orderly, ?_, ?_⟩
  · rw [value, same]
    exact consistent.paired
  · intro other fingerprint found
    rw [stages] at found
    rw [same]
    by_cases own : other = call
    · rw [if_pos own] at found
      exact differs fingerprint found
    · rw [if_neg own] at found
      exact consistent.differs other fingerprint found

theorem finish (consistent : Consistent source) (orderly : Orderly next) {stage : Stage}
    (found : source.stage? call = some stage) (inside : stage.isInside = true)
    (stages : ∀ other, next.stage? other = if other = call then none else source.stage? other)
    (paired : next.fingerprint.isSome = next.value.isSome) : Consistent next := by
  refine ⟨orderly, paired, ?_⟩
  intro other fingerprint loading
  rw [stages] at loading
  by_cases own : other = call
  · rw [if_pos own] at loading
    cases loading
  · rw [if_neg own] at loading
    exact absurd (consistent.inside_unique found inside loading rfl) own

end Consistent

theorem consistent_new : Consistent (new : Source V) := by
  refine ⟨Turnstile.orderly_empty _ _, rfl, ?_⟩
  intro call fingerprint found
  cases found

variable [DecidableEq V]

/-- A listener that holds `held` is told of a change.  It goes on only if it finds there what the
change says was there. -/
def hear (held : Option V) (change : Change V) : Option (Option V) :=
  if change.old = held then some change.new else none

section Step

variable {source next : Source V} {event : Event V E} {reply : Reply V E}

/-- A listener that holds the value before an event holds the value after it, and is not told of a
change that is none. -/
theorem heard_of_step (step : Step source event next reply) :
    reply.change?.toList.foldlM hear source.value = some next.value ∧
      ∀ change, reply.change? = some change → change.old ≠ change.new := by
  cases step with
  | removed stage =>
      cases value : source.value with
      | none => simp [Reply.change?, remove, retire, value]
      | some old => simp [Reply.change?, remove, retire, value, hear, Change.old, Change.new]
  | @replaced call fingerprint new stage =>
      cases value : source.value with
      | none => simp [Reply.change?, replace, retire, value, hear, Change.old, Change.new]
      | some old =>
          by_cases same : old = new
          · simp [Reply.change?, replace, retire, value, same]
          · simp [Reply.change?, replace, retire, value, same, hear, Change.old, Change.new]
  | _ => exact ⟨rfl, nofun⟩

theorem contents_of_step (step : Step source event next reply)
    (unfinished : ∀ change, reply ≠ .finished (.ok change)) :
    next.value = source.value ∧ next.fingerprint = source.fingerprint := by
  cases step with
  | removed => exact absurd rfl (unfinished _)
  | replaced => exact absurd rfl (unfinished _)
  | _ => exact ⟨rfl, rfl⟩

theorem load_iff {fingerprint : String} (source : Source V) (event : Event V E) :
    (source.step event).2 = .load fingerprint ↔
      ∃ call, event = .probed call (.ok (some fingerprint)) ∧
        source.stage? call = some .probing ∧ source.fingerprint ≠ some fingerprint := by
  constructor
  · intro loads
    have step := step_of_event source event
    rw [loads] at step
    generalize (source.step event).1 = next at step
    cases step with
    | asked stage differs => exact ⟨_, rfl, stage, differs⟩
  · rintro ⟨call, rfl, stage, differs⟩
    simp only [Source.step, stage, differs, if_false]

theorem contents_of_loaded {call : Nat} {fingerprint : String} (new : V)
    (stage : source.stage? call = some (.loading fingerprint)) :
    (source.step (.loaded call (.ok new) : Event V E)).1.value = some new ∧
      (source.step (.loaded call (.ok new) : Event V E)).1.fingerprint = some fingerprint := by
  simp only [Source.step, stage]
  exact ⟨rfl, rfl⟩

theorem contents_of_removed {call : Nat} (stage : source.stage? call = some .probing) :
    (source.step (.probed call (.ok none) : Event V E)).1.value = none := by
  simp only [Source.step, stage]
  rfl

theorem left_of_fails (step : Step source event next reply) (fails : reply.Fails) :
    reply.change? = none ∧ next.stage? event.call = none ∧
      next.gate = source.gate.leave event.call := by
  cases step with
  | unprobed => exact ⟨rfl, (stage?_retire _ _ _).trans (if_pos rfl), rfl⟩
  | unloaded => exact ⟨rfl, (stage?_retire _ _ _).trans (if_pos rfl), rfl⟩
  | dropped => exact ⟨rfl, (stage?_retire _ _ _).trans (if_pos rfl), rfl⟩
  | _ => rcases fails with ⟨_, impossible⟩ | impossible <;> cases impossible

theorem inside_of_step {call : Nat} {stage after : Stage} (step : Step source event next reply)
    (found : source.stage? call = some stage) (inside : stage.isInside = true)
    (nextFound : next.stage? call = some after) : after.isInside = true := by
  by_cases own : event.call = call
  · subst own
    cases step with
    | refused =>
        cases found.symm.trans nextFound
        exact inside
    | waited =>
        cases found.symm.trans nextFound
        exact inside
    | queued absent => cases absent.symm.trans found
    | entered =>
        cases ((stage?_place _ _ _ _).trans (if_pos rfl)).symm.trans nextFound
        rfl
    | asked =>
        cases ((stage?_place _ _ _ _).trans (if_pos rfl)).symm.trans nextFound
        rfl
    | _ => cases ((stage?_retire _ _ _).trans (if_pos rfl)).symm.trans nextFound
  · cases found.symm.trans ((stage?_of_other step own).symm.trans nextFound)
    exact inside

theorem unfinished_while_inside {call : Nat} {stage after : Stage}
    (orderly : Orderly source) (step : Step source event next reply)
    (found : source.stage? call = some stage) (inside : stage.isInside = true)
    (nextFound : next.stage? call = some after) (change : Option (Change V)) :
    reply ≠ .finished (.ok change) := by
  rintro rfl
  have own : ∀ {other : Nat} {otherStage : Stage}, source.stage? other = some otherStage →
      otherStage.isInside = true → call = other := fun otherFound otherInside =>
    orderly.inside_unique otherFound otherInside found inside
  cases step with
  | removed stage =>
      cases own stage rfl
      cases ((stage?_retire _ _ _).trans (if_pos rfl)).symm.trans nextFound
  | unchanged stage =>
      cases own stage rfl
      cases ((stage?_retire _ _ _).trans (if_pos rfl)).symm.trans nextFound
  | replaced stage =>
      cases own stage rfl
      cases ((stage?_retire _ _ _).trans (if_pos rfl)).symm.trans nextFound

theorem probe_of_enter {call : Nat} (stage : source.stage? call = some .queued)
    (first : source.gate.holder? = some call) :
    (source.step (.enter call : Event V E)).2 = .probe := by
  simp only [Source.step, stage, first, if_true]

end Step

theorem consistent_of_step {source next : Source V} {event : Event V E} {reply : Reply V E}
    (consistent : Consistent source) (step : Step source event next reply) :
    Consistent next := by
  have orderly := orderly_of_step consistent.toOrderly step
  cases step with
  | refused => exact consistent
  | waited => exact consistent
  | queued => exact consistent.keep orderly (stage?_place _ _ _) rfl rfl nofun
  | entered => exact consistent.keep orderly (stage?_place _ _ _) rfl rfl nofun
  | asked stage differs =>
      refine consistent.keep orderly (stage?_place _ _ _) rfl rfl ?_
      rintro fingerprint ⟨⟩
      exact differs
  | unprobed => exact consistent.keep orderly (stage?_retire _ _) rfl rfl nofun
  | unchanged => exact consistent.keep orderly (stage?_retire _ _) rfl rfl nofun
  | unloaded => exact consistent.keep orderly (stage?_retire _ _) rfl rfl nofun
  | dropped => exact consistent.keep orderly (stage?_retire _ _) rfl rfl nofun
  | removed stage => exact consistent.finish orderly stage rfl (stage?_retire _ _) rfl
  | replaced stage => exact consistent.finish orderly stage rfl (stage?_retire _ _) rfl

/-! ## Lives -/

/-- The life of a source is an order of events that reach it. -/
abbrev Life (V E : Type) [DecidableEq V] := Run (step (V := V) (E := E)) new

theorem step_at (life : Life V E) (n : Nat) :
    Step (life.before n) (life.event n) (life.before (n + 1)) (life.reply n) :=
  step_of_event (life.before n) (life.event n)

theorem consistent_before (life : Life V E) (n : Nat) : Consistent (life.before n) :=
  life.holds_of_kept Consistent consistent_new
    (fun n consistent => consistent_of_step consistent (step_at life n)) n

/-- The changes of which listeners are told by the next `count` events from number `i` on. -/
def heard (life : Life V E) (i count : Nat) : List (Change V) :=
  (List.range' i count).filterMap fun n => (life.reply n).change?

theorem heard_succ (life : Life V E) (i count : Nat) :
    heard life i (count + 1) = heard life i count ++ (life.reply (i + count)).change?.toList := by
  rw [heard, List.range'_1_concat, List.filterMap_append]
  rfl

theorem mem_heard {life : Life V E} {i count : Nat} {change : Change V}
    (told : change ∈ heard life i count) : ∃ n, (life.reply n).change? = some change := by
  obtain ⟨n, _, same⟩ := List.mem_filterMap.mp told
  exact ⟨n, same⟩

theorem follows (life : Life V E) (i count : Nat) :
    (heard life i count).foldlM hear (life.before i).value =
      some (life.before (i + count)).value := by
  induction count with
  | zero => rfl
  | succ count ih =>
      rw [heard_succ, List.foldlM_append, ih]
      exact (heard_of_step (step_at life (i + count))).1

theorem contents_until {life : Life V E} {n m : Nat} (le : n ≤ m)
    (unfinished : ∀ k, n ≤ k → k < m → ∀ change, life.reply k ≠ .finished (.ok change)) :
    (life.before m).value = (life.before n).value ∧
      (life.before m).fingerprint = (life.before n).fingerprint := by
  induction m, le using Nat.le_induction with
  | base => exact ⟨rfl, rfl⟩
  | succ m le ih =>
      obtain ⟨value, fingerprint⟩ := ih fun k later below => unfinished k later (by omega)
      have kept := contents_of_step (step_at life m) (unfinished m le (Nat.lt_succ_self m))
      exact ⟨kept.1.trans value, kept.2.trans fingerprint⟩

/-- From the moment on at which a refresh comes inside, the contents stay as they are until it
ends. -/
theorem contents_while_inside {life : Life V E} {call i n : Nat}
    (enters : life.event i = .enter call)
    (probes : life.reply i = .probe) (after : i < n)
    (lasts : ∀ k, i < k → k ≤ n → (life.before k).stage? call ≠ none) :
    (∃ stage, (life.before n).stage? call = some stage ∧ stage.isInside = true) ∧
      (life.before n).value = (life.before i).value ∧
      (life.before n).fingerprint = (life.before i).fingerprint := by
  induction n, after using Nat.le_induction with
  | base =>
      have step := step_at life i
      have kept := contents_of_step step (by rw [probes]; exact nofun)
      refine ⟨?_, kept⟩
      rw [enters, probes] at step
      generalize life.before (i + 1) = next at step
      cases step with
      | entered => exact ⟨.probing, (stage?_place _ _ _ _).trans (if_pos rfl), rfl⟩
  | succ n after ih =>
      obtain ⟨⟨stage, found, inside⟩, kept⟩ := ih fun k later upTo => lasts k later (by omega)
      obtain ⟨next, nextFound⟩ :=
        Option.ne_none_iff_exists'.mp (lasts (n + 1) (by omega) (Nat.le_refl (n + 1)))
      have step := step_at life n
      have same := contents_of_step step (unfinished_while_inside
        (consistent_before life n).toOrderly step found inside nextFound)
      exact ⟨⟨next, nextFound, inside_of_step step found inside nextFound⟩,
        same.1.trans kept.1, same.2.trans kept.2⟩

/-! ## The discipline -/

/-- In every life of a source:

* it has a fingerprint if and only if it has a value;
* a listener that holds the value when it is registered finds with every change that it holds what
  was there before, and holds the value after any number of events;
* every change is one;
* contents are loaded if and only if a refresh has found a fingerprint that is not the one stored
  with the value, and this is so as long as the loading lasts;
* a refresh that has loaded contents leaves them as the value, and one that finds the source gone
  leaves none;
* a refresh that fails or is given up leaves value and fingerprint as it has found them, tells
  nothing and lets the next one in.  Whoever comes inside takes the fingerprint anew, and until a
  refresh succeeds, contents that could not be loaded are loaded by whoever finds them. -/
theorem notification_discipline (life : Life V E) :
    (∀ n, (life.before n).fingerprint.isSome = (life.before n).value.isSome) ∧
    (∀ i count, (heard life i count).foldlM hear (life.before i).value =
      some (life.before (i + count)).value) ∧
    (∀ i count change, change ∈ heard life i count → change.old ≠ change.new) ∧
    ((∀ n fingerprint, life.reply n = .load fingerprint ↔
        ∃ call, life.event n = .probed call (.ok (some fingerprint)) ∧
          (life.before n).stage? call = some .probing ∧
          (life.before n).fingerprint ≠ some fingerprint) ∧
      (∀ n call fingerprint, (life.before n).stage? call = some (.loading fingerprint) →
        (life.before n).fingerprint ≠ some fingerprint)) ∧
    ((∀ n call fingerprint new, life.event n = .loaded call (.ok new) →
        (life.before n).stage? call = some (.loading fingerprint) →
          (life.before (n + 1)).value = some new ∧
          (life.before (n + 1)).fingerprint = some fingerprint) ∧
      (∀ n call, life.event n = .probed call (.ok none) →
        (life.before n).stage? call = some .probing → (life.before (n + 1)).value = none)) ∧
    ((∀ n, (life.reply n).Fails →
        ((life.before (n + 1)).value = (life.before n).value ∧
          (life.before (n + 1)).fingerprint = (life.before n).fingerprint) ∧
        (life.reply n).change? = none ∧ (life.before (n + 1)).stage? (life.event n).call = none ∧
        (life.before (n + 1)).gate = (life.before n).gate.leave (life.event n).call) ∧
      (∀ call i n, life.event i = .enter call → life.reply i = .probe → i < n →
        (∀ k, i < k → k ≤ n → (life.before k).stage? call ≠ none) → (life.reply n).Fails →
          (life.before (n + 1)).value = (life.before i).value ∧
          (life.before (n + 1)).fingerprint = (life.before i).fingerprint) ∧
      (∀ n call, (life.before n).stage? call = some .queued →
        (life.before n).gate.holder? = some call →
          ((life.before n).step (.enter call : Event V E)).2 = .probe) ∧
      (∀ n m call fingerprint, (life.reply n).Fails →
        (life.before n).stage? (life.event n).call = some (.loading fingerprint) → n < m →
        (∀ k, n < k → k < m → ∀ change, life.reply k ≠ .finished (.ok change)) →
        life.event m = .probed call (.ok (some fingerprint)) →
        (life.before m).stage? call = some .probing → life.reply m = .load fingerprint)) := by
  refine ⟨?_, ?_, ?_, ⟨?_, ?_⟩, ⟨?_, ?_⟩, ⟨?_, ?_, ?_, ?_⟩⟩
  · intro n
    exact (consistent_before life n).paired
  · intro i count
    exact follows life i count
  · intro i count change told
    obtain ⟨n, same⟩ := mem_heard told
    exact (heard_of_step (step_at life n)).2 change same
  · intro n fingerprint
    exact load_iff (life.before n) (life.event n)
  · intro n call fingerprint loading
    exact (consistent_before life n).differs call fingerprint loading
  · intro n call fingerprint new loaded stage
    rw [Run.before_succ, loaded]
    exact contents_of_loaded new stage
  · intro n call gone stage
    rw [Run.before_succ, gone]
    exact contents_of_removed stage
  · intro n fails
    have step := step_at life n
    exact ⟨contents_of_step step (unfinished_of_fails fails), left_of_fails step fails⟩
  · intro call i n enters probes after lasts fails
    obtain ⟨-, kept⟩ := contents_while_inside enters probes after lasts
    have same := contents_of_step (step_at life n) (unfinished_of_fails fails)
    exact ⟨same.1.trans kept.1, same.2.trans kept.2⟩
  · intro n call stage first
    exact probe_of_enter stage first
  · intro n m call fingerprint fails loading later unfinished probed stage
    have failed := contents_of_step (step_at life n) (unfinished_of_fails fails)
    have kept := contents_until later unfinished
    have differs := (consistent_before life n).differs _ fingerprint loading
    rw [← failed.2, ← kept.2] at differs
    exact (load_iff (life.before m) (life.event m)).mpr ⟨call, probed, stage, differs⟩

end Steward.Source
