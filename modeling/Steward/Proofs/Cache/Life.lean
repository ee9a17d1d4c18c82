import Steward.Proofs.Cache.Course
/-!
# Lives of caches

The life of a cache is an order of events that reach it.  In it computations start and, unless they
are dropped, complete.  Each has a number of its own, and the cache changes its value and its last
failure only when one completes.
-/

set_option autoImplicit false

namespace Steward.Cache

variable {V E : Type} {ttl : Option Duration}

abbrev Life (V E : Type) (ttl : Option Duration) := Run (@Cache.step V E) (Cache.new ttl)

theorem change_at (life : Life V E ttl) (n : Nat) :
    Change (life.before n) (life.event n) (life.before (n + 1)) (life.reply n) :=
  change_step (life.before n) (life.event n)

theorem ttl_of_change {cache next : Cache V E} {event : Event V E} {reply : Reply V E}
    (change : Change cache event next reply) : next.ttl = cache.ttl := by
  cases effect_of_change change with
  | nothing alike => exact alike.ttl
  | started alike => exact alike.ttl
  | @completed _ _ _ _ _ result _ alike =>
      rw [alike.ttl]
      cases result <;> rfl
  | invalidated alike => exact alike.ttl

theorem ttl_before (life : Life V E ttl) (n : Nat) : (life.before n).ttl = ttl :=
  life.holds_of_kept (fun cache => cache.ttl = ttl) rfl
    (fun n same => (ttl_of_change (change_at life n)).trans same) n

/-! ## Readers that wait -/

/-- A reader comes that waits for a value if there is none that will do. -/
def Gets (life : Life V E ttl) (call i : Nat) : Prop :=
  (∃ now, life.event i = .get call now) ∧ (life.before i).stage? call = none

/-- The call that came with event number `i` has not ended when event number `j` comes. -/
def Lasts (life : Life V E ttl) (call i j : Nat) : Prop :=
  ∀ k, i < k → k ≤ j → (life.before k).stage? call ≠ none

/-- By event number `j` the reader gets `result`, without or with a computation of its own. -/
def Returns (life : Life V E ttl) (call j : Nat) (result : Except E V) : Prop :=
  (life.event j).call? = some call ∧
    (life.reply j = .served result ∨ life.reply j = .completed result true)

/-- The call comes inside by event number `j` and learns what it has to do. -/
def Enters (life : Life V E ttl) (call j : Nat) : Prop :=
  (∃ now, life.event j = .enter call now) ∧
    (∃ role, (life.before j).stage? call = some (.queued role)) ∧
    (life.before j).gate.holder? = some call

theorem lasts_of_isSome {life : Life V E ttl} {call i j : Nat}
    (there : ∀ k < j + 1, i < k → ((life.before k).stage? call).isSome = true) :
    Lasts life call i j := by
  intro k after upTo absent
  have present := there k (Nat.lt_succ_of_le upTo) after
  rw [absent] at present
  cases present

theorem Lasts.shorter {life : Life V E ttl} {call i j k : Nat} (lasts : Lasts life call i j)
    (le : k ≤ j) : Lasts life call i k :=
  fun n after upTo => lasts n after (Nat.le_trans upTo le)

theorem Lasts.stage {life : Life V E ttl} {call i j : Nat} (lasts : Lasts life call i j)
    {n : Nat} (after : i < n) (upTo : n ≤ j) : ∃ stage, (life.before n).stage? call = some stage :=
  Option.ne_none_iff_exists'.mp (lasts n after upTo)

/-- The number of completed computations when a waiting reader came, as far as its stage remembers
it. -/
def Stage.CameAt (count : Nat) : Stage → Prop
  | .missed seen | .queued (.reader seen) => seen = count
  | .computing (.reader _) _ _ => True
  | _ => False

theorem cameAt_of_moves {stage after : Stage} {event : Event V E} {reply : Reply V E}
    {count : Nat} (moves : Moves stage event reply (some after)) (came : stage.CameAt count) :
    after.CameAt count := by
  cases moves with
  | refused => exact came
  | waited => exact came
  | joined => exact came
  | begun => cases came
  | @started role =>
      cases role with
      | reader seen => trivial
      | job epoch => cases came

theorem cameAt_while_lasting {life : Life V E ttl} {call i j : Nat} (gets : Gets life call i)
    (after : i < j) (lasts : Lasts life call i j) {stage : Stage}
    (found : (life.before j).stage? call = some stage) :
    stage.CameAt (life.before i).completed := by
  induction j generalizing stage with
  | zero => omega
  | succ j ih =>
      rcases Nat.lt_succ_iff_lt_or_eq.mp after with earlier | rfl
      · obtain ⟨last, lastFound⟩ := lasts.stage earlier (Nat.le_succ j)
        have came := ih earlier (lasts.shorter (Nat.le_succ j)) lastFound
        rcases moves_or_stays (change_at life j) lastFound found with ⟨_, moves⟩ | rfl
        · exact cameAt_of_moves moves came
        · exact came
      · obtain ⟨⟨now, event⟩, absent⟩ := gets
        rcases begins_of_change (change_at life i) absent found with
          ⟨_, _, rfl⟩ | ⟨_, other, _⟩
        · rfl
        · cases event.symm.trans other

theorem epoch_of_change {cache next : Cache V E} {event : Event V E} {reply : Reply V E}
    (change : Change cache event next reply) : cache.epoch ≤ next.epoch := by
  cases effect_of_change change with
  | nothing alike => exact Nat.le_of_eq alike.epoch.symm
  | started alike => exact Nat.le_of_eq alike.epoch.symm
  | @completed _ _ _ _ _ result _ alike =>
      rw [alike.epoch]
      cases result <;> exact Nat.le_refl _
  | invalidated alike =>
      rw [alike.epoch]
      exact Nat.le_succ _

theorem epoch_le (life : Life V E ttl) {i n : Nat} (le : i ≤ n) :
    (life.before i).epoch ≤ (life.before n).epoch :=
  life.le_of_grown Cache.epoch (fun n => epoch_of_change (change_at life n)) le

theorem epoch_lt {life : Life V E ttl} {b k n : Nat} (clears : life.event k = .invalidate)
    (upTo : b ≤ k) (after : k < n) : (life.before b).epoch < (life.before n).epoch := by
  have earlier := epoch_le life upTo
  have later := epoch_le life (show k + 1 ≤ n from after)
  have counted : (life.before (k + 1)).epoch = (life.before k).epoch + 1 := by
    rw [Run.before_succ, clears]
    rfl
  omega

/-! ## Computations -/

def Starts (life : Life V E ttl) (b ticket : Nat) : Prop := life.reply b = .load ticket

/-- Computation number `ticket` completes by event number `m` with this result. -/
def Completes (life : Life V E ttl) (m ticket : Nat) (result : Except E V) : Prop :=
  ∃ call role epoch now, life.event m = .loaded call result now ∧
    (life.before m).stage? call = some (.computing role ticket epoch)

theorem started_of_change {cache next : Cache V E} {event : Event V E} {reply : Reply V E}
    (change : Change cache event next reply) :
    (next.started = cache.started ∧ ∀ ticket, reply ≠ .load ticket) ∨
      (next.started = cache.started + 1 ∧ reply = .load (cache.started + 1)) := by
  cases effect_of_change change with
  | nothing alike idle => exact .inl ⟨alike.started, idle⟩
  | started alike => exact .inr ⟨alike.started, rfl⟩
  | @completed _ _ _ _ _ result _ alike =>
      refine .inl ⟨alike.started.trans ?_, nofun⟩
      cases result <;> rfl
  | invalidated alike => exact .inl ⟨alike.started, nofun⟩

theorem started_le (life : Life V E ttl) {i n : Nat} (le : i ≤ n) :
    (life.before i).started ≤ (life.before n).started := by
  refine life.le_of_grown Cache.started ?_ le
  intro n
  rcases started_of_change (change_at life n) with ⟨same, _⟩ | ⟨grown, _⟩
  · exact Nat.le_of_eq same.symm
  · exact grown ▸ Nat.le_succ _

theorem started_of_starts {life : Life V E ttl} {b ticket : Nat} (starts : Starts life b ticket) :
    ticket = (life.before b).started + 1 ∧ (life.before (b + 1)).started = ticket := by
  rcases started_of_change (change_at life b) with ⟨_, none⟩ | ⟨grown, loads⟩
  · exact absurd starts (none ticket)
  · have same : Reply.load ticket = (.load ((life.before b).started + 1) : Reply V E) :=
      starts.symm.trans loads
    cases same
    exact ⟨rfl, grown⟩

theorem starts_unique {life : Life V E ttl} {b other ticket : Nat} (starts : Starts life b ticket)
    (also : Starts life other ticket) : other = b := by
  obtain ⟨number, counted⟩ := started_of_starts starts
  obtain ⟨otherNumber, otherCounted⟩ := started_of_starts also
  rcases Nat.lt_trichotomy b other with earlier | rfl | later
  · have upTo := started_le life (show b + 1 ≤ other from earlier)
    omega
  · rfl
  · have upTo := started_le life (show other + 1 ≤ b from later)
    omega

/-- A call that computes has started its computation, in the number of invalidations that it
remembers, and has not ended since. -/
theorem starts_of_computing (life : Life V E ttl) {n call ticket epoch : Nat} {role : Role}
    (computes : (life.before n).stage? call = some (.computing role ticket epoch)) :
    ∃ b, b < n ∧ Starts life b ticket ∧ (life.before b).epoch = epoch ∧
      (∃ now, life.event b = .enter call now) ∧
      ∀ k, b ≤ k → k ≤ n → (life.before k).stage? call ≠ none := by
  induction n with
  | zero => cases computes
  | succ n ih =>
      have change := change_at life n
      cases found : (life.before n).stage? call with
      | none =>
          rcases begins_of_change change found computes with
            ⟨_, _, impossible⟩ | ⟨_, _, impossible⟩
          · cases impossible
          · cases impossible
      | some stage =>
          have present : (life.before n).stage? call ≠ none := by simp [found]
          have extend : stage = .computing role ticket epoch →
              ∃ b, b < n + 1 ∧ Starts life b ticket ∧ (life.before b).epoch = epoch ∧
                (∃ now, life.event b = .enter call now) ∧
                ∀ k, b ≤ k → k ≤ n + 1 → (life.before k).stage? call ≠ none := by
            intro same
            obtain ⟨b, earlier, starts, since, enters, lasts⟩ :=
              ih (found.trans (congrArg some same))
            refine ⟨b, Nat.lt_succ_of_lt earlier, starts, since, enters, ?_⟩
            intro k from_b upTo
            rcases Nat.le_succ_iff.mp upTo with before | rfl
            · exact lasts k from_b before
            · rw [computes]
              exact Option.some_ne_none _
          rcases moves_or_stays change found computes with ⟨own, moves⟩ | same
          · generalize happens : life.event n = event, answer : life.reply n = reply
              at moves own change
            cases moves with
            | refused => exact extend rfl
            | started =>
                cases own
                generalize after : life.before (n + 1) = next at change computes
                cases change with
                | started before =>
                    cases (stage?_place_self _ _ _).symm.trans computes
                    refine ⟨n, Nat.lt_succ_self n, answer, rfl, ⟨_, happens⟩, ?_⟩
                    intro k from_n upTo
                    rcases Nat.le_succ_iff.mp upTo with before | rfl
                    · rw [Nat.le_antisymm before from_n]
                      exact present
                    · rw [after, stage?_place_self]
                      exact Option.some_ne_none _
          · exact extend same.symm

end Steward.Cache
