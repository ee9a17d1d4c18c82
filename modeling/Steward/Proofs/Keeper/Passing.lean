import Steward.Proofs.Keeper.Outcome
/-!
# Lines that pass

When a transition is completed, each call in line for a usable credential came before and will be
given the outcome.  So will a call for a replacement if the outcome is another credential than the
rejected one.  If this holds of everybody in line, the line passes without a further transition,
whatever comes behind it, as long as no call is given up.
-/

set_option autoImplicit false

namespace Steward.Keeper

variable {window : RefreshWindow}

/-- A call at this stage asks for nothing as long as this outcome is shown and `count` transitions
have been completed. -/
def Stage.Passes (count : Nat) (result : Except AuthError Held) : Stage → Prop
  | .queued (.usable seen) => seen ≠ count
  | .queued (.replacement rejected) => ∃ held, result = .ok held ∧ held.number ≠ rejected
  | .leaving (some _) => True
  | _ => False

/-- The outcome of transition number `count` is shown, and everybody in line up to `call` passes. -/
structure Passing (keeper : Keeper) (call count : Nat) (result : Except AuthError Held) : Prop where
  completed : keeper.completed = count
  shows : Shows keeper result
  ahead : ∃ front back, keeper.gate.line = front ++ call :: back ∧
    ∀ other ∈ front ++ [call],
      ∃ stage, keeper.stage? other = some stage ∧ stage.Passes count result

theorem shows_congr {keeper next : Keeper} {result : Except AuthError Held}
    (shows : Shows keeper result) (failure : next.lastFailure = keeper.lastFailure)
    (current : next.current = keeper.current) : Shows next result := by
  cases result with
  | ok held => exact ⟨failure.trans shows.1, current.trans shows.2⟩
  | error error => exact failure.trans shows

namespace Passing

variable {keeper next : Keeper} {call count : Nat} {result : Except AuthError Held}

theorem first_passes (passing : Passing keeper call count result) {other : Nat}
    (first : keeper.gate.holder? = some other) :
    ∃ stage, keeper.stage? other = some stage ∧ stage.Passes count result := by
  obtain ⟨front, back, line, passes⟩ := passing.ahead
  refine passes other ?_
  rw [Turnstile.holder?, line] at first
  cases front with
  | nil => simpa using first.symm
  | cons head rest =>
      cases first
      simp

theorem leaving_of_inside (passing : Passing keeper call count result) (orderly : Orderly keeper)
    {other : Nat} {stage : Stage} (found : keeper.stage? other = some stage)
    (inside : stage.isInside = true) : ∃ given, stage = .leaving (some given) := by
  have first := orderly.first_of_inside other stage found inside
  obtain ⟨_, same, passes⟩ := passing.first_passes first
  cases found.symm.trans same
  cases stage with
  | queued purpose => cases inside
  | leaving given =>
      cases given with
      | none => cases passes
      | some given => exact ⟨given, rfl⟩
  | _ => cases passes

theorem known_of_first (passing : Passing keeper call count result) {other : Nat} (now : Instant)
    {purpose : Purpose} (first : keeper.gate.holder? = some other)
    (found : keeper.stage? other = some (.queued purpose)) :
    keeper.known now purpose = some result := by
  obtain ⟨_, same, passes⟩ := passing.first_passes first
  cases found.symm.trans same
  cases purpose with
  | usable seen => exact known_of_shows passing.shows (passing.completed ▸ Ne.symm passes)
  | replacement rejected =>
      obtain ⟨held, rfl, differs⟩ := passes
      exact known_replacement_iff.mpr ⟨held, rfl, passing.shows.2, differs⟩

theorem not_unknown (passing : Passing keeper call count result) {other : Nat} {now : Instant}
    {purpose : Purpose} (first : keeper.gate.holder? = some other)
    (found : keeper.stage? other = some (.queued purpose)) : keeper.known now purpose ≠ none := by
  rw [passing.known_of_first now first found]
  exact Option.some_ne_none result

theorem keep (passing : Passing keeper call count result)
    (completed : next.completed = keeper.completed)
    (failure : next.lastFailure = keeper.lastFailure) (current : next.current = keeper.current)
    (line : ∃ more, next.gate.line = keeper.gate.line ++ more)
    (stages : ∀ other stage, keeper.stage? other = some stage → stage.Passes count result →
      ∃ after, next.stage? other = some after ∧ after.Passes count result) :
    Passing next call count result := by
  obtain ⟨front, back, before, passes⟩ := passing.ahead
  obtain ⟨more, longer⟩ := line
  refine ⟨completed.trans passing.completed, shows_congr passing.shows failure current, front,
    back ++ more, ?_, ?_⟩
  · rw [longer, before, List.append_assoc, List.cons_append]
  · intro other member
    obtain ⟨stage, found, passed⟩ := passes other member
    exact stages other stage found passed

theorem advance (passing : Passing keeper call count result) (orderly : Orderly keeper)
    {leaver : Nat} (first : keeper.gate.holder? = some leaver) (differs : leaver ≠ call) :
    Passing ({ keeper with gate := keeper.gate.leave leaver }.forget leaver) call count result := by
  obtain ⟨front, back, line, passes⟩ := passing.ahead
  have once := orderly.once
  rw [Turnstile.holder?, line] at first
  rw [line] at once
  cases front with
  | nil => exact absurd (Option.some.inj first).symm differs
  | cons head rest =>
      cases first
      refine ⟨passing.completed, passing.shows, rest, back, ?_, ?_⟩
      · simp [Turnstile.leave, forget, line]
      · intro other member
        have stays : other ≠ leaver := by
          rintro rfl
          simp only [List.cons_append, List.nodup_cons] at once
          simp only [List.mem_append, List.mem_singleton] at member
          rcases member with member | rfl
          · exact once.1 (List.mem_append_left _ member)
          · exact differs rfl
        obtain ⟨stage, found, passed⟩ := passes other (List.mem_cons_of_mem _ member)
        exact ⟨stage, ((stage?_forget _ _ _).trans (if_neg stays)).trans found, passed⟩

end Passing

theorem passing_of_change {keeper next : Keeper} {event : Event} {reply : Reply}
    {call count : Nat} {result : Except AuthError Held} (orderly : Orderly keeper)
    (change : Change keeper event next reply) (undropped : ∀ other, event ≠ .drop other)
    (lasts : next.stage? call ≠ none) (passing : Passing keeper call count result) :
    Passing next call count result := by
  -- Whoever has no place in the line does not pass, and steps of others leave a stage alone.
  have elsewhere : ∀ {other stage},
      (keeper.stage? event.call = none ∨
        ∃ stage, keeper.stage? event.call = some stage ∧ stage.isInLine = false) →
      keeper.stage? other = some stage → stage.Passes count result →
      ∃ after, next.stage? other = some after ∧ after.Passes count result := by
    intro other stage outside found passes
    refine ⟨stage, (stage?_of_other change ?_).trans found, passes⟩
    rintro rfl
    rcases outside with absent | ⟨before, same, outside⟩
    · cases found.symm.trans absent
    · cases found.symm.trans same
      cases stage with
      | arrived seen => cases passes
      | missed seen => cases passes
      | _ => cases outside
  -- Whoever has come inside passes too, so no call is at a stage of a transition.
  have idle : ∀ {other stage}, keeper.stage? other = some stage → stage.isInside = true →
      (∀ given, stage ≠ .leaving (some given)) → False := by
    intro other stage found inside busy
    obtain ⟨given, leaving⟩ := passing.leaving_of_inside orderly found inside
    exact busy given leaving
  cases change with
  | refused => exact passing
  | waited => exact passing
  | arrived absent =>
      exact passing.keep rfl rfl rfl ⟨[], (List.append_nil _).symm⟩
        fun _ _ found passes => elsewhere (.inl absent) found passes
  | served stage =>
      exact passing.keep rfl rfl rfl ⟨[], (List.append_nil _).symm⟩
        fun _ _ found passes => elsewhere (.inr ⟨_, stage, rfl⟩) found passes
  | missed stage =>
      exact passing.keep rfl rfl rfl ⟨[], (List.append_nil _).symm⟩
        fun _ _ found passes => elsewhere (.inr ⟨_, stage, rfl⟩) found passes
  | joined stage =>
      exact passing.keep rfl rfl rfl ⟨_, rfl⟩
        fun _ _ found passes => elsewhere (.inr ⟨_, stage, rfl⟩) found passes
  | rejected absent =>
      exact passing.keep rfl rfl rfl ⟨_, rfl⟩
        fun _ _ found passes => elsewhere (.inl absent) found passes
  | shared stage first known =>
      refine passing.keep rfl rfl rfl ⟨[], (List.append_nil _).symm⟩ ?_
      intro other before found passes
      rw [stage?_place]
      split
      · exact ⟨_, rfl, trivial⟩
      · exact ⟨before, found, passes⟩
  | asked stage first unknown => exact absurd unknown (passing.not_unknown first stage)
  | refresh due =>
      cases due with
      | entered stage first unknown => exact absurd unknown (passing.not_unknown first stage)
      | resumed stage => exact (idle stage rfl nofun).elim
  | login due =>
      cases due with
      | entered stage first unknown => exact absurd unknown (passing.not_unknown first stage)
      | resumed stage => exact (idle stage rfl nofun).elim
  | restored stage => exact (idle stage rfl nofun).elim
  | unrestored stage => exact (idle stage rfl nofun).elim
  | sufficed stage => exact (idle stage rfl nofun).elim
  | granted stage asking =>
      rcases asking with rfl | ⟨_, _, rfl⟩
      · exact (idle stage rfl nofun).elim
      · exact (idle stage rfl nofun).elim
  | kept stage => exact (idle stage rfl nofun).elim
  | discarded stage => exact (idle stage rfl nofun).elim
  | failed stage => exact (idle stage rfl nofun).elim
  | saved stage => exact (idle stage rfl nofun).elim
  | installed stage => exact (idle stage rfl nofun).elim
  | withdrew => exact absurd rfl (undropped _)
  | unqueued => exact absurd rfl (undropped _)
  | interrupted => exact absurd rfl (undropped _)
  | returned stage =>
      refine passing.advance orderly (orderly.first_of_inside _ _ stage rfl) ?_
      rintro rfl
      exact lasts (stage?_forget_self _ _)
  | gone stage => exact (idle stage rfl nofun).elim

theorem passing_while_lasting {life : Life window}
    (undropped : ∀ n call, life.event n ≠ .drop call) {call count i a m : Nat}
    {result : Except AuthError Held} (passing : Passing (life.before a) call count result)
    (after : i < a) (upTo : a ≤ m) (lasts : Lasts life call i m) :
    Passing (life.before m) call count result := by
  induction m, upTo using Nat.le_induction with
  | base => exact passing
  | succ m upTo ih =>
      exact passing_of_change (consistent_before life m).toOrderly (change_at life m) (undropped m)
        (lasts (m + 1) (by omega) (Nat.le_refl _)) (ih (lasts.shorter (Nat.le_succ m)))

theorem usable_of_queued {life : Life window}
    (unrejected : ∀ n call rejected, life.event n ≠ .reject call rejected) (n : Nat) :
    ∀ call purpose, (life.before n).stage? call = some (.queued purpose) →
      ∃ seen, purpose = .usable seen := by
  induction n with
  | zero =>
      intro call purpose waits
      cases waits
  | succ n ih =>
      intro call purpose waits
      rcases queued_of_change (change_at life n) waits with before | usable | ⟨rejected, event, _⟩
      · exact ih call purpose before
      · exact usable
      · exact absurd event (unrejected n call rejected)

theorem gate_of_completes {life : Life window} {n : Nat} {result : Except AuthError Held}
    (completes : Completes life n result) : (life.before (n + 1)).gate = (life.before n).gate := by
  have grown := completes.1
  have change := change_at life n
  generalize life.event n = event, life.before (n + 1) = next, life.reply n = reply
    at change grown ⊢
  cases change with
  | sufficed => rfl
  | kept => rfl
  | failed => rfl
  | installed => rfl
  | _ => exact absurd grown (Nat.succ_ne_self _).symm

/-- Whoever waits for a replacement when event number `n` comes is given one by this outcome. -/
def Settles (life : Life window) (n : Nat) (result : Except AuthError Held) : Prop :=
  ∀ call rejected, (life.before n).stage? call = some (.queued (.replacement rejected)) →
    ∃ held, result = .ok held ∧ held.number ≠ rejected

theorem settles_of_unrejected {life : Life window}
    (unrejected : ∀ n call rejected, life.event n ≠ .reject call rejected) (n : Nat)
    (result : Except AuthError Held) : Settles life n result := by
  intro call rejected waits
  obtain ⟨seen, impossible⟩ := usable_of_queued unrejected n call _ waits
  cases impossible

/-- When a transition is completed that gives everybody in line what they want, everybody in line
passes from then on. -/
theorem passing_of_completes {life : Life window} {call n : Nat} {purpose : Purpose}
    {result : Except AuthError Held} (settles : Settles life n result)
    (completes : Completes life n result)
    (waits : (life.before n).stage? call = some (.queued purpose)) :
    Passing (life.before (n + 1)) call (life.before (n + 1)).completed result := by
  have consistent := consistent_before life n
  obtain ⟨own, ownFound, ownInside⟩ := inside_of_completes completes
  have first := consistent.first_of_inside _ own ownFound ownInside
  obtain ⟨front, back, line⟩ :=
    List.append_of_mem ((consistent.mem_line_iff call).mpr ⟨_, waits, rfl⟩)
  refine ⟨rfl, shows_of_completes completes, front, back, ?_, ?_⟩
  · rw [gate_of_completes completes, line]
  · intro other member
    by_cases same : other = (life.event n).call
    · exact ⟨.leaving (some result), same ▸ completes.2, trivial⟩
    · have inLine : other ∈ (life.before n).gate.line := by
        rw [line, List.mem_append, List.mem_cons]
        rcases List.mem_append.mp member with ahead | last
        · exact .inl ahead
        · exact .inr (.inl (List.mem_singleton.mp last))
      obtain ⟨stage, found, stands⟩ := (consistent.mem_line_iff other).mp inLine
      have outside := consistent.outside_of_first first found same
      refine ⟨stage, (stage?_of_other (change_at life n) (Ne.symm same)).trans found, ?_⟩
      cases stage with
      | queued purpose =>
          cases purpose with
          | usable seen =>
              have came : seen ≤ (life.before n).completed := consistent.fits other _ found
              have grown := completes.1
              have more : seen ≠ (life.before (n + 1)).completed := by omega
              exact more
          | replacement rejected => exact settles other rejected found
      | arrived seen => cases stands
      | missed seen => cases stands
      | _ => cases outside

/-- Between the end of a transition that gives everybody in line what they want and the end of a
call that waited for it, no other transition is completed. -/
theorem no_completion_in_line {life : Life window}
    (undropped : ∀ n call, life.event n ≠ .drop call) {call i n m : Nat} {purpose : Purpose}
    {result : Except AuthError Held} (settles : Settles life n result)
    (completes : Completes life n result)
    (waits : (life.before n).stage? call = some (.queued purpose)) (after : i < n)
    (lasts : Lasts life call i m) :
    ∀ k, n < k → k < m → ∀ other, ¬ Completes life k other := by
  intro k above below other also
  have passing := passing_of_completes settles completes waits
  have still := passing_while_lasting undropped passing (Nat.lt_succ_of_lt after)
    (show n + 1 ≤ k + 1 by omega) (lasts.shorter below)
  have upTo := completed_le life (show n + 1 ≤ k from above)
  have grown := also.1
  have same := still.completed
  omega

end Steward.Keeper
