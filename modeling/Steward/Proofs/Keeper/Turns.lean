import Steward.Proofs.Keeper.Phase
/-!
# Turns at a keeper

Callers take turns inside the turnstile.  A call that is given up lets go of its turn like one that
is done: it resets the phase while it is still inside, and only then lets the next one in.  So the
phase is that of the transition under way, a call that is given up neither publishes an outcome nor
disturbs its successor, and nobody is left waiting at a turnstile with nobody inside.
-/

set_option autoImplicit false

namespace Steward.Keeper

variable {window : RefreshWindow}

/-! ## What the phase stands for -/

def Request.phase : Request → Phase
  | .login => .authenticating
  | .refresh => .refreshing

/-- Whether a call at this stage is inside a transition that has not come to its end. -/
def Stage.isRunning : Stage → Bool
  | .loading _ | .restored _ | .refreshing _ _ | .loggingIn | .saving _
  | .installing _ => true
  | _ => false

theorem phase_of_request {keeper next : Keeper} {event : Event} {reply : Reply} {request : Request}
    (change : Change keeper event next reply) (asked : reply.request? = some request) :
    next.phase = request.phase := by
  cases change with
  | refresh =>
      cases asked
      rfl
  | login =>
      cases asked
      rfl
  | discarded =>
      cases asked
      rfl
  | _ => cases asked

theorem phase_of_silence {keeper next : Keeper} {event : Event} {reply : Reply}
    (change : Change keeper event next reply) (silent : reply.request? = none) :
    next.phase = keeper.phase ∨ next.phase = .idle := by
  cases change with
  | refresh => cases silent
  | login => cases silent
  | discarded => cases silent
  | sufficed => exact .inr rfl
  | kept => exact .inr rfl
  | failed => exact .inr rfl
  | installed => exact .inr rfl
  | interrupted found inside reset => exact reset.symm.imp (·.2) id
  | _ => exact .inl rfl

theorem isRunning_of_renewing {stage : Stage} (renewing : stage.isRenewing = true) :
    stage.isRunning = true := by
  cases stage with
  | refreshing held forced => rfl
  | loggingIn => rfl
  | saving fresh => rfl
  | installing fresh => rfl
  | _ => cases renewing

theorem running_of_moves {stage after : Stage} {event : Event} {reply : Reply}
    (moves : Moves stage event reply (some after)) (running : after.isRunning = true) :
    stage.isRunning = true ∨
      (∃ call now, event = .enter call now) ∧
        (reply = .load ∨ reply.request?.isSome = true) := by
  cases moves with
  | refused => exact .inl running
  | asked => exact .inr ⟨⟨_, _, rfl⟩, .inl rfl⟩
  | refreshAtOnce => exact .inr ⟨⟨_, _, rfl⟩, .inr rfl⟩
  | loginAtOnce => exact .inr ⟨⟨_, _, rfl⟩, .inr rfl⟩
  | told => exact .inl rfl
  | refreshAfterRestore => exact .inl rfl
  | loginAfterRestore => exact .inl rfl
  | refreshed => exact .inl rfl
  | discarded => exact .inl rfl
  | loggedIn => exact .inl rfl
  | saved => exact .inl rfl
  | _ => cases running

theorem renewing_of_moves {stage after : Stage} {event : Event} {reply : Reply}
    (moves : Moves stage event reply (some after)) (silent : reply.request? = none)
    (renewing : after.isRenewing = true) : stage.isRenewing = true := by
  cases moves with
  | refused => exact renewing
  | refreshed => rfl
  | loggedIn => rfl
  | saved => rfl
  | refreshAtOnce => cases silent
  | loginAtOnce => cases silent
  | refreshAfterRestore => cases silent
  | loginAfterRestore => cases silent
  | discarded => cases silent
  | _ => cases renewing

/-- The phase of the last request that was made. -/
def lastPhase (asked : List Request) : Option Phase := asked.getLast?.map Request.phase

theorem lastPhase_of_change {keeper next : Keeper} {event : Event} {reply : Reply} {call : Nat}
    {stage after : Stage} {asked : List Request} (change : Change keeper event next reply)
    (orderly : Orderly next) (phased : Phased next) (found : keeper.stage? call = some stage)
    (nextFound : next.stage? call = some after) (renewing : after.isRenewing = true)
    (last : stage.isRenewing = true → lastPhase asked = some keeper.phase) :
    lastPhase (asked ++ issued call event reply) = some next.phase := by
  cases request : reply.request? with
  | some request =>
      have asks : reply.request?.isSome = true := by rw [request]; rfl
      obtain ⟨other, otherFound, waits⟩ := inFlight_of_request change asks
      have own : event.call = call := orderly.inside_unique nextFound
        (isInside_of_renewing renewing) otherFound (isInside_of_request waits)
      rw [issued, if_pos own, request, lastPhase, Option.toList_some, List.getLast?_concat,
        phase_of_request change request]
      rfl
  | none =>
      have nothing : issued call event reply = [] := by
        rw [issued, request]
        exact ite_self []
      have begun := begun_of_renewing renewing (phased.shown call after nextFound)
      have same : next.phase = keeper.phase :=
        (phase_of_silence change request).resolve_right begun
      have renewed : stage.isRenewing = true := by
        rcases moves_or_stays change found nextFound with ⟨_, moves⟩ | rfl
        · exact renewing_of_moves moves request renewing
        · exact renewing
      rw [nothing, List.append_nil, same]
      exact last renewed

/-- Whoever is inside a transition has opened it, and if the transition has begun a request, the
phase is that of the last one. -/
theorem transition_of_running (life : Life window) {call n : Nat} {stage : Stage}
    (found : (life.before n).stage? call = some stage) (running : stage.isRunning = true) :
    ∃ k, Opens life call k ∧ k < n ∧ Lasts life call k n ∧
      (stage.isRenewing = true →
        lastPhase (requests life call k n) = some (life.before n).phase) := by
  induction n generalizing stage with
  | zero => cases found
  | succ n ih =>
      have change := change_at life n
      have orderly := (consistent_before life (n + 1)).toOrderly
      have phased := phased_before life (n + 1)
      cases before : (life.before n).stage? call with
      | none =>
          rcases begins_of_change change before found with ⟨_, rfl⟩ | ⟨_, _, rfl⟩
          · cases running
          · cases running
      | some last =>
          have goes_on : last.isRunning = true ∨ Opens life call n := by
            by_cases own : (life.event n).call = call
            · have moves := moves_of_change change own before
              rw [found] at moves
              rcases running_of_moves moves running with still | ⟨⟨other, now, event⟩, asks⟩
              · exact .inl still
              · rw [event] at own
                cases own
                exact .inr ⟨⟨now, event⟩, asks⟩
            · rw [stage?_of_other change own, before] at found
              cases found
              exact .inl running
          rcases goes_on with still | opens
          · obtain ⟨k, opens, early, lasts, asked⟩ := ih before still
            refine ⟨k, opens, Nat.lt_succ_of_lt early, lasts.succ found, fun renewing => ?_⟩
            rw [requests_succ life (Nat.le_of_lt early)]
            exact lastPhase_of_change change orderly phased before found renewing asked
          · obtain ⟨_, _, _, waits, _⟩ := entrance_of_opens opens
            cases before.symm.trans waits
            have lasts : Lasts life call n (n + 1) := by
              intro k after upTo
              obtain rfl : k = n + 1 := by omega
              exact Option.ne_none_iff_exists'.mpr ⟨stage, found⟩
            refine ⟨n, opens, Nat.lt_succ_self n, lasts, fun renewing => ?_⟩
            rw [requests_succ life (Nat.le_refl n)]
            exact lastPhase_of_change change orderly phased before found renewing nofun

/-! ## How a turn passes -/

theorem gate_of_change {keeper next : Keeper} {event : Event} {reply : Reply}
    (change : Change keeper event next reply) :
    next.gate = keeper.gate ∨ next.gate = keeper.gate.enter event.call ∨
      next.gate = keeper.gate.leave event.call ∧ next.phase = keeper.phase ∧
        ∃ stage, keeper.stage? event.call = some stage ∧ stage.isRenewing = false := by
  cases change with
  | joined => exact .inr (.inl rfl)
  | rejected => exact .inr (.inl rfl)
  | unqueued stage => exact .inr (.inr ⟨rfl, rfl, _, stage, rfl⟩)
  | returned stage => exact .inr (.inr ⟨rfl, rfl, _, stage, rfl⟩)
  | gone stage => exact .inr (.inr ⟨rfl, rfl, _, stage, rfl⟩)
  | _ => exact .inl rfl

theorem turn_passes {keeper next : Keeper} {event : Event} {reply : Reply} {call : Nat}
    (orderly : Orderly keeper) (phased : Phased keeper) (change : Change keeper event next reply)
    (first : keeper.gate.holder? = some call) (passed : next.gate.holder? ≠ some call) :
    event.call = call ∧ keeper.phase = .idle ∧ next.phase = .idle ∧
      next.gate = keeper.gate.leave call := by
  rcases gate_of_change change with same | entered | ⟨left, same, stage, found, resting⟩
  · exact absurd (same ▸ first) passed
  · exact absurd (entered ▸ Turnstile.holder?_enter_of_some first event.call) passed
  · by_cases own : event.call = call
    · subst own
      have idle := phased.idle_of_first orderly first found resting
      exact ⟨rfl, idle, same.trans idle, left⟩
    · exact absurd (left ▸ Turnstile.holder?_leave_of_ne first own) passed

theorem first_of_phase_change {keeper next : Keeper} {event : Event} {reply : Reply}
    (orderly : Orderly keeper) (change : Change keeper event next reply)
    (changed : next.phase ≠ keeper.phase) : keeper.gate.holder? = some event.call := by
  cases change with
  | refresh due => exact due.call_eq ▸ due.first orderly
  | login due => exact due.call_eq ▸ due.first orderly
  | sufficed stage => exact orderly.first_of_inside _ _ stage rfl
  | kept stage => exact orderly.first_of_inside _ _ stage rfl
  | discarded stage => exact orderly.first_of_inside _ _ stage rfl
  | failed stage => exact orderly.first_of_inside _ _ stage rfl
  | installed stage => exact orderly.first_of_inside _ _ stage rfl
  | interrupted found inside => exact orderly.first_of_inside _ _ found inside
  | _ => exact absurd rfl changed

theorem inside_at_turn {keeper : Keeper} {call : Nat} {purpose : Purpose}
    (waits : keeper.stage? call = some (.queued purpose))
    (first : keeper.gate.holder? = some call) (now : Instant) :
    ∃ stage, (keeper.step (.enter call now)).1.stage? call = some stage ∧
      stage.isInside = true := by
  cases known : keeper.known now purpose with
  | some result =>
      rw [step_enter waits first known]
      exact ⟨_, stage?_place_self _ _ _, rfl⟩
  | none =>
      rw [step_enter_unknown waits first known, beginTransition]
      split
      · unfold renew
        split
        · exact ⟨_, stage?_place_self _ _ _, rfl⟩
        · exact ⟨_, stage?_place_self _ _ _, rfl⟩
      · exact ⟨_, stage?_place_self _ _ _, rfl⟩

/-- Nobody who waits is overtaken, and whenever a turn is over everybody comes nearer. -/
theorem ahead_of_change {keeper next : Keeper} {event : Event} {reply : Reply} {call : Nat}
    (orderly : Orderly keeper) (change : Change keeper event next reply)
    (waits : call ∈ keeper.gate.line) (still : call ∈ next.gate.line) :
    next.gate.ahead call ≤ keeper.gate.ahead call ∧
      (next.gate.holder? ≠ keeper.gate.holder? →
        next.gate.ahead call < keeper.gate.ahead call) := by
  obtain ⟨first, held⟩ := Turnstile.exists_holder waits
  rw [held]
  rcases gate_of_change change with same | entered | ⟨left, -⟩
  · rw [same]
    exact ⟨Nat.le_refl _, fun passed => absurd held passed⟩
  · rw [entered, Turnstile.ahead_enter waits]
    exact ⟨Nat.le_refl _, fun passed => absurd (Turnstile.holder?_enter_of_some held _) passed⟩
  · rw [left] at still ⊢
    have differs : event.call ≠ call := by
      rintro rfl
      exact (orderly.once.mem_erase_iff.mp still).1 rfl
    refine ⟨Turnstile.ahead_leave_le differs, fun passed => ?_⟩
    have own : event.call = first := by
      by_contra other
      exact passed (Turnstile.holder?_leave_of_ne held other)
    subst own
    exact Nat.lt_of_succ_le (Nat.le_of_eq (Turnstile.ahead_leave_first held differs))

theorem nearer_while_waiting (life : Life window) {call n k : Nat} (le : n ≤ k)
    (waits : ∀ j, n ≤ j → call ∈ (life.before j).gate.line) :
    (life.before k).gate.ahead call ≤ (life.before n).gate.ahead call ∧
      ((life.before k).gate.holder? ≠ (life.before n).gate.holder? →
        (life.before k).gate.ahead call < (life.before n).gate.ahead call) := by
  induction k, le using Nat.le_induction with
  | base => exact ⟨Nat.le_refl _, fun passed => absurd rfl passed⟩
  | succ k le ih =>
      have step := ahead_of_change (consistent_before life k).toOrderly (change_at life k)
        (waits k le) (waits (k + 1) (Nat.le_succ_of_le le))
      refine ⟨Nat.le_trans step.1 ih.1, fun passed => ?_⟩
      by_cases same : (life.before (k + 1)).gate.holder? = (life.before k).gate.holder?
      · exact Nat.lt_of_le_of_lt step.1 (ih.2 (same ▸ passed))
      · exact Nat.lt_of_lt_of_le (step.2 same) ih.1

theorem isInLine_of_moves {stage after : Stage} {event : Event} {reply : Reply}
    (moves : Moves stage event reply (some after)) (waits : stage.isInLine = true) :
    after.isInLine = true := by
  cases moves with
  | refused => exact waits
  | missed => cases waits
  | _ => rfl

theorem in_line_while_there (life : Life window) {call n k : Nat} (le : n ≤ k)
    (waits : call ∈ (life.before n).gate.line)
    (there : ∀ j, n ≤ j → (life.before j).stage? call ≠ none) :
    call ∈ (life.before k).gate.line := by
  induction k, le using Nat.le_induction with
  | base => exact waits
  | succ k le ih =>
      obtain ⟨stage, found, stands⟩ := ((consistent_before life k).mem_line_iff call).mp ih
      obtain ⟨after, afterFound⟩ :=
        Option.ne_none_iff_exists'.mp (there (k + 1) (Nat.le_succ_of_le le))
      refine ((consistent_before life (k + 1)).mem_line_iff call).mpr ⟨after, afterFound, ?_⟩
      rcases moves_or_stays (change_at life k) found afterFound with ⟨_, moves⟩ | rfl
      · exact isInLine_of_moves moves stands
      · exact stands

/-- Whoever waits comes to its turn or ends, if every turn comes to an end. -/
theorem turn_comes (life : Life window)
    (turns_end : ∀ n call, (life.before n).gate.holder? = some call →
      ∃ k, n ≤ k ∧ (life.before k).gate.holder? ≠ some call)
    {call n : Nat} (waits : call ∈ (life.before n).gate.line) :
    ∃ k, n ≤ k ∧ ((life.before k).gate.holder? = some call ∨
      (life.before k).stage? call = none) := by
  by_cases gone : ∃ k, n ≤ k ∧ (life.before k).stage? call = none
  · obtain ⟨k, le, absent⟩ := gone
    exact ⟨k, le, .inr absent⟩
  push Not at gone
  have stays := fun k (le : n ≤ k) => in_line_while_there life le waits gone
  clear gone
  -- The induction is on the number of those ahead, which falls whenever a turn is over.
  generalize count : (life.before n).gate.ahead call = ahead
  induction ahead using Nat.strong_induction_on generalizing n with
  | _ ahead ih =>
      obtain ⟨first, held⟩ := Turnstile.exists_holder waits
      by_cases own : first = call
      · exact ⟨n, Nat.le_refl n, .inl (own ▸ held)⟩
      · obtain ⟨m, le, passed⟩ := turns_end n first held
        have nearer := (nearer_while_waiting life le stays).2 (held ▸ passed)
        obtain ⟨k, later, comes⟩ := ih _ (count ▸ nearer) (stays m le)
          (fun k later => stays k (Nat.le_trans le later)) rfl
        exact ⟨k, Nat.le_trans le later, comes⟩

/-! ## The discipline -/

theorem state_of_idle {keeper : Keeper} (idle : keeper.phase = .idle) (now : Instant) :
    (keeper.current = none → keeper.state now = .unauthenticated) ∧
      ∀ held, keeper.current = some held → keeper.state now =
        if keeper.window.needsRefresh held.credential now then .nearingExpiry else .valid := by
  unfold state told
  rw [idle]
  constructor
  · intro absent
    rw [absent]
  · intro held present
    rw [present]

theorem unpublished_of_end {keeper next : Keeper} {event : Event} {reply : Reply} {call : Nat}
    (change : Change keeper event next reply) (ends : event = .drop call ∨ event = .leave call) :
    next.completed = keeper.completed ∧ next.lastFailure = keeper.lastFailure := by
  cases change with
  | sufficed => rcases ends with impossible | impossible <;> cases impossible
  | kept => rcases ends with impossible | impossible <;> cases impossible
  | failed => rcases ends with impossible | impossible <;> cases impossible
  | installed => rcases ends with impossible | impossible <;> cases impossible
  | _ => exact ⟨rfl, rfl⟩

/-- A call that is given up inside resets the phase and keeps its turn until it leaves. -/
theorem reset_of_drop {keeper : Keeper} {call : Nat} {stage : Stage} (orderly : Orderly keeper)
    (phased : Phased keeper) (found : keeper.stage? call = some stage)
    (inside : stage.isInside = true) :
    (keeper.step (.drop call)).1.phase = .idle ∧
      (keeper.step (.drop call)).1.gate.holder? = some call ∧
      (keeper.step (.drop call)).1.stage? call = some (.leaving none) ∧
      (keeper.step (.drop call)).2 = .leave := by
  have first := orderly.first_of_inside call stage found inside
  have step : keeper.step (.drop call) = keeper.abandon call stage := by
    simp only [Keeper.step, found]
  rw [step]
  cases stage with
  | arrived seen => cases inside
  | missed seen => cases inside
  | queued purpose => cases inside
  | leaving result =>
      exact ⟨phased.shown call _ found, first, stage?_place_self _ _ _, rfl⟩
  | _ => exact ⟨rfl, first, stage?_place_self _ _ _, rfl⟩

/-- In every life of a keeper, whichever calls are given up and wherever they stand:

* while the phase is not idle, exactly one call is inside; its transition is under way, and the
  phase is that of the last request that the transition has begun;
* while there is no call, the phase is idle, nobody is in line, and the state is read off the
  current credential, the window and the time;
* a call that is given up leaves the count of transitions and the last failure as they are, then
  and when it leaves;
* if it is given up inside, it resets the phase and still has its turn until it leaves;
* whenever a turn is over, the phase was idle before and is so after, and the turn passes to the
  next in line, who is a call that has not ended and who comes inside by its next event;
* the phase is changed by the call whose turn it is and by nobody else;
* if every turn comes to an end, everybody in line comes to its turn or ends. -/
theorem phase_discipline (life : Life window) :
    (∀ n, (life.before n).phase ≠ .idle →
      ∃ call stage k, (life.before n).gate.holder? = some call ∧
        (life.before n).stage? call = some stage ∧ stage.isRunning = true ∧
        (Opens life call k ∧ k < n ∧ Lasts life call k n ∧
          lastPhase (requests life call k n) = some (life.before n).phase) ∧
        ∀ other otherStage, (life.before n).stage? other = some otherStage →
          otherStage.isInside = true → other = call) ∧
    (∀ n, (∀ call, (life.before n).stage? call = none) →
      (life.before n).phase = .idle ∧ (life.before n).gate.line = [] ∧
        ∀ now, ((life.before n).current = none →
            (life.before n).state now = .unauthenticated) ∧
          ∀ held, (life.before n).current = some held → (life.before n).state now =
            if window.needsRefresh held.credential now then .nearingExpiry else .valid) ∧
    (∀ n call, life.event n = .drop call ∨ life.event n = .leave call →
      (life.before (n + 1)).completed = (life.before n).completed ∧
        (life.before (n + 1)).lastFailure = (life.before n).lastFailure) ∧
    (∀ n call stage, life.event n = .drop call → (life.before n).stage? call = some stage →
      stage.isInside = true → (life.before (n + 1)).phase = .idle ∧
        (life.before (n + 1)).gate.holder? = some call ∧
        (life.before (n + 1)).stage? call = some (.leaving none) ∧ life.reply n = .leave) ∧
    ((∀ n call, (life.before n).gate.holder? = some call →
        (life.before (n + 1)).gate.holder? ≠ some call →
        (life.event n).call = call ∧ (life.before n).phase = .idle ∧
          (life.before (n + 1)).phase = .idle ∧
          (life.before n).gate.line = call :: (life.before (n + 1)).gate.line) ∧
      (∀ n call, (life.before n).gate.holder? = some call →
        ∃ stage, (life.before n).stage? call = some stage ∧ (stage.isInside = true ∨
          ∀ now, ∃ after, ((life.before n).step (.enter call now)).1.stage? call = some after ∧
            after.isInside = true))) ∧
    (∀ n, (life.before (n + 1)).phase ≠ (life.before n).phase →
      (life.before n).gate.holder? = some (life.event n).call ∧
        (life.before (n + 1)).gate.holder? = some (life.event n).call) ∧
    ((∀ n call, (life.before n).gate.holder? = some call →
        ∃ k, n ≤ k ∧ (life.before k).gate.holder? ≠ some call) →
      ∀ n call, call ∈ (life.before n).gate.line →
        ∃ k, n ≤ k ∧ ((life.before k).gate.holder? = some call ∨
          (life.before k).stage? call = none)) := by
  refine ⟨?_, ?_, ?_, ?_, ⟨?_, ?_⟩, ?_, ?_⟩
  · intro n begun
    have orderly := (consistent_before life n).toOrderly
    obtain ⟨call, stage, found, renewing⟩ := (phased_before life n).busy begun
    have inside := isInside_of_renewing renewing
    have running := isRunning_of_renewing renewing
    obtain ⟨k, opens, early, lasts, asked⟩ := transition_of_running life found running
    exact ⟨call, stage, k, orderly.first_of_inside call stage found inside, found, running,
      ⟨opens, early, lasts, asked renewing⟩,
      fun other otherStage also otherInside => orderly.inside_unique found inside also otherInside⟩
  · intro n quiet
    have idle : (life.before n).phase = .idle := by
      by_contra begun
      obtain ⟨call, stage, found, _⟩ := (phased_before life n).busy begun
      cases (quiet call).symm.trans found
    have empty : (life.before n).gate.line = [] := by
      refine List.eq_nil_iff_forall_not_mem.mpr fun call => ?_
      exact (consistent_before life n).not_mem_of_absent (quiet call)
    refine ⟨idle, empty, fun now => ?_⟩
    have shown := state_of_idle idle now
    rwa [window_before life n] at shown
  · intro n call ends
    exact unpublished_of_end (change_at life n) ends
  · intro n call stage dropped found inside
    rw [Run.reply, Run.before_succ, dropped]
    exact reset_of_drop (consistent_before life n).toOrderly (phased_before life n) found inside
  · intro n call first passed
    obtain ⟨own, before, after, left⟩ := turn_passes (consistent_before life n).toOrderly
      (phased_before life n) (change_at life n) first passed
    rw [left]
    exact ⟨own, before, after, Turnstile.line_of_leave first⟩
  · intro n call first
    have member := Turnstile.mem_line_of_holder? first
    obtain ⟨stage, found, stands⟩ := ((consistent_before life n).mem_line_iff call).mp member
    refine ⟨stage, found, ?_⟩
    cases stage with
    | arrived seen => cases stands
    | missed seen => cases stands
    | queued purpose => exact .inr fun now => inside_at_turn found first now
    | _ => exact .inl rfl
  · intro n changed
    have orderly := (consistent_before life n).toOrderly
    have first := first_of_phase_change orderly (change_at life n) changed
    refine ⟨first, ?_⟩
    by_contra passed
    obtain ⟨_, before, after, _⟩ := turn_passes orderly (phased_before life n) (change_at life n)
      first passed
    exact changed (after.trans before.symm)
  · intro turns_end n call waits
    exact turn_comes life turns_end waits

end Steward.Keeper
