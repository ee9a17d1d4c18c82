import Steward.Proofs.Keeper.Life
/-!
# Requests to the token endpoint

However calls come, wait, are answered and are given up, a keeper has at most one request in flight.
One transition asks for nothing, for a login, for a refresh, or for a login after a refresh that has
failed.  A refresh is asked for the current credential, a login only while there is none, and the
current credential is let go only when its refresh has failed and it cannot be kept.
-/

set_option autoImplicit false

namespace Steward.Keeper

variable {window : RefreshWindow}

inductive Request where
  | login
  | refresh
  deriving DecidableEq, Repr

def Reply.request? : Reply → Option Request
  | .refresh _ => some .refresh
  | .login => some .login
  | _ => none

def Stage.request? : Stage → Option Request
  | .refreshing _ _ => some .refresh
  | .loggingIn => some .login
  | _ => none

/-- A request of `call` has been made and neither answered nor given up. -/
def InFlight (keeper : Keeper) (call : Nat) : Prop :=
  ∃ stage, keeper.stage? call = some stage ∧ stage.request?.isSome = true

theorem isInside_of_request {stage : Stage} (asks : stage.request?.isSome = true) :
    stage.isInside = true := by
  cases stage with
  | refreshing held forced => rfl
  | loggingIn => rfl
  | _ => cases asks

theorem inFlight_unique {keeper : Keeper} (orderly : Orderly keeper) {call other : Nat}
    (asks : InFlight keeper call) (otherAsks : InFlight keeper other) : call = other := by
  obtain ⟨stage, found, asks⟩ := asks
  obtain ⟨otherStage, otherFound, otherAsks⟩ := otherAsks
  exact orderly.inside_unique otherFound (isInside_of_request otherAsks) found
    (isInside_of_request asks)

theorem inFlight_of_request {keeper next : Keeper} {event : Event} {reply : Reply}
    (change : Change keeper event next reply) (asks : reply.request?.isSome = true) :
    InFlight next event.call := by
  cases change with
  | refresh due =>
      rw [due.call_eq]
      exact ⟨_, stage?_place_self _ _ _, rfl⟩
  | login due =>
      rw [due.call_eq]
      exact ⟨_, stage?_place_self _ _ _, rfl⟩
  | discarded => exact ⟨_, stage?_place_self _ _ _, rfl⟩
  | _ => cases asks

theorem inFlight_until {keeper next : Keeper} {event : Event} {reply : Reply} {call : Nat}
    (change : Change keeper event next reply) (asks : InFlight keeper call) :
    InFlight next call ∨ (∃ answer now, event = .answered call answer now) ∨
      event = .drop call := by
  obtain ⟨stage, found, waits⟩ := asks
  by_cases own : event.call = call
  · have moves := moves_of_change change own found
    cases own
    generalize after : next.stage? event.call = ended at moves
    cases moves with
    | refused => exact .inl ⟨stage, after, waits⟩
    | refreshed => exact .inr (.inl ⟨_, _, rfl⟩)
    | kept => exact .inr (.inl ⟨_, _, rfl⟩)
    | discarded => exact .inr (.inl ⟨_, _, rfl⟩)
    | loggedIn => exact .inr (.inl ⟨_, _, rfl⟩)
    | failed => exact .inr (.inl ⟨_, _, rfl⟩)
    | withdrew => exact .inr (.inr rfl)
    | interrupted => exact .inr (.inr rfl)
    | _ => cases waits
  · refine .inl ⟨stage, ?_, waits⟩
    rw [stage?_of_other change own]
    exact found

/-! ## The requests of one transition -/

def issued (call : Nat) (event : Event) (reply : Reply) : List Request :=
  if event.call = call then reply.request?.toList else []

/-- The requests that `call` was told to make by the events from number `i` on and before `n`. -/
def requests (life : Life window) (call i : Nat) : Nat → List Request
  | 0 => []
  | n + 1 =>
    requests life call i n ++ if i ≤ n then issued call (life.event n) (life.reply n) else []

/-- What one transition may ask for. -/
def words : List (List Request) := [[], [.login], [.refresh], [.refresh, .login]]

def Stage.words : Stage → List (List Request)
  | .refreshing _ _ => [[.refresh]]
  | .loggingIn => [[.login], [.refresh, .login]]
  | .saving _ | .installing _ => [[.login], [.refresh], [.refresh, .login]]
  | .leaving _ => Keeper.words
  | _ => [[]]

/-- The call decides by this event to run a transition. -/
def Opens (life : Life window) (call n : Nat) : Prop :=
  (∃ now, life.event n = .enter call now) ∧
    (life.reply n = .load ∨ (life.reply n).request?.isSome = true)

theorem requests_eq_between (life : Life window) (call i n : Nat) :
    requests life call i n = life.between (issued call) i n := by
  induction n with
  | zero => rfl
  | succ n ih => rw [requests, Run.between, ih]

theorem requests_self (life : Life window) (call i : Nat) : requests life call i i = [] := by
  rw [requests_eq_between, Run.between_self]

theorem requests_succ (life : Life window) {call i n : Nat} (le : i ≤ n) :
    requests life call i (n + 1) =
      requests life call i n ++ issued call (life.event n) (life.reply n) := by
  rw [requests, if_pos le]

theorem requests_prefix (life : Life window) (call i : Nat) {n m : Nat} (le : n ≤ m) :
    requests life call i n <+: requests life call i m := by
  induction m, le using Nat.le_induction with
  | base => exact List.prefix_refl _
  | succ m _ ih => exact ih.trans (List.prefix_append _ _)

theorem mem_words_of_stage {stage : Stage} {word : List Request} (asked : word ∈ stage.words) :
    word ∈ words := by
  cases stage <;> simp [Stage.words, words] at asked ⊢ <;> grind

theorem words_of_moves {stage after : Stage} {event : Event} {reply : Reply} {word : List Request}
    (moves : Moves stage event reply (some after)) (asked : word ∈ stage.words) :
    word ++ reply.request?.toList ∈ after.words := by
  cases moves with
  | refused => simpa [Reply.request?] using asked
  | interrupted => simpa [Reply.request?, Stage.words] using mem_words_of_stage asked
  | shared => simp_all [Stage.words, Reply.request?, words]
  | sufficed => simp_all [Stage.words, Reply.request?, words]
  | kept => simp_all [Stage.words, Reply.request?, words]
  | failed => simpa [Reply.request?, Stage.words] using mem_words_of_stage asked
  | installed => simpa [Reply.request?, Stage.words] using mem_words_of_stage asked
  | loggedIn =>
      rcases List.mem_pair.mp asked with rfl | rfl
      · simp [Stage.words, Reply.request?]
      · simp [Stage.words, Reply.request?]
  | _ => simp_all [Stage.words, Reply.request?]

theorem silent_of_ends {stage : Stage} {event : Event} {reply : Reply}
    (moves : Moves stage event reply none) : reply.request? = none := by
  cases moves <;> rfl

theorem words_of_change {keeper next : Keeper} {event : Event} {reply : Reply} {call : Nat}
    (change : Change keeper event next reply) {stage : Stage} {word : List Request}
    (found : keeper.stage? call = some stage) (asked : word ∈ stage.words) :
    word ++ issued call event reply ∈ words ∧
      ∀ after, next.stage? call = some after → word ++ issued call event reply ∈ after.words := by
  by_cases own : event.call = call
  · have moves := moves_of_change change own found
    rw [show issued call event reply = reply.request?.toList from if_pos own]
    cases ended : next.stage? call with
    | none =>
        rw [ended] at moves
        rw [silent_of_ends moves, Option.toList_none, List.append_nil]
        exact ⟨mem_words_of_stage asked, fun after impossible => by cases impossible⟩
    | some last =>
        rw [ended] at moves
        have allowed := words_of_moves moves asked
        refine ⟨mem_words_of_stage allowed, ?_⟩
        intro after same
        cases same
        exact allowed
  · have nothing : issued call event reply = [] := if_neg own
    rw [nothing, List.append_nil]
    refine ⟨mem_words_of_stage asked, ?_⟩
    intro after afterFound
    rw [stage?_of_other change own, found] at afterFound
    cases afterFound
    exact asked

theorem words_while_lasting {life : Life window} {call i n j : Nat} {stage : Stage} (le : i ≤ n)
    (found : (life.before n).stage? call = some stage)
    (asked : requests life call i n ∈ stage.words)
    (upTo : n ≤ j) (lasts : Lasts life call n j) :
    ∃ last, (life.before j).stage? call = some last ∧ requests life call i j ∈ last.words := by
  induction j with
  | zero =>
      cases Nat.le_zero.mp upTo
      exact ⟨stage, found, asked⟩
  | succ j ih =>
      rcases Nat.le_succ_iff.mp upTo with earlier | rfl
      · obtain ⟨last, lastFound, lastAsked⟩ := ih earlier (lasts.shorter (Nat.le_succ j))
        obtain ⟨next, nextFound⟩ := lasts.stage (Nat.lt_succ_of_le earlier) (Nat.le_refl (j + 1))
        refine ⟨next, nextFound, ?_⟩
        rw [requests_succ life (Nat.le_trans le earlier)]
        exact (words_of_change (change_at life j) lastFound lastAsked).2 next nextFound
      · exact ⟨stage, found, asked⟩

theorem requests_mem_words {life : Life window} {call i n j : Nat} {stage : Stage} (le : i ≤ n)
    (found : (life.before n).stage? call = some stage)
    (asked : requests life call i n ∈ stage.words)
    (upTo : n ≤ j) (lasts : Lasts life call n j) : requests life call i (j + 1) ∈ words := by
  obtain ⟨last, lastFound, lastAsked⟩ := words_while_lasting le found asked upTo lasts
  rw [requests_succ life (Nat.le_trans le upTo)]
  exact (words_of_change (change_at life j) lastFound lastAsked).1

theorem stage_of_begins {life : Life window} {call i : Nat} (begins : Begins life call i) :
    (life.reply i).request? = none ∧
      ∃ stage, (life.before (i + 1)).stage? call = some stage ∧ stage.words = [[]] := by
  rcases begins with ⟨event, absent⟩ | ⟨⟨rejected, event⟩, absent⟩
  · rw [Run.reply, Run.before_succ, event, step_arrive absent]
    exact ⟨rfl, _, stage?_place_self _ _ _, rfl⟩
  · rw [Run.reply, Run.before_succ, event, step_reject absent]
    exact ⟨rfl, _, stage?_place_self _ _ _, rfl⟩

theorem requests_at_start {life : Life window} {call i : Nat} (begins : Begins life call i) :
    requests life call i (i + 1) = [] := by
  rw [requests_succ life (Nat.le_refl i), requests_self, issued, (stage_of_begins begins).1]
  simp

theorem requests_mem_stage_words {life : Life window} {call i j : Nat} {stage : Stage}
    (begins : Begins life call i) (after : i < j) (lasts : Lasts life call i j)
    (found : (life.before j).stage? call = some stage) :
    requests life call i j ∈ stage.words := by
  obtain ⟨_, first, firstFound, fresh⟩ := stage_of_begins begins
  have empty : requests life call i (i + 1) ∈ first.words := by
    rw [requests_at_start begins, fresh]
    exact List.mem_singleton_self []
  obtain ⟨last, lastFound, asked⟩ := words_while_lasting (Nat.le_succ i) firstFound empty after
    fun k later => lasts k (Nat.lt_of_succ_lt later)
  cases found.symm.trans lastFound
  exact asked

theorem words_of_call {life : Life window} {call i j : Nat} (begins : Begins life call i)
    (upTo : i ≤ j) (lasts : Lasts life call i j) : requests life call i (j + 1) ∈ words := by
  rcases Nat.lt_or_eq_of_le upTo with later | rfl
  · obtain ⟨stage, found⟩ := lasts.stage later (Nat.le_refl j)
    rw [requests_succ life upTo]
    exact (words_of_change (change_at life j) found
      (requests_mem_stage_words begins later lasts found)).1
  · rw [requests_at_start begins]
    simp [words]

theorem entrance_of_opens {life : Life window} {call n : Nat} (opens : Opens life call n) :
    ∃ now purpose, life.event n = .enter call now ∧
      (life.before n).stage? call = some (.queued purpose) ∧
      (life.before n).gate.holder? = some call ∧ (life.before n).known now purpose = none := by
  obtain ⟨⟨now, event⟩, asks⟩ := opens
  have change := change_at life n
  rw [event] at change
  generalize life.before (n + 1) = next, life.reply n = reply at change asks
  cases change with
  | refused => simp [Reply.request?] at asks
  | waited => simp [Reply.request?] at asks
  | shared => simp [Reply.request?] at asks
  | asked stage first unknown => exact ⟨now, _, event, stage, first, unknown⟩
  | refresh due =>
      cases due with
      | entered stage first unknown => exact ⟨now, _, event, stage, first, unknown⟩
  | login due =>
      cases due with
      | entered stage first unknown => exact ⟨now, _, event, stage, first, unknown⟩

theorem opens_of_entrance {life : Life window} {call n : Nat} {now : Instant} {purpose : Purpose}
    (event : life.event n = .enter call now)
    (waits : (life.before n).stage? call = some (.queued purpose))
    (first : (life.before n).gate.holder? = some call)
    (unknown : (life.before n).known now purpose = none) : Opens life call n := by
  refine ⟨⟨now, event⟩, ?_⟩
  rw [Run.reply, event, step_enter_unknown waits first unknown, beginTransition]
  split
  · unfold renew
    split
    · exact .inr rfl
    · exact .inr rfl
  · exact .inl rfl

theorem words_of_transition {life : Life window} {call n j : Nat} (opens : Opens life call n)
    (upTo : n ≤ j) (lasts : Lasts life call n j) : requests life call n (j + 1) ∈ words := by
  obtain ⟨_, _, _, found, _⟩ := entrance_of_opens opens
  refine requests_mem_words (Nat.le_refl n) found ?_ upTo lasts
  rw [requests_self]
  exact List.mem_singleton_self []

/-! ## What requests are made for -/

theorem current_of_refresh {life : Life window} {n : Nat} {held : Held}
    (asked : life.reply n = .refresh held) : (life.before n).current = some held := by
  have change := change_at life n
  generalize life.before (n + 1) = next, life.event n = event, life.reply n = reply at change asked
  cases change <;> cases asked
  assumption

/-- The refresh of `held` has just failed, and `held` cannot be kept: the failure will not pass, or
the caller has to have another one, or it has expired. -/
def Spoils (life : Life window) (n : Nat) (held : Held) : Prop :=
  ∃ call error now forced,
    life.event n = .answered call (.error error) now ∧
    (life.before n).stage? call = some (.refreshing held forced) ∧
    ((error.classification ≠ .transient ∧ error.classification ≠ .unavailable) ∨ forced = true ∨
      held.credential.isExpired now = true)

theorem isRetryable_iff (classification : Classification) :
    classification.isRetryable = true ↔
      classification = .transient ∨ classification = .unavailable := by
  cases classification <;> simp [Classification.isRetryable]

theorem isRetryable_eq_false_iff (classification : Classification) :
    classification.isRetryable = false ↔
      classification ≠ .transient ∧ classification ≠ .unavailable := by
  rw [← Bool.not_eq_true, isRetryable_iff, not_or]

theorem spoils_of_lost {life : Life window} {n : Nat} {held : Held}
    (present : (life.before n).current = some held) (lost : (life.before (n + 1)).current = none) :
    Spoils life n held := by
  have change := change_at life n
  have consistent := consistent_before life n
  unfold Spoils
  generalize life.before (n + 1) = next, life.event n = event, life.reply n = reply at change lost ⊢
  cases change with
  | discarded stage unkept =>
      -- A call that refreshes relies on the current credential being the one it presents.
      have current := (consistent.fits _ _ stage).2
      cases present.symm.trans current
      rw [isRetryable_eq_false_iff] at unkept
      exact ⟨_, _, _, _, rfl, stage, unkept⟩
  | restored => cases lost
  | installed => cases lost
  | _ => cases present.symm.trans lost

/-- In every life of a keeper: a request is in flight from the moment on at which it is made until
it is answered or given up, and at most one is in flight at a time; a transition asks for one of
four words, and so does a call; a refresh is asked for the credential that is current then; there is
none while a login is asked for; and the current credential is let go only when its refresh has
failed and it cannot be kept. -/
theorem request_discipline (life : Life window) :
    ((∀ n, (life.reply n).request?.isSome = true →
        InFlight (life.before (n + 1)) (life.event n).call) ∧
      (∀ n call, InFlight (life.before n) call → InFlight (life.before (n + 1)) call ∨
        (∃ answer now, life.event n = .answered call answer now) ∨ life.event n = .drop call) ∧
      (∀ n call other, InFlight (life.before n) call → InFlight (life.before n) other →
        call = other)) ∧
    ((∀ call n j, Opens life call n → n ≤ j → Lasts life call n j →
        requests life call n (j + 1) ∈ [[], [.login], [.refresh], [.refresh, .login]]) ∧
      (∀ call i j, Begins life call i → i ≤ j → Lasts life call i j →
        requests life call i (j + 1) ∈ [[], [.login], [.refresh], [.refresh, .login]])) ∧
    ((∀ n held, life.reply n = .refresh held → (life.before n).current = some held) ∧
      (∀ n call held forced, (life.before n).stage? call = some (.refreshing held forced) →
        (life.before n).current = some held)) ∧
    (∀ n call, (life.before n).stage? call = some .loggingIn → (life.before n).current = none) ∧
    (∀ n held, (life.before n).current = some held → (life.before (n + 1)).current = none →
      Spoils life n held) := by
  refine ⟨⟨?_, ?_, ?_⟩, ⟨?_, ?_⟩, ⟨?_, ?_⟩, ?_, ?_⟩
  · intro n asks
    exact inFlight_of_request (change_at life n) asks
  · intro n call asks
    exact inFlight_until (change_at life n) asks
  · intro n call other asks otherAsks
    exact inFlight_unique (consistent_before life n).toOrderly asks otherAsks
  · intro call n j opens upTo lasts
    exact words_of_transition opens upTo lasts
  · intro call i j begins upTo lasts
    exact words_of_call begins upTo lasts
  · intro n held asked
    exact current_of_refresh asked
  · intro n call held forced stage
    exact ((consistent_before life n).fits call _ stage).2
  · intro n call stage
    exact ((consistent_before life n).fits call _ stage).2
  · intro n held present lost
    exact spoils_of_lost present lost

end Steward.Keeper
