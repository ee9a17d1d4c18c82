import Steward.Config.Load
import Steward.Duties
/-!
# Settings that are accepted

Settings are accepted exactly if they pass every check, and of those that they do not pass the
first one is reported.  With accepted settings no duty is done without end or given no time, and the
refresh window never leaves its bounds.
-/

set_option autoImplicit false

namespace Steward

namespace Duration

theorem zero_lt_ofSeconds {seconds : Nat} (positive : 0 < seconds) : zero < ofSeconds seconds := by
  simp only [lt_iff, zero, ofSeconds, nanos_clamped, ceiling]
  omega

theorem ofSeconds_le_ofSeconds {shorter longer : Nat} (order : shorter ≤ longer) :
    ofSeconds shorter ≤ ofSeconds longer := by
  simp only [le_iff, ofSeconds, nanos_clamped]
  omega

end Duration

namespace Config

variable {config : Config}

/-- The check complains of this field if there is this fault, and is passed otherwise. -/
structure Guards (check : Check) (field : String) (fault : Prop) : Prop where
  complains : fault → ∃ complaint, check = .error (.configuration (field ++ complaint))
  passes : ¬ fault → check = .ok ()

theorem guards_requireHttp {field url : String} :
    Guards (requireHttp field url) field (hasHttpScheme url = false) := by
  unfold requireHttp
  constructor
  · intro unusable
    exact ⟨_, by rw [unusable, if_neg Bool.false_ne_true, String.append_assoc]⟩
  · intro usable
    exact if_pos (Bool.not_eq_false _ |>.mp usable)

theorem guards_requirePositive {field : String} {value : Nat} :
    Guards (requirePositive field value) field (value = 0) := by
  unfold requirePositive
  constructor
  · intro zero
    exact ⟨_, if_pos zero⟩
  · intro positive
    exact if_neg positive

theorem guards_requireName {username : String} :
    Guards (requireName username) "account.username" (Text.isBlankText username = true) := by
  unfold requireName
  constructor
  · intro blank
    exact ⟨" must not be empty", if_pos blank⟩
  · intro named
    exact if_neg named

theorem guards_requireOrder {floor ceiling : Nat} :
    Guards (requireOrder floor ceiling) "refresh.floor_secs" (ceiling < floor) := by
  have split : "refresh.floor_secs (" = "refresh.floor_secs" ++ " (" := by decide
  unfold requireOrder
  constructor
  · intro crossed
    simp only [if_pos crossed, split, String.append_assoc]
    exact ⟨_, rfl⟩
  · intro ordered
    exact if_neg ordered

theorem Guards.eq_ok_iff {check : Check} {field : String} {fault : Prop}
    (guards : Guards check field fault) : check = .ok () ↔ ¬ fault := by
  refine ⟨fun passed there => ?_, guards.passes⟩
  obtain ⟨complaint, complains⟩ := guards.complains there
  cases passed.symm.trans complains

theorem requireHttp_eq_ok_iff {field url : String} :
    requireHttp field url = .ok () ↔ hasHttpScheme url = true := by
  rw [guards_requireHttp.eq_ok_iff, Bool.not_eq_false]

theorem requirePositive_eq_ok_iff {field : String} {value : Nat} :
    requirePositive field value = .ok () ↔ 0 < value := by
  rw [guards_requirePositive.eq_ok_iff, Nat.pos_iff_ne_zero]

theorem requireName_eq_ok_iff {username : String} :
    requireName username = .ok () ↔ Text.isBlankText username = false := by
  rw [guards_requireName.eq_ok_iff, Bool.not_eq_true]

structure Sound (config : Config) : Prop where
  baseUrl : hasHttpScheme config.remote.baseUrl = true
  tokenUrl : ∀ url, config.remote.tokenUrl = some url → hasHttpScheme url = true
  remoteTimeout : 0 < config.remote.timeoutSecs
  username : Text.isBlankText config.account.username = false
  refreshInterval : 0 < config.refresh.checkIntervalSecs
  bounds : config.refresh.floorSecs ≤ config.refresh.ceilingSecs
  workers : 0 < config.scheduler.workers
  taskTimeout : 0 < config.scheduler.taskTimeoutSecs
  balanceInterval : 0 < config.polling.balanceIntervalSecs
  transactionsInterval : 0 < config.polling.transactionsIntervalSecs
  pageSize : 0 < config.polling.pageSize
  strategyInterval : ∀ strategy, config.strategy = some strategy → 0 < strategy.checkIntervalSecs
  connections : ∀ health, config.health = some health → 0 < health.maxConnections

theorem forall_mem_of_optional {α : Type} {setting : Option α} {check : α → Check}
    {P : Check → Prop} :
    (∀ outcome ∈ (setting.map check).toList, P outcome) ↔
      ∀ value, setting = some value → P (check value) := by
  cases setting with
  | none => simp
  | some value => simp

theorem validate_eq_ok_iff : config.validate = .ok () ↔ config.Sound := by
  rw [validate, firstFault_eq_ok_iff]
  simp only [checks, List.forall_mem_append, List.forall_mem_cons, forall_mem_of_optional,
    List.not_mem_nil, false_imp_iff, implies_true, and_true, requireHttp_eq_ok_iff,
    requirePositive_eq_ok_iff, requireName_eq_ok_iff, requireOrder_eq_ok_iff]
  constructor
  · rintro ⟨⟨⟨⟨baseUrl, tokenUrl⟩, remoteTimeout, username, refreshInterval, bounds, workers,
      taskTimeout, balanceInterval, transactionsInterval, pageSize⟩, strategyInterval⟩, connections⟩
    constructor <;> assumption
  · intro sound
    exact ⟨⟨⟨⟨sound.baseUrl, sound.tokenUrl⟩, sound.remoteTimeout, sound.username,
      sound.refreshInterval, sound.bounds, sound.workers, sound.taskTimeout,
      sound.balanceInterval, sound.transactionsInterval, sound.pageSize⟩,
      sound.strategyInterval⟩, sound.connections⟩

/-! ## The fault that is reported -/

/-- What is reported is the first check that is not passed. -/
theorem firstFault_eq_error_iff {checks : List Check} {error : SetupError} :
    firstFault checks = .error error ↔ ∃ passed rest, checks = passed ++ .error error :: rest ∧
      ∀ check ∈ passed, check = .ok () := by
  induction checks with
  | nil => simp [firstFault]
  | cons check checks ih =>
      cases check with
      | error other =>
          simp only [firstFault, Except.error.injEq]
          constructor
          · rintro rfl
            exact ⟨[], checks, rfl, fun _ none => absurd none List.not_mem_nil⟩
          · rintro ⟨passed, rest, split, allPassed⟩
            cases passed with
            | nil =>
                cases split
                rfl
            | cons first passed =>
                cases split
                cases allPassed _ List.mem_cons_self
      | ok =>
          rw [firstFault, ih]
          constructor
          · rintro ⟨passed, rest, rfl, allPassed⟩
            exact ⟨.ok () :: passed, rest, rfl, List.forall_mem_cons.mpr ⟨rfl, allPassed⟩⟩
          · rintro ⟨passed, rest, split, allPassed⟩
            cases passed with
            | nil => cases split
            | cons first passed =>
                cases split
                exact ⟨passed, rest, rfl, (List.forall_mem_cons.mp allPassed).2⟩

inductive Faulty (config : Config) : String → Prop where
  | baseUrl (unusable : hasHttpScheme config.remote.baseUrl = false) :
      Faulty config "remote.base_url"
  | tokenUrl {url : String} (set : config.remote.tokenUrl = some url)
      (unusable : hasHttpScheme url = false) : Faulty config "remote.token_url"
  | remoteTimeout (zero : config.remote.timeoutSecs = 0) : Faulty config "remote.timeout_secs"
  | username (blank : Text.isBlankText config.account.username = true) :
      Faulty config "account.username"
  | refreshInterval (zero : config.refresh.checkIntervalSecs = 0) :
      Faulty config "refresh.check_interval_secs"
  | bounds (crossed : config.refresh.ceilingSecs < config.refresh.floorSecs) :
      Faulty config "refresh.floor_secs"
  | workers (zero : config.scheduler.workers = 0) : Faulty config "scheduler.workers"
  | taskTimeout (zero : config.scheduler.taskTimeoutSecs = 0) :
      Faulty config "scheduler.task_timeout_secs"
  | balanceInterval (zero : config.polling.balanceIntervalSecs = 0) :
      Faulty config "polling.balance_interval_secs"
  | transactionsInterval (zero : config.polling.transactionsIntervalSecs = 0) :
      Faulty config "polling.transactions_interval_secs"
  | pageSize (zero : config.polling.pageSize = 0) : Faulty config "polling.page_size"
  | strategyInterval {strategy : StrategyConfig} (set : config.strategy = some strategy)
      (zero : strategy.checkIntervalSecs = 0) : Faulty config "strategy.check_interval_secs"
  | connections {health : HealthConfig} (set : config.health = some health)
      (zero : health.maxConnections = 0) : Faulty config "health.max_connections"

def Names (config : Config) (check : Check) : Prop :=
  ∀ error, check = .error error →
    ∃ field, config.Faulty field ∧ ∃ complaint, error = .configuration (field ++ complaint)

theorem Guards.names {check : Check} {field : String} {fault : Prop}
    (guards : Guards check field fault) (faulty : fault → config.Faulty field) :
    config.Names check := by
  rintro error rfl
  by_cases there : fault
  · obtain ⟨complaint, complains⟩ := guards.complains there
    exact ⟨field, faulty there, complaint, Except.error.inj complains⟩
  · cases guards.passes there

theorem names_of_mem_checks : ∀ check ∈ config.checks, config.Names check := by
  simp only [checks, List.forall_mem_append, List.forall_mem_cons, forall_mem_of_optional,
    List.not_mem_nil, false_imp_iff, implies_true, and_true]
  exact ⟨⟨⟨⟨guards_requireHttp.names .baseUrl,
      fun _ set => guards_requireHttp.names (.tokenUrl set)⟩,
    guards_requirePositive.names .remoteTimeout, guards_requireName.names .username,
    guards_requirePositive.names .refreshInterval, guards_requireOrder.names .bounds,
    guards_requirePositive.names .workers, guards_requirePositive.names .taskTimeout,
    guards_requirePositive.names .balanceInterval,
    guards_requirePositive.names .transactionsInterval, guards_requirePositive.names .pageSize⟩,
    fun _ set => guards_requirePositive.names (.strategyInterval set)⟩,
    fun _ set => guards_requirePositive.names (.connections set)⟩

theorem complaint_of_faulty {field : String} (faulty : config.Faulty field) :
    ∃ complaint, .error (.configuration (field ++ complaint)) ∈ config.checks := by
  have listed : ∀ {check : Check} {fault : Prop}, Guards check field fault → fault →
      check ∈ config.checks →
      ∃ complaint, .error (.configuration (field ++ complaint)) ∈ config.checks := by
    intro check fault guards there among
    obtain ⟨complaint, rfl⟩ := guards.complains there
    exact ⟨complaint, among⟩
  cases faulty with
  | baseUrl fault => exact listed guards_requireHttp fault (by simp [checks])
  | tokenUrl set fault => exact listed guards_requireHttp fault (by simp [checks, set])
  | username fault => exact listed guards_requireName fault (by simp [checks])
  | bounds fault => exact listed guards_requireOrder fault (by simp [checks])
  | remoteTimeout fault | refreshInterval fault | workers fault | taskTimeout fault
  | balanceInterval fault | transactionsInterval fault | pageSize fault =>
      exact listed guards_requirePositive fault (by simp [checks])
  | strategyInterval set fault | connections set fault =>
      exact listed guards_requirePositive fault (by simp [checks, set])

/-- No duty is done again at once, and none is given no time. -/
theorem Sound.assignments (sound : config.Sound) {assignment : Duties.Assignment}
    (there : assignment ∈ Duties.assignments config) :
    .zero < assignment.timing.interval ∧ .zero < assignment.timing.timeout := by
  have timeout := Duration.zero_lt_ofSeconds sound.taskTimeout
  simp only [Duties.assignments, List.mem_append, List.mem_cons, List.not_mem_nil, or_false,
    Option.mem_toList, Option.map_eq_some_iff] at there
  rcases there with (rfl | rfl | rfl) | ⟨strategy, set, rfl⟩
  · exact ⟨Duration.zero_lt_ofSeconds sound.refreshInterval, timeout⟩
  · exact ⟨Duration.zero_lt_ofSeconds sound.balanceInterval, timeout⟩
  · exact ⟨Duration.zero_lt_ofSeconds sound.transactionsInterval, timeout⟩
  · exact ⟨Duration.zero_lt_ofSeconds (sound.strategyInterval strategy set), timeout⟩

/-- A window that is not fixed stays within its bounds, however long a credential is valid. -/
theorem Sound.window (sound : config.Sound) (derived : config.refresh.fixedWindowSecs = none)
    (lifetime : Duration) :
    .ofSeconds config.refresh.floorSecs ≤ config.refresh.window.length lifetime ∧
      config.refresh.window.length lifetime ≤ .ofSeconds config.refresh.ceilingSecs := by
  have bounds := Duration.ofSeconds_le_ofSeconds sound.bounds
  simp only [RefreshConfig.window, derived, RefreshWindow.length, Duration.le_iff,
    Duration.nanos_shorter, Duration.nanos_longer] at bounds ⊢
  omega

end Config

end Steward
