import Steward.Config.Load
import Steward.Proofs.Keeper.Provenance
/-!
# Whether expired credentials are renewed

A credential is renewed once less of its validity remains than its window.  Of an expired one
nothing remains, so it is renewed exactly if there is a window at all.  Settings that are accepted
may leave none: a fixed window of zero seconds, or a floor of zero for credentials that are no
longer valid than the margin, or a ceiling of zero.  There a caller is given the expired credential
at once.
-/

set_option autoImplicit false

namespace Steward

theorem Duration.nanos_ofSeconds_eq_zero_iff {seconds : Nat} :
    (ofSeconds seconds).nanos = 0 ↔ seconds = 0 := by
  simp only [ofSeconds, nanos_clamped, ceiling]
  omega

/-- The settings leave `credential` no time in which it counts as nearing its expiry. -/
inductive RefreshConfig.NoWindow (refresh : RefreshConfig) (credential : Credential) : Prop where
  | fixed (zero : refresh.fixedWindowSecs = some 0)
  | cut (derived : refresh.fixedWindowSecs = none) (zero : refresh.ceilingSecs = 0)
  | short (derived : refresh.fixedWindowSecs = none) (zero : refresh.floorSecs = 0)
      (short : credential.expiresAt.toNat - credential.issuedAt.toNat ≤ 1000 * refresh.marginSecs)

namespace RefreshWindow

variable {window : RefreshWindow} {credential : Credential} {now : Instant}

theorem remaining_of_expired (expired : credential.isExpired now = true) :
    (credential.remaining now).nanos = 0 := by
  have past : credential.expiresAt.toNat ≤ now.toNat := by
    simpa [Credential.isExpired, UInt64.le_iff_toNat_le] using expired
  simp [Credential.remaining, Duration.ofMillis, Nat.sub_eq_zero_of_le past]

theorem needsRefresh_iff_of_expired (expired : credential.isExpired now = true) :
    window.needsRefresh credential now = true ↔ (window.length credential.lifetime).nanos ≠ 0 := by
  rw [needsRefresh, decide_eq_true_iff, Duration.lt_iff, remaining_of_expired expired,
    Nat.pos_iff_ne_zero]

end RefreshWindow

namespace RefreshConfig

variable {refresh : RefreshConfig} {credential : Credential} {now : Instant}

/-- The lifetime of a credential does not reach the longest duration, so comparing it with the
margin is comparing milliseconds. -/
theorem lifetime_monus_eq_zero_iff {seconds : Nat} :
    (credential.lifetime.monus (.ofSeconds seconds)).nanos = 0 ↔
      credential.expiresAt.toNat - credential.issuedAt.toNat ≤ 1000 * seconds := by
  have bound := credential.expiresAt.toNat_lt
  simp only [Credential.lifetime, Duration.nanos_monus, Duration.ofMillis, Duration.ofSeconds,
    Duration.nanos_clamped, Duration.ceiling]
  omega

theorem length_eq_zero_iff :
    (refresh.window.length credential.lifetime).nanos = 0 ↔ refresh.NoWindow credential := by
  cases set : refresh.fixedWindowSecs with
  | some seconds =>
      have length : refresh.window.length credential.lifetime = .ofSeconds seconds := by
        simp only [window, set, RefreshWindow.length]
      rw [length, Duration.nanos_ofSeconds_eq_zero_iff]
      constructor
      · rintro rfl
        exact .fixed set
      · rintro (zero | derived | derived)
        · cases set.symm.trans zero
          rfl
        · cases set.symm.trans derived
        · cases set.symm.trans derived
  | none =>
      have length : (refresh.window.length credential.lifetime).nanos =
          min (max (credential.lifetime.monus (.ofSeconds refresh.marginSecs)).nanos
            (Duration.ofSeconds refresh.floorSecs).nanos)
            (Duration.ofSeconds refresh.ceilingSecs).nanos := by
        simp only [window, set, RefreshWindow.length, Duration.nanos_shorter,
          Duration.nanos_longer]
      rw [length, Nat.min_eq_zero_iff, Nat.max_eq_zero_iff, lifetime_monus_eq_zero_iff,
        Duration.nanos_ofSeconds_eq_zero_iff, Duration.nanos_ofSeconds_eq_zero_iff]
      constructor
      · rintro (⟨short, floor⟩ | ceiling)
        · exact .short set floor short
        · exact .cut set ceiling
      · rintro (fixed | ⟨-, ceiling⟩ | ⟨-, floor, short⟩)
        · cases set.symm.trans fixed
        · exact .inr ceiling
        · exact .inl ⟨short, floor⟩

theorem needsRefresh_iff_of_expired (expired : credential.isExpired now = true) :
    refresh.window.needsRefresh credential now = true ↔ ¬ refresh.NoWindow credential := by
  rw [RefreshWindow.needsRefresh_iff_of_expired expired, Ne, length_eq_zero_iff]

/-- Whatever the credential, its renewal is due once it has expired. -/
def Renews (refresh : RefreshConfig) : Prop :=
  ∀ (credential : Credential) (now : Instant), credential.isExpired now = true →
    refresh.window.needsRefresh credential now = true

def stillborn : Credential := .issue "" "" "" 0 .zero

/-- The credential that is valid for no time tells whether there is a window for all. -/
theorem renews_iff (ordered : refresh.floorSecs ≤ refresh.ceilingSecs) :
    refresh.Renews ↔ refresh.fixedWindowSecs ≠ some 0 ∧
      (refresh.fixedWindowSecs = none → 0 < refresh.floorSecs) := by
  constructor
  · intro renews
    have window := (needsRefresh_iff_of_expired rfl).mp (renews stillborn 0 rfl)
    refine ⟨fun zero => window (.fixed zero), fun derived => Nat.pos_of_ne_zero fun zero => ?_⟩
    exact window (.short derived zero (Nat.zero_le _))
  · rintro ⟨positive, floor⟩ credential now expired
    refine (needsRefresh_iff_of_expired expired).mpr ?_
    rintro (zero | ⟨derived, ceiling⟩ | ⟨derived, zero, -⟩)
    · exact positive zero
    · have := floor derived
      omega
    · have := floor derived
      omega

end RefreshConfig

/-- A caller that has just come is given an expired credential at once exactly if it is the current
one and there is no window for it. -/
theorem Keeper.looked_iff_of_expired {refresh : RefreshConfig} (life : Life refresh.window)
    {n call seen : Nat} {now : Instant} {held : Held} (looks : life.event n = .look call now)
    (stage : (life.before n).stage? call = some (.arrived seen))
    (expired : held.credential.isExpired now = true) :
    life.reply n = .finished (.ok held) ↔
      (life.before n).current = some held ∧ refresh.NoWindow held.credential := by
  have reply : life.reply n = .finished (.ok held) ↔ (life.before n).usable now = some held := by
    simp only [Run.reply, looks, step, stage]
    cases (life.before n).usable now <;> simp
  rw [reply, usable, Option.filter_eq_some_iff, window_before, Bool.not_eq_true',
    ← Bool.not_eq_true, RefreshConfig.needsRefresh_iff_of_expired expired, not_not]

/-- With settings that are accepted:

* the renewal of an expired credential is due exactly unless the settings leave no window for it;
* the renewal of every expired credential is due exactly if the fixed window is not zero and,
  without a fixed window, the floor is not zero;
* a caller that has just come is given an expired credential at once exactly if it is the current
  one and there is no window for it. -/
theorem Config.renewal_iff_window (config : Config) (accepted : config.validate = .ok ()) :
    (∀ (credential : Credential) (now : Instant), credential.isExpired now = true →
      (config.refresh.window.needsRefresh credential now = true ↔
        ¬ config.refresh.NoWindow credential)) ∧
    (config.refresh.Renews ↔ config.refresh.fixedWindowSecs ≠ some 0 ∧
      (config.refresh.fixedWindowSecs = none → 0 < config.refresh.floorSecs)) ∧
    ∀ (life : Keeper.Life config.refresh.window) (n call seen : Nat) (now : Instant) (held : Held),
      life.event n = .look call now → (life.before n).stage? call = some (.arrived seen) →
        held.credential.isExpired now = true →
          (life.reply n = .finished (.ok held) ↔
            (life.before n).current = some held ∧ config.refresh.NoWindow held.credential) :=
  ⟨fun _ _ => RefreshConfig.needsRefresh_iff_of_expired,
    RefreshConfig.renews_iff (floor_le_ceiling_of_validate accepted),
    fun life _ _ _ _ _ => Keeper.looked_iff_of_expired life⟩

namespace Config

def windowless : Config where
  remote := ⟨"https://api.example.com", none, 30, "web"⟩
  account := ⟨"alice", none, "SCOPE_APP_WEB", false, .conceal "", none, "tenant-secrets.json"⟩
  startup := ⟨1, 300⟩
  refresh := ⟨some 0, 60, 60, 240, 30⟩
  scheduler := ⟨4, 120⟩
  polling := ⟨60, 300, 3600, 3600, 50⟩
  strategy := none
  health := none

theorem validate_windowless : windowless.validate = .ok () := by decide

def calledLate : Keeper.Life windowless.refresh.window :=
  .ofList (Keeper.loggedIn ++ [.arrive 2, .look 2 700000]) (.leave 0)

/-- The second call is given the expired credential. -/
theorem renewal_iff_window_calledLate :
    windowless.validate = .ok () ∧
    windowless.refresh.window.needsRefresh Keeper.tenMinutes 700000 = false ∧
    ¬ windowless.refresh.Renews ∧
    calledLate.reply 11 = .finished (.ok ⟨1, Keeper.tenMinutes⟩) := by
  obtain ⟨due, renews, looked⟩ := renewal_iff_window windowless validate_windowless
  refine ⟨validate_windowless, ?_, fun always => (renews.mp always).1 rfl, ?_⟩
  · rw [← Bool.not_eq_true, due Keeper.tenMinutes 700000 rfl, not_not]
    exact .fixed rfl
  · exact (looked calledLate 11 2 1 700000 ⟨1, Keeper.tenMinutes⟩ rfl rfl rfl).mpr
      ⟨rfl, .fixed rfl⟩

theorem not_always_renewed :
    ¬ ∀ config : Config, config.validate = .ok () → config.refresh.Renews := by
  intro always
  have renewed := always windowless validate_windowless Keeper.tenMinutes 700000 rfl
  exact (RefreshConfig.needsRefresh_iff_of_expired rfl).mp renewed (.fixed rfl)

end Config

end Steward
