import Mathlib.Algebra.Group.Nat.Defs
import Steward.Credential.Token
/-!
# When granted credentials expire

A grant is valid for so many seconds from the time of the answer.  The milliseconds are counted
modulo 2^64 before they are added, and only the sum stops at the latest instant.  So the expiry is
the exact one, cut at the latest instant, for every validity that does not pass the modulus, and
never earlier than the time of issue.
-/

set_option autoImplicit false

namespace Steward

namespace Duration

theorem millis_ofSeconds {seconds : Nat} (bound : seconds < 2 ^ 64) :
    (ofSeconds seconds).millis = 1000 * seconds := by
  simp only [millis, ofSeconds, nanos_clamped, ceiling]
  omega

end Duration

namespace Credential

theorem toNat_expiresAt_issue (access refresh scope : String) (issuedAt : Instant)
    (lifetime : Duration) :
    (issue access refresh scope issuedAt lifetime).expiresAt.toNat =
      min (2 ^ 64 - 1) (issuedAt.toNat + lifetime.millis % 2 ^ 64) := by
  have fits : min (issuedAt.toNat + lifetime.millis % UInt64.size) Instant.latest < 2 ^ 64 := by
    simp only [Instant.latest]
    omega
  rw [issue, UInt64.toNat_ofNat_of_lt' fits, Nat.min_comm]
  rfl

end Credential

namespace TokenGrant

variable (grant : TokenGrant) (scope : String) (now : Instant)

/-- Seconds count a thousand milliseconds each, which wrap around before they are added. -/
theorem toNat_expiresAt_credential :
    (grant.credential scope now).expiresAt.toNat =
      min (2 ^ 64 - 1) (now.toNat + 1000 * grant.expiresIn.toNat % 2 ^ 64) := by
  rw [credential, Credential.toNat_expiresAt_issue,
    Duration.millis_ofSeconds grant.expiresIn.toNat_lt]

/-- The milliseconds of validity do not pass the modulus, or what is left of them still reaches the
latest instant. -/
def Representable : Prop :=
  1000 * grant.expiresIn.toNat < 2 ^ 64 ∨
    2 ^ 64 - 1 ≤ now.toNat + 1000 * grant.expiresIn.toNat % 2 ^ 64

theorem expiresAt_exact_iff :
    (grant.credential scope now).expiresAt.toNat =
      min (2 ^ 64 - 1) (now.toNat + 1000 * grant.expiresIn.toNat) ↔
        grant.Representable now := by
  rw [toNat_expiresAt_credential, Representable]
  omega

theorem issuedAt_le_expiresAt : now ≤ (grant.credential scope now).expiresAt := by
  have bound := now.toNat_lt
  rw [UInt64.le_iff_toNat_le, toNat_expiresAt_credential]
  omega

/-- Of two grants of which the longer one does not wrap around, it expires no earlier. -/
theorem expiresAt_mono {other : TokenGrant} (le : other.expiresIn ≤ grant.expiresIn)
    (unwrapped : 1000 * grant.expiresIn.toNat < 2 ^ 64) :
    (other.credential scope now).expiresAt ≤ (grant.credential scope now).expiresAt := by
  rw [UInt64.le_iff_toNat_le] at le ⊢
  have shorter : 1000 * other.expiresIn.toNat < 2 ^ 64 := by omega
  rw [toNat_expiresAt_credential, toNat_expiresAt_credential, Nat.mod_eq_of_lt unwrapped,
    Nat.mod_eq_of_lt shorter]
  omega

/-- A credential is issued at the time of the answer.  It expires after a thousand milliseconds for
each second of the grant, counted modulo 2^64, but no later than at the latest instant and never
before it is issued.  This is what exact arithmetic gives precisely if the grant is representable,
and among grants that do not wrap around a longer one expires no earlier. -/
theorem expiry_exact_iff_representable :
    (grant.credential scope now).issuedAt = now ∧
    (grant.credential scope now).expiresAt.toNat =
      min (2 ^ 64 - 1) (now.toNat + 1000 * grant.expiresIn.toNat % 2 ^ 64) ∧
    ((grant.credential scope now).expiresAt.toNat =
      min (2 ^ 64 - 1) (now.toNat + 1000 * grant.expiresIn.toNat) ↔ grant.Representable now) ∧
    now ≤ (grant.credential scope now).expiresAt ∧
    ∀ other : TokenGrant, other.expiresIn ≤ grant.expiresIn →
      1000 * grant.expiresIn.toNat < 2 ^ 64 →
        (other.credential scope now).expiresAt ≤ (grant.credential scope now).expiresAt :=
  ⟨rfl, toNat_expiresAt_credential grant scope now, expiresAt_exact_iff grant scope now,
    issuedAt_le_expiresAt grant scope now, fun _ => expiresAt_mono grant scope now⟩

def wrapping : TokenGrant := ⟨"at", "rt", 18446744073709552, none⟩

theorem not_always_exact :
    ¬ ∀ (grant : TokenGrant) (scope : String) (now : Instant),
      (grant.credential scope now).expiresAt.toNat =
        min (2 ^ 64 - 1) (now.toNat + 1000 * grant.expiresIn.toNat) := by
  intro always
  have exact := (expiresAt_exact_iff wrapping "SCOPE_APP_WEB" 1735500000000).mp
    (always wrapping "SCOPE_APP_WEB" 1735500000000)
  revert exact
  simp [Representable, wrapping]

end TokenGrant

end Steward
