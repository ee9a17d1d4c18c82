import Steward.Credential
/-!
# The refresh window

A credential is renewed once less of its validity remains than its window, not only after it has
expired.  The window is fixed, or derived from the length of the validity.
-/

set_option autoImplicit false

namespace Steward

inductive RefreshWindow where
  | fixed (length : Duration)
  /-- The lifetime less a margin, raised to the floor and then cut at the ceiling. -/
  | derived (margin floor ceiling : Duration)
  deriving DecidableEq

namespace RefreshWindow

instance : Inhabited RefreshWindow :=
  ⟨.derived (.ofSeconds 60) (.ofSeconds 60) (.ofSeconds 240)⟩

def length : RefreshWindow → Duration → Duration
  | .fixed length, _ => length
  | .derived margin floor ceiling, lifetime =>
    Duration.shorter (Duration.longer (lifetime.monus margin) floor) ceiling

def needsRefresh (window : RefreshWindow) (credential : Credential) (now : Instant) : Bool :=
  credential.remaining now < window.length credential.lifetime

end RefreshWindow

end Steward
