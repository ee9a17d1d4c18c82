import Steward.Json
/-!
# Secrets

A secret shows as a fixed word.  Only `expose`, and writing it into a document that is meant to
keep it, give the value away.
-/

set_option autoImplicit false

namespace Steward

structure Secret where
  private mk ::
  private value : String
  deriving DecidableEq

namespace Secret

def conceal (value : String) : Secret := ⟨value⟩

def expose (secret : Secret) : String := secret.value

instance : Inhabited Secret := ⟨conceal ""⟩

/-- What is shown in place of every secret. -/
def shown (_ : Secret) : String := "[REDACTED]"

def json (secret : Secret) : Json := Json.ofText secret.expose

@[simp] theorem expose_conceal (value : String) : (conceal value).expose = value := rfl

@[simp] theorem conceal_expose (secret : Secret) : conceal secret.expose = secret := rfl

end Secret

end Steward
