import Steward.Credential.Store
/-!
# Saving when something goes wrong

A step may fail although the tree allows it, and the process may stop at any moment.  A rename is
done or is not done, and so is a change of the mode.  Only a write may be done in part: the file
then holds the first octets of what was to be written.
-/

set_option autoImplicit false

namespace Steward.Vault

/-- What goes wrong once `done` steps are done: a step fails with a message, or without one the
process stops.  So many octets of a write are in the file then, unless it has not even been opened.
-/
structure Mishap where
  done : Nat
  written : Option Nat
  message : Option String

def Step.leave (files : Files) (now : Int) (written : Option Nat) : Step → Files
  | .write path octets =>
    match written with
    | none => files
    | some count =>
      match files.write path (octets.take count) now with
      | .ok after => after
      | .error _ => files
  | .setMode .. | .rename .. => files

/-- There is no answer if the process stops. -/
def performUnder (now : Int) (files : Files) (steps : List Step) :
    Option Mishap → Files × Option (Except AuthError Unit)
  | none =>
    let (files, result) := performAll now files steps
    (files, some result)
  | some mishap =>
    match performAll now files (steps.take mishap.done) with
    | (files, .error error) => (files, some (.error error))
    | (files, .ok ()) =>
      match steps[mishap.done]?, mishap.message with
      | some step, some message =>
        (step.leave files now mishap.written, some (.error (.io (step.activity ++ message))))
      | some step, none => (step.leave files now mishap.written, none)
      | none, some _ => (files, some (.ok ()))
      | none, none => (files, none)

def replaceUnder (files : Files) (now : Int) (process path : String) (entries : Entries)
    (mishap : Option Mishap) : Files × Option (Except AuthError Unit) :=
  match steps? process path entries with
  | none => (files, some (.error (.io "secret store path has no parent directory")))
  | some steps => performUnder now files steps mishap

/-- Only a file that is created can be struck. -/
def openUnder (files : Files) (now : Int) (process path account : String)
    (mishap : Option Mishap) : Files × Option (Except AuthError Vault) :=
  if files.holds path then
    let (files, result) := openAt files now process path account
    (files, some result)
  else
    match replaceUnder files now process path [] mishap with
    | (files, some (.ok ())) => (files, some (.ok ⟨path, account, []⟩))
    | (files, some (.error error)) => (files, some (.error error))
    | (files, none) => (files, none)

def saveUnder (vault : Vault) (files : Files) (now : Int) (process : String)
    (credential : Credential) (mishap : Option Mishap) :
    Vault × Files × Option (Except AuthError Unit) :=
  let entries := insert vault.entries vault.account credential
  let (files, answer) := replaceUnder files now process vault.path entries mishap
  ({ vault with entries := entries }, files, answer)

theorem replaceUnder_none (files : Files) (now : Int) (process path : String)
    (entries : Entries) :
    replaceUnder files now process path entries none =
      ((replace files now process path entries).1,
        some (replace files now process path entries).2) := by
  rw [replaceUnder, replace]
  cases steps? process path entries <;> rfl

theorem openUnder_none (files : Files) (now : Int) (process path account : String) :
    openUnder files now process path account none =
      ((openAt files now process path account).1,
        some (openAt files now process path account).2) := by
  rw [openUnder]
  split
  · rfl
  · next absent =>
      rw [replaceUnder_none, openAt, if_neg absent]
      cases replace files now process path [] with
      | mk files result => cases result <;> rfl

theorem saveUnder_none (vault : Vault) (files : Files) (now : Int) (process : String)
    (credential : Credential) :
    vault.saveUnder files now process credential none =
      ((vault.save files now process credential).1,
        (vault.save files now process credential).2.1,
        some (vault.save files now process credential).2.2) := by
  rw [saveUnder, replaceUnder_none]
  rfl

end Steward.Vault
