import Steward.Credential
import Steward.Failure
import Steward.Files
import Steward.Json.Printer
import Steward.Json.Reader
/-!
# Keeping credentials in a file

The file holds the last credential of each account as one JSON object.  A store has read the file
once and keeps what it read in memory.  Saving changes the memory first and then replaces the file
as a whole: a temporary file beside it is written, closed to everyone else, and renamed.
-/

set_option autoImplicit false

namespace Steward

namespace Vault

/-- The credentials by account. -/
abbrev Entries := List (String × Credential)

def insert (entries : Entries) (account : String) (credential : Credential) : Entries :=
  (account, credential) :: entries.filter (·.1 != account)

def json (entries : Entries) : Json :=
  .record (entries.map fun (account, credential) => (account, credential.json))

/-- Only an object writes credentials by account.  Of two under one name, the later one counts. -/
def ofJson? (json : Json) : Option Entries :=
  match json with
  | .object _ => do
    (← json.members?).foldlM (fun entries (account, value) => do
      return insert entries account (← Credential.ofJson? value)) []
  | _ => none

/-- The steps by which the file is replaced. -/
inductive Step where
  | write (path : String) (octets : Utf8.Octets)
  | setMode (path : String) (mode : Nat)
  | rename (source target : String)
  deriving DecidableEq

namespace Step

def perform (files : Files) (now : Int) : Step → Except FileError Files
  | .write path octets => files.write path octets now
  | .setMode path mode => files.setMode path mode
  | .rename source target => files.rename source target

def activity : Step → String
  | .write .. => "writing temp secret file: "
  | .setMode .. => "setting secret file permissions: "
  | .rename .. => "renaming temp secret file: "

end Step

def temporaryName (process : String) : String := ".secrets.tmp." ++ process

def steps? (process path : String) (entries : Entries) : Option (List Step) := do
  let temporary ← Files.beside? path (temporaryName process)
  return [.write temporary (Utf8.encode (json entries).indented), .setMode temporary 0o600,
    .rename temporary path]

def performAll (now : Int) : Files → List Step → Files × Except AuthError Unit
  | files, [] => (files, .ok ())
  | files, step :: rest =>
    match step.perform files now with
    | .ok files => performAll now files rest
    | .error error => (files, .error (.io (step.activity ++ error.message)))

def replace (files : Files) (now : Int) (process path : String) (entries : Entries) :
    Files × Except AuthError Unit :=
  match steps? process path entries with
  | none => (files, .error (.io "secret store path has no parent directory"))
  | some steps => performAll now files steps

end Vault

structure Vault where
  path : String
  account : String
  entries : Vault.Entries

namespace Vault

def openAt (files : Files) (now : Int) (process path account : String) :
    Files × Except AuthError Vault :=
  if files.holds path then
    match files.readText path with
    | .error error => (files, .error (.io ("reading secret store: " ++ error.message)))
    | .ok text =>
      match (Json.parse? text).bind ofJson? with
      | none => (files, .error (.credentialParse "parsing secret store"))
      | some entries => (files, .ok ⟨path, account, entries⟩)
  else
    match replace files now process path [] with
    | (files, .ok ()) => (files, .ok ⟨path, account, []⟩)
    | (files, .error error) => (files, .error error)

def load (vault : Vault) : Option Credential := vault.entries.lookup vault.account

/-- The memory holds the new credential whether or not the file could be replaced. -/
def save (vault : Vault) (files : Files) (now : Int) (process : String)
    (credential : Credential) : Vault × Files × Except AuthError Unit :=
  let entries := insert vault.entries vault.account credential
  let (files, result) := replace files now process vault.path entries
  ({ vault with entries := entries }, files, result)

end Vault

end Steward
