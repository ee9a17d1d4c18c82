import Std.Time.DateTime.Timestamp
import Steward.CommandLine
/-!
# The command line

Looks at what is on disk and in the environment, and carries out the run that follows from it.
-/

set_option autoImplicit false

namespace Steward.CommandLine

/-- What is under a path.  Whatever is there and cannot be read as a file counts as a
directory. -/
def nodeAt? (path : String) : IO (Option Node) := do
  match ← (IO.FS.readBinFile path).toBaseIO with
  | .ok octets => return some (.file ⟨octets.toList, 0o644, 0⟩)
  | .error (.noFileOrDirectory ..) => return none
  | .error _ => return some .directory

def lookAt (files : Files) (path : String) : IO Files :=
  (Files.stages path).foldlM (fun files stage => do
    match ← nodeAt? stage with
    | none => return files
    | some node => return files.plant stage node) files

def environmentNames : List String :=
  ["CONFIG_PATH", "TENANT_PASSWORD", "LOG_LEVEL", "RUST_LOG"]

def environment : IO (List (String × Utf8.Octets)) :=
  environmentNames.filterMapM fun name => do
    return (← IO.getEnv name).map fun value => (name, Utf8.encode value)

def surroundings (arguments : List String) : IO Surroundings := do
  let bare : Surroundings := {
    arguments := arguments
    environment := ← environment
    files := .empty
    wall := (← Std.Time.Timestamp.now).toMillisecondsSinceUnixEpoch.val.toNat
    process := toString (← IO.monoNanosNow)
    signal := none }
  let started := { bare with files := ← lookAt bare.files bare.configPath }
  return { started with files := ← (pathsNamed started).foldlM lookAt started.files }

def perform : Vault.Step → IO Unit
  | .write path octets => IO.FS.writeBinFile path ⟨octets.toArray⟩
  | .setMode path _ =>
    IO.setAccessRights path ⟨⟨true, true, false⟩, ⟨false, false, false⟩, ⟨false, false, false⟩⟩
  | .rename source target => IO.FS.rename source target

partial def wait : IO UInt32 := do
  IO.sleep 60000
  wait

/-- Shows a run and answers its exit code.  A step that fails ends the steps, not the run. -/
def carryOut (surroundings : Surroundings) : IO UInt32 := do
  discard ((coldStart surroundings).forM perform).toBaseIO
  let course := run surroundings
  for line in course.lines do
    IO.println line.json.compact
  match course.exit with
  | some reason => return UInt32.ofNat reason.code
  | none => wait

end Steward.CommandLine

def main (arguments : List String) : IO UInt32 := do
  Steward.CommandLine.carryOut (← Steward.CommandLine.surroundings arguments)
