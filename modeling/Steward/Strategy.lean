import Steward.Files
import Steward.Notice
import Steward.Source
/-!
# The strategy file

The strategy is the text of a file, watched by its length and the time of its last change.  No
file means no strategy.
-/

set_option autoImplicit false

namespace Steward.Strategy

def sourceName (path : String) : String := "strategy:" ++ path

/-- Times before 1970 all count as the beginning of 1970. -/
def fingerprint : Node → String
  | .file file => toString file.octets.length ++ ":" ++ toString file.modified.toNat
  -- A directory can be told from every file, and cannot be loaded.
  | .directory => "directory"

def probe (files : Files) (path : String) : Except FileError (Option String) :=
  match files.find path with
  | .ok node => .ok (some (fingerprint node))
  | .error .notFound => .ok none
  | .error error => .error error

def load (files : Files) (path : String) : Except FileError String := files.readText path

def notice : Source.Change String → Notice
  | .set value => .strategyChanged value.utf8ByteSize
  | .changed _ new => .strategyChanged new.utf8ByteSize
  | .unset _ => .strategyRemoved

/-- A refresh that nothing comes in between of. -/
def refresh (files : Files) (path : String) (source : Source String) :
    Source String × Except FileError (Option (Source.Change String)) :=
  let call := 0
  let source := (source.step (E := FileError) (.refresh call)).1
  let source := (source.step (E := FileError) (.enter call)).1
  match source.step (.probed call (probe files path)) with
  | (source, .load _) =>
    match source.step (.loaded call (load files path)) with
    | (source, .finished result) => (source, result)
    | (source, _) => (source, .ok none)
  | (source, .finished result) => (source, result)
  | (source, _) => (source, .ok none)

end Steward.Strategy
