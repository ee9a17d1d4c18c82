import Mathlib.Tactic.SplitIfs
import Steward.Files
import Steward.Proofs.Run
/-!
# Trees of files

Putting a file anywhere but in the place of a directory, or taking a file away, leaves all
directories where they are.  A path that led somewhere then still leads there, since all that it
passes through are directories.
-/

set_option autoImplicit false

namespace Steward.Files

variable {files after : Files} {place location : Location} {path : String} {node : Node}

/-! ## Nodes -/

theorem node?_put_of_ne (other : place ≠ location) :
    (files.put location node).node? place = files.node? place := by
  simp only [node?, put, lookup_placed, if_neg other]

theorem node?_put_self (apart : files.node? location ≠ some .directory) :
    (files.put location node).node? location = some node := by
  have inside : ¬ (location = [] ∨ location = outside) := fun top => apart (if_pos top)
  simp only [node?, put, lookup_placed, if_neg inside, if_pos]

theorem node?_erase_of_ne (other : place ≠ location) :
    (files.erase location).node? place = files.node? place := by
  simp only [node?, erase, lookup_forgotten, if_neg other]

theorem node?_of_erase (there : (files.erase location).node? place = some node) :
    files.node? place = some node := by
  simp only [node?, erase, lookup_forgotten] at there ⊢
  split at there
  · next top => rwa [if_pos top]
  · next inside =>
      rw [if_neg inside]
      split at there
      · cases there
      · exact there

def KeepsDirectories (files after : Files) : Prop :=
  ∀ place, files.node? place = some .directory → after.node? place = some .directory

theorem KeepsDirectories.trans {last : Files} (first : files.KeepsDirectories after)
    (second : after.KeepsDirectories last) : files.KeepsDirectories last :=
  fun place directory => second place (first place directory)

theorem keepsDirectories_put (apart : files.node? location ≠ some .directory) (node : Node) :
    files.KeepsDirectories (files.put location node) := by
  intro place directory
  rw [node?_put_of_ne, directory]
  rintro rfl
  exact apart directory

theorem keepsDirectories_erase (apart : files.node? location ≠ some .directory) :
    files.KeepsDirectories (files.erase location) := by
  intro place directory
  rw [node?_erase_of_ne, directory]
  rintro rfl
  exact apart directory

theorem directory_of_follow {name : String} {names : List String}
    (followed : files.follow place (name :: names) = .ok location) :
    files.node? place = some .directory := by
  rw [follow] at followed
  cases found : files.node? place with
  | none =>
      rw [found] at followed
      cases followed
  | some node =>
      rw [found] at followed
      cases node with
      | file file => cases followed
      | directory => rfl

theorem follow_of_directory (directory : files.node? place = some .directory) (name : String)
    (names : List String) :
    files.follow place (name :: names) =
      if name = "" ∨ name = "." then files.follow place names
      else if name = ".." then files.follow (above place) names
      else if 255 < name.utf8ByteSize then .error .nameTooLong
      else files.follow (place ++ [name]) names := by
  rw [follow, directory]

theorem KeepsDirectories.follow {names : List String} (keeps : files.KeepsDirectories after)
    (followed : files.follow place names = .ok location) :
    after.follow place names = .ok location := by
  induction names generalizing place with
  | nil => exact followed
  | cons name names ih =>
      have directory := directory_of_follow followed
      rw [follow_of_directory directory] at followed
      rw [follow_of_directory (keeps place directory)]
      split_ifs at followed ⊢
      · exact ih followed
      · exact ih followed
      · exact ih followed

theorem KeepsDirectories.locate (keeps : files.KeepsDirectories after)
    (located : files.locate path = .ok location) : after.locate path = .ok location := by
  rw [Files.locate] at located ⊢
  split at located
  · cases located
  split at located
  · cases located
  next named possible =>
    rw [if_neg named, if_neg possible]
    split at located
    · exact keeps.follow located
    · exact keeps.follow located

theorem find_eq_ok_iff :
    files.find path = .ok node ↔
      ∃ location, files.locate path = .ok location ∧ files.node? location = some node := by
  rw [find]
  cases located : files.locate path with
  | error error => simp [bind, Except.bind]
  | ok location =>
      cases found : files.node? location <;> simp [bind, Except.bind, pure, Except.pure, found]

theorem read_eq_ok_iff {octets : Utf8.Octets} :
    files.read path = .ok octets ↔
      ∃ file, files.find path = .ok (.file file) ∧ file.octets = octets := by
  rw [read]
  cases found : files.find path with
  | error error => simp [bind, Except.bind]
  | ok node => cases node <;> simp [bind, Except.bind, pure, Except.pure]

theorem readText_eq_ok_iff {text : String} :
    files.readText path = .ok text ↔
      ∃ octets, files.read path = .ok octets ∧ Utf8.decode? octets = some text := by
  rw [readText]
  cases read : files.read path with
  | error error => simp [bind, Except.bind]
  | ok octets =>
      cases decoded : Utf8.decode? octets <;>
        simp [bind, Except.bind, pure, Except.pure, decoded]

theorem exists_file_of_readText {text : String} (readable : files.readText path = .ok text) :
    ∃ location file, files.locate path = .ok location ∧
      files.node? location = some (.file file) := by
  obtain ⟨octets, read, -⟩ := readText_eq_ok_iff.mp readable
  obtain ⟨file, found, -⟩ := read_eq_ok_iff.mp read
  obtain ⟨location, located, there⟩ := find_eq_ok_iff.mp found
  exact ⟨location, file, located, there⟩

theorem holds_of_readText {text : String} (readable : files.readText path = .ok text) :
    files.holds path = true := by
  obtain ⟨location, file, located, there⟩ := exists_file_of_readText readable
  rw [holds, find_eq_ok_iff.mpr ⟨location, located, there⟩]
  rfl

/-! ## What a path leads to -/

/-- The path leads to what it led to before, or to nothing as before. -/
def SameAt (files after : Files) (path : String) : Prop :=
  ∀ node, after.find path = .ok node ↔ files.find path = .ok node

theorem SameAt.refl (files : Files) (path : String) : files.SameAt files path :=
  fun _ => Iff.rfl

theorem SameAt.trans {last : Files} (first : files.SameAt after path)
    (second : after.SameAt last path) : files.SameAt last path :=
  fun node => (second node).trans (first node)

theorem SameAt.readText (same : files.SameAt after path) (text : String) :
    after.readText path = .ok text ↔ files.readText path = .ok text := by
  simp only [readText_eq_ok_iff, read_eq_ok_iff, same _]

/-! ## Writing and renaming -/

/-- Whatever could be replaced by a file has been, and the mode of the file can be changed. -/
theorem write_eq_ok {octets : Utf8.Octets} {now : Int}
    (written : files.write path octets now = .ok after) :
    ∃ location mode, files.locate path = .ok location ∧ files.node? location ≠ some .directory ∧
      after = files.put location (.file ⟨octets, mode, now⟩) := by
  rw [write] at written
  cases located : files.locate path with
  | error error =>
      rw [located] at written
      cases written
  | ok location =>
      rw [located] at written
      cases found : files.node? location with
      | none =>
          simp only [bind, Except.bind, found] at written
          cases written
          exact ⟨location, 0o644, rfl, by simp [found], rfl⟩
      | some node =>
          cases node with
          | directory =>
              simp only [bind, Except.bind, found] at written
              cases written
          | file old =>
              simp only [bind, Except.bind, found] at written
              cases written
              exact ⟨location, old.mode, rfl, by simp [found], rfl⟩

theorem setMode_of_file {file : File} (located : files.locate path = .ok location)
    (found : files.node? location = some (.file file)) (mode : Nat) :
    files.setMode path mode = .ok (files.put location (.file { file with mode := mode })) := by
  simp [setMode, bind, Except.bind, located, found, pure, Except.pure]

theorem setMode_eq_ok {mode : Nat} (changed : files.setMode path mode = .ok after) :
    after = files ∨ ∃ location file, files.locate path = .ok location ∧
      files.node? location = some (.file file) ∧
        after = files.put location (.file { file with mode := mode }) := by
  cases located : files.locate path with
  | error error =>
      simp only [setMode, bind, Except.bind, located] at changed
      cases changed
  | ok location =>
      cases found : files.node? location with
      | none =>
          simp only [setMode, bind, Except.bind, located, found] at changed
          cases changed
      | some node =>
          cases node with
          | directory =>
              simp only [setMode, bind, Except.bind, located, found] at changed
              cases changed
              exact .inl rfl
          | file file =>
              rw [setMode_of_file located found] at changed
              cases changed
              exact .inr ⟨location, file, rfl, found, rfl⟩

section Rename

variable {source target : String} {old new : Location} {file : File}

theorem rename_of_located (located : files.locate source = .ok old)
    (found : files.node? old = some (.file file)) (leads : files.locate target = .ok new)
    (free : files.node? new ≠ some .directory) :
    files.rename source target = .ok ((files.erase old).put new (.file file)) := by
  simp only [rename, bind, Except.bind, located, found, leads]
  rfl

theorem rename_eq_ok (located : files.locate source = .ok old)
    (found : files.node? old = some (.file file))
    (renamed : files.rename source target = .ok after) :
    ∃ new, files.locate target = .ok new ∧ files.node? new ≠ some .directory ∧
      after = (files.erase old).put new (.file file) := by
  cases leads : files.locate target with
  | error error =>
      cases error <;>
        simp only [rename, bind, Except.bind, located, found, leads] at renamed <;>
        cases renamed
  | ok new =>
      by_cases taken : files.node? new = some .directory
      · simp only [rename, bind, Except.bind, located, found, leads, taken] at renamed
        cases renamed
      · rw [rename_of_located located found leads taken] at renamed
        cases renamed
        exact ⟨new, rfl, taken, rfl⟩

/-- What has been renamed is found under the new path. -/
theorem read_of_rename (located : files.locate source = .ok old)
    (found : files.node? old = some (.file file))
    (renamed : files.rename source target = .ok after) : after.read target = .ok file.octets := by
  obtain ⟨new, leads, free, rfl⟩ := rename_eq_ok located found renamed
  have gone : files.node? old ≠ some .directory := by simp [found]
  have freed : (files.erase old).node? new ≠ some .directory := fun taken =>
    free (node?_of_erase taken)
  have keeps : files.KeepsDirectories ((files.erase old).put new (.file file)) :=
    (keepsDirectories_erase gone).trans (keepsDirectories_put freed _)
  exact read_eq_ok_iff.mpr
    ⟨file, find_eq_ok_iff.mpr ⟨new, keeps.locate leads, node?_put_self freed⟩, rfl⟩

end Rename

end Steward.Files
