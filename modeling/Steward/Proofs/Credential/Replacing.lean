import Steward.Proofs.Credential.Document
import Steward.Proofs.Files
import Steward.Proofs.Text.Utf8
/-!
# Replacing the file of a vault

The temporary file stands ready before it is renamed, and nothing else has changed by then.  Where
the file can be read, renaming the temporary file cannot fail any more.  So the file holds the new
entries after a replacement that succeeds, and whatever it held before after one that fails.
-/

set_option autoImplicit false

namespace Steward.Vault

section Ready

variable {files ready : Files} {temporary path : String} {octets : Utf8.Octets}
  {location : Location} {file : File}

/-- The tree `ready` differs from `files` in one file, which the temporary path leads to. -/
structure Ready (files : Files) (temporary : String) (octets : Utf8.Octets) (ready : Files)
    (location : Location) (file : File) : Prop where
  free : files.node? location ≠ some .directory
  located : ready.locate temporary = .ok location
  found : ready.node? location = some (.file file)
  holds : file.octets = octets
  others : ∀ place, place ≠ location → ready.node? place = files.node? place

theorem Ready.keeps (stands : Ready files temporary octets ready location file) :
    files.KeepsDirectories ready := by
  intro place directory
  rw [stands.others, directory]
  rintro rfl
  exact stands.free directory

theorem exists_ready_of_write {now : Int} (written : files.write temporary octets now = .ok ready) :
    ∃ location file, Ready files temporary octets ready location file := by
  obtain ⟨location, mode, located, free, rfl⟩ := Files.write_eq_ok written
  exact ⟨location, _, free, (Files.keepsDirectories_put free _).locate located,
    Files.node?_put_self free, rfl, fun place other => Files.node?_put_of_ne other⟩

theorem Ready.setMode (stands : Ready files temporary octets ready location file) (mode : Nat) :
    ∃ closed file, ready.setMode temporary mode = .ok closed ∧
      Ready files temporary octets closed location file := by
  have apart : ready.node? location ≠ some .directory := by simp [stands.found]
  refine ⟨_, _, Files.setMode_of_file stands.located stands.found mode, stands.free,
    (Files.keepsDirectories_put apart _).locate stands.located, Files.node?_put_self apart,
    stands.holds, fun place other => ?_⟩
  rw [Files.node?_put_of_ne other, stands.others place other]

theorem Ready.exists_renamed (stands : Ready files temporary octets ready location file)
    {text : String} (readable : ready.readText path = .ok text) :
    ∃ after, ready.rename temporary path = .ok after := by
  obtain ⟨place, there, leads, held⟩ := Files.exists_file_of_readText readable
  exact ⟨_, Files.rename_of_located stands.located stands.found leads (by simp [held])⟩

theorem Ready.exists_renamed_of_before (stands : Ready files temporary octets ready location file)
    {text : String} (readable : files.readText path = .ok text) :
    ∃ after, ready.rename temporary path = .ok after := by
  obtain ⟨place, there, leads, held⟩ := Files.exists_file_of_readText readable
  refine ⟨_, Files.rename_of_located stands.located stands.found (stands.keeps.locate leads) ?_⟩
  by_cases same : place = location
  · simp [same, stands.found]
  · simp [stands.others place same, held]

end Ready

/-! ## Replacements -/

section Replace

variable {files after : Files} {now : Int} {process path : String} {entries : Entries}

/-- How a replacement may go, with the tree that it leaves and its answer. -/
inductive Replacement (files : Files) (now : Int) (process path : String) (entries : Entries) :
    Files → Except AuthError Unit → Prop where
  | nowhere (beside : Files.beside? path (temporaryName process) = none) :
      Replacement files now process path entries files
        (.error (.io "secret store path has no parent directory"))
  | unwritten {temporary : String} {error : FileError}
      (beside : Files.beside? path (temporaryName process) = some temporary)
      (fails : files.write temporary (Utf8.encode (text entries)) now = .error error) :
      Replacement files now process path entries files
        (.error (.io ("writing temp secret file: " ++ error.message)))
  | unnamed {temporary : String} {written ready : Files} {location : Location} {file : File}
      {error : FileError} (beside : Files.beside? path (temporaryName process) = some temporary)
      (writes : files.write temporary (Utf8.encode (text entries)) now = .ok written)
      (stands : Ready files temporary (Utf8.encode (text entries)) ready location file)
      (fails : ready.rename temporary path = .error error) :
      Replacement files now process path entries ready
        (.error (.io ("renaming temp secret file: " ++ error.message)))
  | replaced {temporary : String} {written ready after : Files} {location : Location} {file : File}
      (beside : Files.beside? path (temporaryName process) = some temporary)
      (writes : files.write temporary (Utf8.encode (text entries)) now = .ok written)
      (stands : Ready files temporary (Utf8.encode (text entries)) ready location file)
      (renames : ready.rename temporary path = .ok after) :
      Replacement files now process path entries after (.ok ())

theorem replacement (files : Files) (now : Int) (process path : String) (entries : Entries) :
    Replacement files now process path entries (replace files now process path entries).1
      (replace files now process path entries).2 := by
  cases beside : Files.beside? path (temporaryName process) with
  | none =>
      have steps : steps? process path entries = none := by
        rw [steps?, beside]
        rfl
      rw [replace, steps]
      exact .nowhere beside
  | some temporary =>
      have steps : steps? process path entries =
          some [.write temporary (Utf8.encode (text entries)), .setMode temporary 0o600,
            .rename temporary path] := by
        rw [steps?, beside]
        rfl
      rw [replace, steps]
      cases writes : files.write temporary (Utf8.encode (text entries)) now with
      | error error =>
          simp only [performAll, Step.perform, writes]
          exact .unwritten beside writes
      | ok written =>
          obtain ⟨_, _, placed⟩ := exists_ready_of_write writes
          obtain ⟨ready, file, closes, stands⟩ := placed.setMode 0o600
          cases renames : ready.rename temporary path with
          | error error =>
              simp only [performAll, Step.perform, writes, closes, renames]
              exact .unnamed beside writes stands renames
          | ok after =>
              simp only [performAll, Step.perform, writes, closes, renames]
              exact .replaced beside writes stands renames

/-- After a replacement that succeeds, the file holds the new entries as text. -/
theorem readText_of_replaced (replaced : replace files now process path entries = (after, .ok ())) :
    after.readText path = .ok (text entries) := by
  have how := replacement files now process path entries
  rw [replaced] at how
  cases how with
  | replaced beside writes stands renames =>
      have read := Files.read_of_rename stands.located stands.found renames
      refine Files.readText_eq_ok_iff.mpr ⟨_, read, ?_⟩
      rw [stands.holds, Utf8.decode?_encode]

theorem readText_of_not_replaced {error : AuthError}
    (fails : replace files now process path entries = (after, .error error)) (text : String) :
    after.readText path = .ok text ↔ files.readText path = .ok text := by
  have how := replacement files now process path entries
  rw [fails] at how
  cases how with
  | nowhere | unwritten => exact Iff.rfl
  | unnamed beside writes stands fails =>
      constructor
      · intro readable
        obtain ⟨_, renames⟩ := stands.exists_renamed readable
        cases renames.symm.trans fails
      · intro readable
        obtain ⟨_, renames⟩ := stands.exists_renamed_of_before readable
        cases renames.symm.trans fails

/-- Where the file can be read, only the temporary file may stand in the way of a replacement. -/
theorem replace_isOk_iff {held : String} (readable : files.readText path = .ok held) :
    (∃ after, replace files now process path entries = (after, .ok ())) ↔
      ∃ temporary written, Files.beside? path (temporaryName process) = some temporary ∧
        files.write temporary (Utf8.encode (text entries)) now = .ok written := by
  have how := replacement files now process path entries
  generalize replace files now process path entries = result at how
  obtain ⟨left, answer⟩ := result
  cases how with
  | nowhere beside => simp [beside]
  | unwritten beside fails => simp [beside, fails]
  | unnamed beside writes stands fails =>
      obtain ⟨_, renames⟩ := stands.exists_renamed_of_before readable
      cases renames.symm.trans fails
  | replaced beside writes stands renames => simp [beside, writes]

/-- The entries in the file, `none` where it cannot be read or holds something else. -/
def contents (files : Files) (path : String) : Option Entries :=
  (files.readText path).toOption.bind ofText?

def stored (files : Files) (path account : String) : Option Credential :=
  (contents files path).bind (·.lookup account)

theorem toOption_eq_some_iff {ε α : Type} {result : Except ε α} {a : α} :
    result.toOption = some a ↔ result = .ok a := by
  cases result <;> simp [Except.toOption]

theorem contents_eq_some_iff :
    contents files path = some entries ↔
      ∃ text, files.readText path = .ok text ∧ ofText? text = some entries := by
  simp only [contents, Option.bind_eq_some_iff, toOption_eq_some_iff]

theorem keyed_of_contents (held : contents files path = some entries) : Keyed entries := by
  obtain ⟨text, -, read⟩ := contents_eq_some_iff.mp held
  obtain ⟨document, -, known⟩ := Option.bind_eq_some_iff.mp read
  exact keyed_of_ofJson? known

theorem contents_of_readText (keyed : Keyed entries)
    (holds : files.readText path = .ok (text entries)) :
    contents files path = some entries.reverse :=
  contents_eq_some_iff.mpr ⟨text entries, holds, ofText?_text keyed⟩

theorem contents_of_replaced (keyed : Keyed entries)
    (replaced : replace files now process path entries = (after, .ok ())) :
    contents after path = some entries.reverse :=
  contents_of_readText keyed (readText_of_replaced replaced)

theorem contents_of_sameAt (same : files.SameAt after path) :
    contents after path = contents files path := by
  refine Option.ext fun held => ?_
  simp only [contents_eq_some_iff, same.readText]

theorem contents_of_not_replaced {error : AuthError}
    (fails : replace files now process path entries = (after, .error error)) :
    contents after path = contents files path := by
  refine Option.ext fun held => ?_
  simp only [contents_eq_some_iff, readText_of_not_replaced fails]

theorem contents_congr (same : (after.readText path).toOption = (files.readText path).toOption) :
    contents after path = contents files path := by
  rw [contents, contents, same]

theorem stored_congr {account : String} (same : contents after path = contents files path) :
    stored after path account = stored files path account := by
  rw [stored, stored, same]

end Replace

end Steward.Vault
