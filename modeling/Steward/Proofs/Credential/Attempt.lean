import Steward.Credential.Mishap
import Steward.Proofs.Credential.Ownership
/-!
# Saving is done as a whole or not at all

Until the temporary file is renamed, the tree has changed in one place at most, which is that of the
temporary file.  So whatever goes wrong before, and whenever the process stops, the path of the
vault leads to what it led to before.  Once the temporary file has been renamed, all of the new text
is there.
-/

set_option autoImplicit false

namespace Steward

namespace Files

/-! ## Changes beside a file -/

/-- The trees differ in one place at most, which is no directory and which the path leads to. -/
def Beside (path : String) (files after : Files) : Prop :=
  ∀ place, after.node? place ≠ files.node? place →
    files.locate path = .ok place ∧ files.node? place ≠ some .directory ∧
      after.node? place ≠ some .directory

variable {temporary path : String} {files after : Files} {location : Location}

theorem Beside.refl (path : String) (files : Files) : Beside path files files :=
  fun _ changed => (changed rfl).elim

theorem Beside.directory_iff (beside : Beside temporary files after) (place : Location) :
    after.node? place = some .directory ↔ files.node? place = some .directory := by
  by_cases same : after.node? place = files.node? place
  · rw [same]
  · obtain ⟨-, free, stillFree⟩ := beside place same
    exact iff_of_false stillFree free

theorem Beside.locate_iff (beside : Beside temporary files after) :
    after.locate path = .ok location ↔ files.locate path = .ok location := by
  have keeps : files.KeepsDirectories after := fun place => (beside.directory_iff place).mpr
  have kept : after.KeepsDirectories files := fun place => (beside.directory_iff place).mp
  exact ⟨kept.locate, keeps.locate⟩

theorem Beside.put (beside : Beside temporary files after)
    (located : after.locate temporary = .ok location)
    (free : after.node? location ≠ some .directory) (file : File) :
    Beside temporary files (after.put location (.file file)) := by
  intro place changed
  by_cases here : place = location
  · subst here
    have free_before := mt (beside.directory_iff place).mpr free
    refine ⟨beside.locate_iff.mp located, free_before, ?_⟩
    rw [node?_put_self free]
    simp
  · rw [node?_put_of_ne here] at changed ⊢
    exact beside place changed

theorem Beside.sameAt (beside : Beside temporary files after)
    (apart : ∀ location, files.locate temporary = .ok location →
      files.locate path ≠ .ok location) : files.SameAt after path := by
  intro node
  simp only [find_eq_ok_iff, beside.locate_iff]
  refine exists_congr fun location => and_congr_right fun leads => ?_
  by_cases same : after.node? location = files.node? location
  · rw [same]
  · exact (apart location (beside location same).1 leads).elim

end Files

namespace Vault

variable {files before after : Files} {now : Int} {process path temporary : String}
  {entries : Entries}

def Step.Prepares (temporary : String) : Step → Prop
  | .write path _ | .setMode path _ => path = temporary
  | .rename .. => False

theorem beside_write (beside : Files.Beside temporary files before) {octets : Utf8.Octets}
    (written : before.write temporary octets now = .ok after) :
    Files.Beside temporary files after := by
  obtain ⟨location, mode, located, free, rfl⟩ := Files.write_eq_ok written
  exact beside.put located free _

theorem beside_perform {step : Step} (prepares : step.Prepares temporary)
    (beside : Files.Beside temporary files before)
    (performed : step.perform before now = .ok after) : Files.Beside temporary files after := by
  cases step with
  | write path octets =>
      cases prepares
      exact beside_write beside performed
  | setMode path mode =>
      cases prepares
      obtain same | ⟨location, file, located, found, rfl⟩ := Files.setMode_eq_ok performed
      · exact same ▸ beside
      · exact beside.put located (by simp [found]) _
  | rename => cases prepares

theorem beside_performAll {steps : List Step}
    (prepare : ∀ step ∈ steps, step.Prepares temporary)
    (beside : Files.Beside temporary files before) :
    Files.Beside temporary files (performAll now before steps).1 := by
  induction steps generalizing before with
  | nil => exact beside
  | cons step rest ih =>
      rw [performAll]
      cases performed : step.perform before now with
      | error error => exact beside
      | ok after =>
          have beside := beside_perform (prepare step List.mem_cons_self) beside performed
          exact ih (fun other later => prepare other (List.mem_cons_of_mem step later)) beside

theorem beside_leave {step : Step}
    (prepares : step.Prepares temporary ∨ ∃ source target, step = .rename source target)
    (beside : Files.Beside temporary files before) (written : Option Nat) :
    Files.Beside temporary files (step.leave before now written) := by
  cases step with
  | write path octets =>
      obtain rfl | ⟨_, _, ⟨⟩⟩ := prepares
      cases written with
      | none => exact beside
      | some count =>
          simp only [Step.leave]
          split
          · next done => exact beside_write beside done
          · exact beside
  | setMode | rename => exact beside

theorem performAll_append (first last : List Step) :
    performAll now files (first ++ last) =
      match performAll now files first with
      | (files, .ok ()) => performAll now files last
      | (files, .error error) => (files, .error error) := by
  induction first generalizing files with
  | nil => rfl
  | cons step rest ih =>
      rw [List.cons_append, performAll, performAll]
      cases step.perform files now with
      | error error => rfl
      | ok after => exact ih

theorem tree_of_failed {first : List Step} {last : Step} {error : AuthError}
    (failed : performAll now files (first ++ [last]) = (after, .error error)) :
    after = (performAll now files first).1 := by
  rw [performAll_append] at failed
  cases performed : performAll now files first with
  | mk ready answer =>
      rw [performed] at failed
      cases answer with
      | error => cases failed; rfl
      | ok =>
          simp only [performAll] at failed
          cases done : last.perform ready now with
          | error => rw [done] at failed; cases failed; rfl
          | ok => rw [done] at failed; cases failed

def preparing (temporary : String) (entries : Entries) : List Step :=
  [.write temporary (Utf8.encode (text entries)), .setMode temporary 0o600]

theorem prepares_of_mem {step : Step} (there : step ∈ preparing temporary entries) :
    step.Prepares temporary := by
  simp only [preparing, List.mem_cons, List.not_mem_nil, or_false] at there
  obtain rfl | rfl := there <;> rfl

def replacing (temporary path : String) (entries : Entries) : List Step :=
  preparing temporary entries ++ [.rename temporary path]

theorem steps?_of_beside (found : Files.beside? path (temporaryName process) = some temporary) :
    steps? process path entries = some (replacing temporary path entries) := by
  rw [steps?, found]
  rfl

theorem beside_of_failed {error : AuthError}
    (failed : performAll now files (replacing temporary path entries) = (after, .error error)) :
    Files.Beside temporary files after := by
  rw [tree_of_failed failed]
  exact beside_performAll (fun _ => prepares_of_mem) (.refl temporary files)

/-! ## Attempts -/

/-- The path leads elsewhere than the temporary file that the process would write. -/
def Apart (files : Files) (process path : String) : Prop :=
  ∀ temporary location, Files.beside? path (temporaryName process) = some temporary →
    files.locate temporary = .ok location → files.locate path ≠ .ok location

/-- What an attempt to replace the file comes to, with the tree that it leaves and its answer.
Either the path leads to what it led to before, and no success is told, or the file holds all of
the new text, and no failure is told. -/
inductive Attempt (files : Files) (path : String) (entries : Entries) :
    Files → Option (Except AuthError Unit) → Prop where
  | kept {after : Files} {answer : Option (Except AuthError Unit)}
      (same : files.SameAt after path) (untold : answer ≠ some (.ok ())) :
      Attempt files path entries after answer
  | whole {after : Files} {answer : Option (Except AuthError Unit)}
      (holds : after.readText path = .ok (text entries))
      (untold : ∀ error, answer ≠ some (.error error)) :
      Attempt files path entries after answer

theorem attempt_replace (apart : Apart files process path) (now : Int) (entries : Entries) :
    Attempt files path entries (replace files now process path entries).1
      (some (replace files now process path entries).2) := by
  cases replaces : replace files now process path entries with
  | mk after answer =>
      cases answer with
      | ok =>
          refine .whole (readText_of_replaced replaces) ?_
          rintro error ⟨⟩
      | error error =>
          refine .kept ?_ (by simp)
          cases found : Files.beside? path (temporaryName process) with
          | none =>
              rw [replace, steps?, found] at replaces
              cases replaces
              exact .refl files path
          | some temporary =>
              rw [replace, steps?_of_beside found] at replaces
              have beside := beside_of_failed replaces
              exact beside.sameAt fun location => apart temporary location found

section Mishap

variable (apart : Apart files process path)
  (found : Files.beside? path (temporaryName process) = some temporary)

include apart found

theorem attempt_of_early {mishap : Mishap} {struck : Step} (now : Int)
    (strikes : (replacing temporary path entries)[mishap.done]? = some struck) :
    Attempt files path entries
      (performUnder now files (replacing temporary path entries) (some mishap)).1
      (performUnder now files (replacing temporary path entries) (some mishap)).2 := by
  have spared {after : Files} (beside : Files.Beside temporary files after) :
      files.SameAt after path := beside.sameAt fun location => apart temporary location found
  obtain ⟨early, there⟩ := List.getElem?_eq_some_iff.mp strikes
  have before : mishap.done ≤ (preparing temporary entries).length := by
    simpa [replacing, Nat.lt_succ_iff] using early
  have prepares : struck.Prepares temporary ∨ ∃ source target, struck = .rename source target := by
    rcases List.mem_append.mp (there ▸ List.getElem_mem early) with prepares | last
    · exact .inl (prepares_of_mem prepares)
    · exact .inr ⟨temporary, path, List.mem_singleton.mp last⟩
  have prepared : Files.Beside temporary files
      (performAll now files ((preparing temporary entries).take mishap.done)).1 :=
    beside_performAll (fun _ there => prepares_of_mem (List.mem_of_mem_take there))
      (.refl temporary files)
  simp only [performUnder, strikes]
  rw [replacing, List.take_append_of_le_length before]
  cases performed : performAll now files ((preparing temporary entries).take mishap.done) with
  | mk ready answer =>
      rw [performed] at prepared
      cases answer with
      | error error => exact .kept (spared prepared) (by simp)
      | ok =>
          have left : files.SameAt (struck.leave ready now mishap.written) path :=
            spared (beside_leave prepares prepared mishap.written)
          cases mishap.message with
          | none => exact .kept left (by simp)
          | some message => exact .kept left (by simp)

theorem attempt_of_late {mishap : Mishap} (now : Int)
    (strikes : (replacing temporary path entries)[mishap.done]? = none) :
    Attempt files path entries
      (performUnder now files (replacing temporary path entries) (some mishap)).1
      (performUnder now files (replacing temporary path entries) (some mishap)).2 := by
  have attempt := attempt_replace apart now entries
  have all : (replacing temporary path entries).take mishap.done =
      replacing temporary path entries :=
    List.take_of_length_le (List.getElem?_eq_none_iff.mp strikes)
  rw [replace, steps?_of_beside found] at attempt
  simp only [performUnder, all, strikes] at attempt ⊢
  cases performed : performAll now files (replacing temporary path entries) with
  | mk after answer =>
      rw [performed] at attempt
      cases answer with
      | error error => exact attempt
      | ok =>
          cases attempt with
          | kept same untold => exact (untold rfl).elim
          | whole holds untold =>
              cases mishap.message with
              | none => exact .whole holds (by simp)
              | some message => exact .whole holds (by simp)

end Mishap

/-- Whatever goes wrong, the file is replaced as a whole or not at all. -/
theorem attempt_replaceUnder (apart : Apart files process path) (now : Int) (entries : Entries)
    (mishap : Option Mishap) :
    Attempt files path entries (replaceUnder files now process path entries mishap).1
      (replaceUnder files now process path entries mishap).2 := by
  cases mishap with
  | none =>
      rw [replaceUnder_none]
      exact attempt_replace apart now entries
  | some mishap =>
      cases found : Files.beside? path (temporaryName process) with
      | none =>
          rw [replaceUnder, steps?, found]
          exact .kept (.refl files path) (by simp)
      | some temporary =>
          rw [replaceUnder, steps?_of_beside found]
          cases strikes : (replacing temporary path entries)[mishap.done]? with
          | some struck => exact attempt_of_early apart found now strikes
          | none => exact attempt_of_late apart found now strikes

theorem saveUnder_eq (vault : Vault) (files : Files) (now : Int) (process : String)
    (credential : Credential) (mishap : Option Mishap) :
    vault.saveUnder files now process credential mishap =
      (vault.remember credential,
        replaceUnder files now process vault.path (vault.remember credential).entries mishap) :=
  rfl

theorem Attempt.sameAt_of_error {answer : Option (Except AuthError Unit)} {error : AuthError}
    (attempt : Attempt files path entries after answer) (told : answer = some (.error error)) :
    files.SameAt after path := by
  cases attempt with
  | kept same _ => exact same
  | whole _ untold => exact (untold error told).elim

theorem Attempt.readText_of_ok {answer : Option (Except AuthError Unit)}
    (attempt : Attempt files path entries after answer) (told : answer = some (.ok ())) :
    after.readText path = .ok (text entries) := by
  cases attempt with
  | kept _ untold => exact (untold told).elim
  | whole holds _ => exact holds

theorem Attempt.contents {answer : Option (Except AuthError Unit)} (keyed : Keyed entries)
    (attempt : Attempt files path entries after answer) :
    Vault.contents after path = Vault.contents files path ∨
      Vault.contents after path = some entries.reverse := by
  cases attempt with
  | kept same _ => exact .inl (contents_of_sameAt same)
  | whole holds _ => exact .inr (contents_of_readText keyed holds)

theorem replace_ne_credentialParse (files : Files) (now : Int) (process path : String)
    (entries : Entries) (detail : String) :
    (replace files now process path entries).2 ≠ .error (.credentialParse detail) := by
  have how := replacement files now process path entries
  generalize replace files now process path entries = result at how ⊢
  obtain ⟨_, answer⟩ := result
  cases how <;> simp

/-- Opening fails for what the file holds exactly if the file holds a text that writes no
entries. -/
theorem openAt_eq_credentialParse_iff {account detail : String} :
    (openAt files now process path account).2 = .error (.credentialParse detail) ↔
      detail = "parsing secret store" ∧
        ∃ held, files.readText path = .ok held ∧ ofText? held = none := by
  constructor
  · intro fails
    have how := opening files now process path account
    generalize result : openAt files now process path account = opened at how fails
    obtain ⟨left, answer⟩ := opened
    cases how with
    | found | created => cases fails
    | unreadable => cases fails
    | malformed readable unread =>
        cases fails
        exact ⟨rfl, _, readable, unread⟩
    | notCreated absent replaces =>
        cases fails
        refine (replace_ne_credentialParse files now process path [] detail ?_).elim
        rw [replaces]
  · rintro ⟨rfl, held, readable, unread⟩
    have known : (Json.parse? held).bind ofJson? = none := unread
    simp only [openAt, if_pos (Files.holds_of_readText readable), readable, known]

theorem Attempt.openable {answer : Option (Except AuthError Unit)} (keyed : Keyed entries)
    (attempt : Attempt files path entries after answer) {account detail : String}
    (fails : (openAt after now process path account).2 = .error (.credentialParse detail)) :
    (openAt files now process path account).2 = .error (.credentialParse detail) := by
  obtain ⟨told, held, readable, unread⟩ := openAt_eq_credentialParse_iff.mp fails
  cases attempt with
  | kept same _ =>
      exact openAt_eq_credentialParse_iff.mpr ⟨told, held, (same.readText held).mp readable, unread⟩
  | whole holds _ =>
      cases readable.symm.trans holds
      cases unread.symm.trans (ofText?_text keyed)

/-! ## Opening -/

section Opening

variable {account : String} {mishap : Option Mishap} (apart : Apart files process path)

include apart

/-- However an opening ends, the file holds for each account what it held before. -/
theorem stored_of_openUnder (now : Int) (account other : String) (mishap : Option Mishap) :
    stored (openUnder files now process path account mishap).1 path other =
      stored files path other := by
  rw [openUnder]
  split
  · cases opens : openAt files now process path account with
    | mk after answer =>
        cases answer with
        | ok => exact (openAt_eq_ok opens).2.2.2 other
        | error => exact stored_congr (openAt_eq_error opens)
  · next absent =>
      have attempt := attempt_replaceUnder apart now [] mishap
      have same : stored (replaceUnder files now process path [] mishap).1 path other =
          stored files path other := by
        rcases attempt.contents keyed_nil with same | empty
        · exact stored_congr same
        · rw [stored_of_absent ((Bool.not_eq_true _).mp absent), stored, empty]
          rfl
      split <;> next replaces => rwa [replaces] at same

theorem owns_of_openUnder {vault : Vault}
    (opens : openUnder files now process path account mishap = (after, some (.ok vault))) :
    vault.Owns after path := by
  rw [openUnder] at opens
  split at opens
  · cases opened : openAt files now process path account with
    | mk left answer =>
        rw [opened] at opens
        cases opens
        exact owns_of_openAt opened
  · next absent =>
      have attempt := attempt_replaceUnder apart now [] mishap
      split at opens <;> cases opens
      next replaces =>
        rw [replaces] at attempt
        have held := contents_of_readText keyed_nil (attempt.readText_of_ok rfl)
        refine ⟨rfl, keyed_nil, ⟨_, held⟩, fun other _ => ?_⟩
        rw [stored, held]
        rfl

end Opening

end Vault

end Steward
