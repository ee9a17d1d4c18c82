import Steward.Proofs.Credential.Attempt
import Steward.Proofs.Credential.Custody
/-!
# The file through failures and stops

The same owner of a file, but any step of a save or of an opening may fail, and the process may stop
at any moment.  Only a save changes what the file holds for an account, and only for its own; it
does so as a whole, and whoever is told of a success finds everything in the file that the owner has
in memory.
-/

set_option autoImplicit false

namespace Steward.Custody

/-- An event in which nothing goes wrong but what the tree forbids, one that is struck, or a stop
of the process between two calls, which leaves no reply. -/
inductive Trial where
  | quiet (event : Event)
  | openUnder (mishap : Vault.Mishap) (now : Int) (process account : String)
  | saveUnder (mishap : Vault.Mishap) (now : Int) (process : String) (credential : Credential)
  | stop

def undergo (custody : Custody) : Trial → Custody × Option Reply
  | .quiet event =>
    let (custody, reply) := custody.step event
    (custody, some reply)
  | .openUnder mishap now process account =>
    match Vault.openUnder custody.files now process custody.path account (some mishap) with
    | (files, some (.ok vault)) =>
      ({ custody with files, owner := some vault }, some (.opened account))
    | (files, some (.error error)) =>
      ({ custody with files, owner := none }, some (.notOpened error))
    | (files, none) => ({ custody with files, owner := none }, none)
  | .saveUnder mishap now process credential =>
    match custody.owner with
    | none => (custody, some .refused)
    | some vault =>
      match vault.saveUnder custody.files now process credential (some mishap) with
      | (vault, files, some (.ok ())) =>
        ({ custody with files, owner := some vault }, some (.saved vault.account credential))
      | (vault, files, some (.error error)) =>
        ({ custody with files, owner := some vault }, some (.notSaved error))
      | (_, files, none) => ({ custody with files, owner := none }, none)
  | .stop => ({ custody with owner := none }, none)

def Event.process? : Event → Option String
  | .openFor _ process _ | .save _ process _ => some process
  | .load | .reorder _ | .elsewhere _ => none

def Trial.process? : Trial → Option String
  | .quiet event => event.process?
  | .openUnder _ _ process _ | .saveUnder _ _ process _ => some process
  | .stop => none

def Trial.credential? : Trial → Option Credential
  | .quiet (.save _ _ credential) | .saveUnder _ _ _ credential => some credential
  | _ => none

/-- The owner is to save a credential for the account. -/
def Renews (custody : Custody) (trial : Trial) (account : String) (credential : Credential) :
    Prop :=
  trial.credential? = some credential ∧
    ∃ vault, custody.owner = some vault ∧ vault.account = account

/-- The file is apart from whatever temporary file is written. -/
def Apart (custody : Custody) (trial : Trial) : Prop :=
  ∀ process, trial.process? = some process → Vault.Apart custody.files process custody.path

/-- What a trial may come to. -/
inductive Outcome (custody : Custody) : Trial → Custody × Option Reply → Prop where
  | quiet (event : Event) :
      Outcome custody (.quiet event) ((custody.step event).1, some (custody.step event).2)
  | opened {mishap : Vault.Mishap} {now : Int} {process account : String} {files : Files}
      {vault : Vault} (opens : Vault.openUnder custody.files now process custody.path account
        (some mishap) = (files, some (.ok vault))) :
      Outcome custody (.openUnder mishap now process account)
        ({ custody with files, owner := some vault }, some (.opened account))
  | notOpened {mishap : Vault.Mishap} {now : Int} {process account : String} {files : Files}
      {error : AuthError} (fails : Vault.openUnder custody.files now process custody.path account
        (some mishap) = (files, some (.error error))) :
      Outcome custody (.openUnder mishap now process account)
        ({ custody with files, owner := none }, some (.notOpened error))
  | notYetOpened {mishap : Vault.Mishap} {now : Int} {process account : String} {files : Files}
      (stops : Vault.openUnder custody.files now process custody.path account
        (some mishap) = (files, none)) :
      Outcome custody (.openUnder mishap now process account)
        ({ custody with files, owner := none }, none)
  | saved {mishap : Vault.Mishap} {now : Int} {process : String} {credential : Credential}
      {vault : Vault} {files : Files} (owned : custody.owner = some vault)
      (replaced : Vault.replaceUnder custody.files now process vault.path
        (vault.remember credential).entries (some mishap) = (files, some (.ok ()))) :
      Outcome custody (.saveUnder mishap now process credential)
        ({ custody with files, owner := some (vault.remember credential) },
          some (.saved vault.account credential))
  | notSaved {mishap : Vault.Mishap} {now : Int} {process : String} {credential : Credential}
      {vault : Vault} {files : Files} {error : AuthError} (owned : custody.owner = some vault)
      (fails : Vault.replaceUnder custody.files now process vault.path
        (vault.remember credential).entries (some mishap) = (files, some (.error error))) :
      Outcome custody (.saveUnder mishap now process credential)
        ({ custody with files, owner := some (vault.remember credential) }, some (.notSaved error))
  | notYetSaved {mishap : Vault.Mishap} {now : Int} {process : String} {credential : Credential}
      {vault : Vault} {files : Files} (owned : custody.owner = some vault)
      (stops : Vault.replaceUnder custody.files now process vault.path
        (vault.remember credential).entries (some mishap) = (files, none)) :
      Outcome custody (.saveUnder mishap now process credential)
        ({ custody with files, owner := none }, none)
  | refused {trial : Trial} : Outcome custody trial (custody, some .refused)
  | stopped : Outcome custody .stop ({ custody with owner := none }, none)

theorem outcome (custody : Custody) (trial : Trial) :
    Outcome custody trial (custody.undergo trial) := by
  cases trial with
  | quiet event => exact .quiet event
  | openUnder mishap now process account =>
      rw [undergo]
      split
      · next opens => exact .opened opens
      · next fails => exact .notOpened fails
      · next stops => exact .notYetOpened stops
  | saveUnder mishap now process credential =>
      rw [undergo]
      cases owned : custody.owner with
      | none => exact .refused
      | some vault =>
          simp only [Vault.saveUnder]
          cases replaces : Vault.replaceUnder custody.files now process vault.path
            (Vault.insert vault.entries vault.account credential) (some mishap) with
          | mk files answer =>
              rcases answer with _ | ⟨error⟩ | ⟨⟩
              · exact .notYetSaved owned replaces
              · exact .notSaved owned replaces
              · exact .saved owned replaces
  | stop => exact .stopped

/-! ## One trial -/

variable {custody : Custody}

theorem undergo_path (custody : Custody) (trial : Trial) :
    (custody.undergo trial).1.path = custody.path := by
  have how := outcome custody trial
  generalize custody.undergo trial = next at how ⊢
  cases how with
  | quiet event => exact step_path custody event
  | _ => rfl

theorem attempt_of_owned (sound : custody.Sound) {vault : Vault}
    (owned : custody.owner = some vault) {process : String}
    (apart : Vault.Apart custody.files process custody.path) {now : Int}
    {credential : Credential} {mishap : Option Vault.Mishap} {files : Files}
    {answer : Option (Except AuthError Unit)}
    (replaces : Vault.replaceUnder custody.files now process vault.path
      (vault.remember credential).entries mishap = (files, answer)) :
    Vault.Attempt custody.files custody.path (vault.remember credential).entries files answer := by
  rw [(sound vault owned).leads] at replaces
  have attempt := Vault.attempt_replaceUnder apart now (vault.remember credential).entries mishap
  rwa [replaces] at attempt

theorem sound_undergo (sound : custody.Sound) {trial : Trial} (apart : custody.Apart trial) :
    (custody.undergo trial).1.Sound := by
  have how := outcome custody trial
  generalize custody.undergo trial = next at how ⊢
  cases how with
  | quiet event => exact sound_step sound event
  | @opened _ _ process _ _ vault opens =>
      rintro _ ⟨⟩
      exact Vault.owns_of_openUnder (apart process rfl) opens
  | @saved _ _ process _ vault _ owned replaced =>
      rintro _ ⟨⟩
      have owns := sound vault owned
      have attempt := attempt_of_owned sound owned (apart process rfl) replaced
      exact owns.written (Vault.contents_of_readText (owns.keyed_remember _)
        (attempt.readText_of_ok rfl))
  | @notSaved _ _ process _ vault _ _ owned fails =>
      rintro _ ⟨⟩
      have owns := sound vault owned
      have attempt := attempt_of_owned sound owned (apart process rfl) fails
      exact owns.unwritten (Vault.contents_of_sameAt (attempt.sameAt_of_error rfl))
  | notOpened | notYetOpened | notYetSaved | stopped => rintro _ ⟨⟩
  | refused => exact sound

theorem renews_of_saves {event : Event} {account : String} {credential : Credential}
    (saves : (custody.step event).2.saves account = some credential) :
    custody.Renews (.quiet event) account credential := by
  have how := change custody event
  generalize custody.step event = next at how saves
  cases how with
  | @saved _ _ _ vault _ owned replaced =>
      simp only [Reply.saves] at saves
      split at saves <;> cases saves
      next own => exact ⟨rfl, vault, owned, own.symm⟩
  | opened | notOpened | notSaved | loaded | reordered | elsewhere | refused => cases saves

theorem stored_of_whole (sound : custody.Sound) {vault : Vault}
    (owned : custody.owner = some vault) {files : Files} {credential : Credential}
    (held : Vault.contents files custody.path = some (vault.remember credential).entries.reverse)
    (account : String) :
    Vault.stored files custody.path account = custody.stored account ∨
      vault.account = account ∧ Vault.stored files custody.path account = some credential := by
  have written := (sound vault owned).stored_of_written held account
  by_cases own : account = vault.account
  · exact .inr ⟨own.symm, written.trans (if_pos own)⟩
  · exact .inl (written.trans (if_neg own))

/-- Only a save changes what the file holds for an account, for its own account only and to the
credential that was to be saved, and then it does not fail. -/
theorem stored_undergo (sound : custody.Sound) {trial : Trial} (apart : custody.Apart trial)
    (account : String) :
    (custody.undergo trial).1.stored account = custody.stored account ∨
      ∃ credential, custody.Renews trial account credential ∧
        (∀ error, (custody.undergo trial).2 ≠ some (.notSaved error)) ∧
        (custody.undergo trial).1.stored account = some credential := by
  have how := outcome custody trial
  generalize custody.undergo trial = next at how ⊢
  cases how with
  | quiet event =>
      have held := stored_step sound event account
      cases saves : (custody.step event).2.saves account with
      | none =>
          rw [saves] at held
          exact .inl held
      | some credential =>
          rw [saves] at held
          refine .inr ⟨credential, renews_of_saves saves, ?_, held⟩
          intro error failed
          rw [Option.some.inj failed] at saves
          cases saves
  | @opened mishap now process other _ _ opens =>
      have same := Vault.stored_of_openUnder (apart process rfl) now other account (some mishap)
      rw [opens] at same
      exact .inl same
  | @notOpened mishap now process other _ _ fails =>
      have same := Vault.stored_of_openUnder (apart process rfl) now other account (some mishap)
      rw [fails] at same
      exact .inl same
  | @notYetOpened mishap now process other _ stops =>
      have same := Vault.stored_of_openUnder (apart process rfl) now other account (some mishap)
      rw [stops] at same
      exact .inl same
  | @saved _ _ process credential vault _ owned replaced =>
      have attempt := attempt_of_owned sound owned (apart process rfl) replaced
      have held := Vault.contents_of_readText ((sound vault owned).keyed_remember credential)
        (attempt.readText_of_ok rfl)
      refine (stored_of_whole sound owned held account).imp_right ?_
      rintro ⟨own, new⟩
      exact ⟨credential, ⟨rfl, vault, owned, own⟩, nofun, new⟩
  | @notSaved _ _ process _ _ _ _ owned fails =>
      have attempt := attempt_of_owned sound owned (apart process rfl) fails
      exact .inl (Vault.stored_congr (Vault.contents_of_sameAt (attempt.sameAt_of_error rfl)))
  | @notYetSaved _ _ process credential vault _ owned stops =>
      have attempt := attempt_of_owned sound owned (apart process rfl) stops
      rcases attempt.contents ((sound vault owned).keyed_remember credential) with same | held
      · exact .inl (Vault.stored_congr same)
      · refine (stored_of_whole sound owned held account).imp_right ?_
        rintro ⟨own, new⟩
        exact ⟨credential, ⟨rfl, vault, owned, own⟩, nofun, new⟩
  | refused | stopped => exact .inl rfl

/-- What the owner has in memory is in the file, as the text of all entries. -/
def Reconciled (custody : Custody) (account : String) (credential : Credential) : Prop :=
  ∃ vault, custody.owner = some vault ∧ vault.account = account ∧
    vault.entries.lookup account = some credential ∧
    custody.files.readText custody.path = .ok (Vault.text vault.entries) ∧
    ∀ other, custody.stored other = vault.entries.lookup other

theorem reconciled_of_written (sound : custody.Sound) {vault : Vault}
    (owned : custody.owner = some vault) {files : Files} {credential : Credential}
    (holds : files.readText custody.path =
      .ok (Vault.text (vault.remember credential).entries)) :
    Reconciled { custody with files, owner := some (vault.remember credential) } vault.account
      credential := by
  have owns := sound vault owned
  have keyed := owns.keyed_remember credential
  refine ⟨_, rfl, rfl, ?_, holds, fun other => ?_⟩
  · rw [owns.lookup_remember, if_pos rfl]
  · exact Vault.stored_of_contents keyed (Vault.contents_of_readText keyed holds) other

theorem reconciled_of_saved (sound : custody.Sound) {trial : Trial}
    (apart : custody.Apart trial) {account : String} {credential : Credential}
    (saved : (custody.undergo trial).2 = some (.saved account credential)) :
    (custody.undergo trial).1.Reconciled account credential := by
  have how := outcome custody trial
  generalize custody.undergo trial = next at how saved ⊢
  cases how with
  | quiet event =>
      have how := change custody event
      generalize custody.step event = next at how saved ⊢
      cases how with
      | @saved _ _ _ vault _ owned replaced =>
          cases saved
          rw [(sound vault owned).leads] at replaced
          exact reconciled_of_written sound owned (Vault.readText_of_replaced replaced)
      | opened | notOpened | notSaved | loaded | reordered | elsewhere | refused => cases saved
  | @saved _ _ process _ vault _ owned replaced =>
      cases saved
      have attempt := attempt_of_owned sound owned (apart process rfl) replaced
      exact reconciled_of_written sound owned (attempt.readText_of_ok rfl)
  | opened | notOpened | notYetOpened | notSaved | notYetSaved | refused | stopped => cases saved

theorem sameAt_of_notSaved (sound : custody.Sound) {trial : Trial} (apart : custody.Apart trial)
    {error : AuthError} (fails : (custody.undergo trial).2 = some (.notSaved error)) :
    custody.files.SameAt (custody.undergo trial).1.files custody.path := by
  have how := outcome custody trial
  generalize custody.undergo trial = next at how fails ⊢
  cases how with
  | quiet event =>
      have how := change custody event
      generalize custody.step event = next at how fails ⊢
      cases how with
      | @notSaved now process credential vault _ _ owned replaces =>
          have unstruck := Vault.replaceUnder_none custody.files now process vault.path
            (vault.remember credential).entries
          rw [replaces] at unstruck
          have attempt := attempt_of_owned sound owned (apart process rfl) unstruck
          exact attempt.sameAt_of_error rfl
      | opened | notOpened | saved | loaded | reordered | elsewhere | refused => cases fails
  | @notSaved _ _ process _ _ _ _ owned replaces =>
      have attempt := attempt_of_owned sound owned (apart process rfl) replaces
      exact attempt.sameAt_of_error rfl
  | opened | notOpened | notYetOpened | saved | notYetSaved | refused | stopped => cases fails

/-! ## Runs -/

section Runs

variable {path : String} {files : Files} (run : Run undergo (start path files))
  (apart : ∀ n, (run.before n).Apart (run.event n))

theorem path_before_trial (n : Nat) : (run.before n).path = path :=
  run.holds_of_kept (·.path = path) rfl (fun _ same => (undergo_path _ _).trans same) n

include apart

theorem sound_before_trial (n : Nat) : (run.before n).Sound := by
  refine run.holds_of_kept Sound (fun vault owned => ?_) (fun k sound => ?_) n
  · cases owned
  · exact sound_undergo sound (apart k)

theorem sameAt_through_failures {k n : Nat} (le : k ≤ n)
    (fails : ∀ j, k ≤ j → j < n → ∃ error, run.reply j = some (.notSaved error)) :
    (run.before k).files.SameAt (run.before n).files path := by
  induction n, le using Nat.le_induction with
  | base => exact .refl _ _
  | succ n le ih =>
      obtain ⟨error, failed⟩ := fails n le (Nat.lt_succ_self n)
      have kept := ih fun j from_k early => fails j from_k (Nat.lt_succ_of_lt early)
      have same := sameAt_of_notSaved (sound_before_trial run apart n) (apart n) failed
      rw [path_before_trial run n] at same
      exact kept.trans same

/-- What has been saved for an account stands until another save for the account does not fail. -/
theorem stored_since_saved {k n : Nat} {account : String} {credential : Credential} (before : k < n)
    (saved : run.reply k = some (.saved account credential))
    (others : ∀ j, k < j → j < n → ∀ other, (run.before j).Renews (run.event j) account other →
      ∃ error, run.reply j = some (.notSaved error)) :
    (run.before n).stored account = some credential := by
  induction n, Nat.succ_le_of_lt before using Nat.le_induction with
  | base =>
      obtain ⟨vault, -, -, remembered, -, stored⟩ :=
        reconciled_of_saved (sound_before_trial run apart k) (apart k) saved
      exact (stored account).trans remembered
  | succ n after ih =>
      have held := ih after fun j late early => others j late (Nat.lt_succ_of_lt early)
      rcases stored_undergo (sound_before_trial run apart n) (apart n) account with
        same | ⟨other, renews, succeeds, -⟩
      · exact same.trans held
      · obtain ⟨error, failed⟩ := others n after (Nat.lt_succ_self n) other renews
        exact (succeeds error failed).elim

/-- Saving is done as a whole or not at all, whichever step fails and whenever the process stops, as
long as the file is not the temporary file itself.

* An attempt to save, from any tree and any memory, leaves the path as it was or has it hold the
  text of all that is in memory then.  It leaves the path as it was if a failure is told, and the
  text is there if a success is told.  A store that could not be opened afterwards for what the file
  holds could not have been before.
* Whoever is told of a success, after whatever has gone wrong before, owns a file that holds the
  text of all that is in memory.
* Any number of failures leaves the file as it is.
* What has been saved for an account is in the file until another save for the account does not
  fail. -/
theorem saved_as_a_whole :
    (∀ (vault memory : Vault) (tree after : Files) (now : Int) (process : String)
      (credential : Credential) (mishap : Option Vault.Mishap)
      (answer : Option (Except AuthError Unit)),
      Keyed vault.entries → Vault.Apart tree process vault.path →
      vault.saveUnder tree now process credential mishap = (memory, after, answer) →
        memory = vault.remember credential ∧
        (tree.SameAt after vault.path ∨
          after.readText vault.path = .ok (Vault.text memory.entries)) ∧
        (∀ error, answer = some (.error error) → tree.SameAt after vault.path) ∧
        (answer = some (.ok ()) → after.readText vault.path = .ok (Vault.text memory.entries)) ∧
        ∀ later other account detail,
          (Vault.openAt after later other vault.path account).2 =
            .error (.credentialParse detail) →
          (Vault.openAt tree later other vault.path account).2 =
            .error (.credentialParse detail)) ∧
    (∀ n account credential, run.reply n = some (.saved account credential) →
      ∃ vault, (run.before (n + 1)).owner = some vault ∧ vault.account = account ∧
        vault.entries.lookup account = some credential ∧
        (run.before (n + 1)).files.readText path = .ok (Vault.text vault.entries) ∧
        ∀ other, (run.before (n + 1)).stored other = vault.entries.lookup other) ∧
    (∀ k n, k ≤ n → (∀ j, k ≤ j → j < n → ∃ error, run.reply j = some (.notSaved error)) →
      (run.before k).files.SameAt (run.before n).files path) ∧
    ∀ k n account credential, k < n → run.reply k = some (.saved account credential) →
      (∀ j, k < j → j < n → ∀ other, (run.before j).Renews (run.event j) account other →
        ∃ error, run.reply j = some (.notSaved error)) →
      (run.before n).stored account = some credential := by
  refine ⟨?attempts, ?successes, fun _ _ => sameAt_through_failures run apart,
    fun _ _ _ _ => stored_since_saved run apart⟩
  case attempts =>
    intro vault memory tree after now process credential mishap answer keyed apart saves
    have attempt := Vault.attempt_replaceUnder apart now (vault.remember credential).entries mishap
    have known : Keyed (vault.remember credential).entries :=
      Vault.keyed_insert keyed vault.account credential
    rw [Vault.saveUnder_eq] at saves
    generalize Vault.replaceUnder tree now process vault.path (vault.remember credential).entries
      mishap = result at attempt saves
    cases saves
    refine ⟨rfl, ?_, fun error => attempt.sameAt_of_error, attempt.readText_of_ok,
      fun later other account detail => attempt.openable known⟩
    cases attempt with
    | kept same _ => exact .inl same
    | whole holds _ => exact .inr holds
  case successes =>
    intro n account credential saved
    have reconciled := reconciled_of_saved (sound_before_trial run apart n) (apart n) saved
    obtain ⟨vault, owned, serves, remembered, holds, stored⟩ := reconciled
    rw [undergo_path, path_before_trial run n] at holds
    exact ⟨vault, owned, serves, remembered, holds, stored⟩

end Runs

theorem apart_of_plain (files : Files) : Vault.Apart files "1" "secrets.json" := by
  intro temporary location beside leads same
  have named : Files.beside? "secrets.json" (Vault.temporaryName "1") = some ".secrets.tmp.1" := rfl
  cases named.symm.trans beside
  have there : files.locate ".secrets.tmp.1" = .ok [".secrets.tmp.1"] := rfl
  cases there.symm.trans leads
  have other : files.locate "secrets.json" = .ok ["secrets.json"] := rfl
  exact absurd (Except.ok.inj (other.symm.trans same)) (by decide)

def grant (access : String) : Credential := .issue access "rt" "SCOPE_APP_WEB" 0 (.ofSeconds 300)

/-- The first save fails when the temporary file stands ready, and the third one is cut off by a
stop of the process while the temporary file is being written. -/
def failedOnce : List Trial :=
  [.quiet (.openFor 0 "1" "alice"),
    .saveUnder ⟨2, none, some "Input/output error (os error 5)"⟩ 1 "1" (grant "at_1"),
    .quiet (.save 2 "1" (grant "at_2")), .saveUnder ⟨0, some 5, none⟩ 3 "1" (grant "at_3")]

def lifeOfFailure : Run undergo (start "secrets.json" .empty) := .ofList failedOnce .stop

theorem apart_lifeOfFailure (n : Nat) :
    (lifeOfFailure.before n).Apart (lifeOfFailure.event n) := by
  have known : ∀ trial ∈ Trial.stop :: failedOnce, ∀ process, trial.process? = some process →
      process = "1" := by
    simp [failedOnce, Trial.process?, Event.process?]
  intro process writes
  cases known _ (Run.event_ofList_mem failedOnce .stop n) process writes
  rw [path_before_trial]
  exact apart_of_plain _

theorem saved_as_a_whole_failedOnce :
    (∀ n, (lifeOfFailure.before n).Apart (lifeOfFailure.event n)) ∧
    lifeOfFailure.reply 1 = some (.notSaved
      (.io "renaming temp secret file: Input/output error (os error 5)")) ∧
    (lifeOfFailure.before 1).files.SameAt (lifeOfFailure.before 2).files "secrets.json" ∧
    lifeOfFailure.reply 2 = some (.saved "alice" (grant "at_2")) ∧
    (lifeOfFailure.before 3).stored "alice" = some (grant "at_2") ∧
    lifeOfFailure.reply 3 = none := by
  obtain ⟨-, -, unchanged, kept⟩ := saved_as_a_whole lifeOfFailure apart_lifeOfFailure
  have fails : ∀ j, 1 ≤ j → j < 2 → ∃ error, lifeOfFailure.reply j = some (.notSaved error) := by
    intro j from_one early
    obtain rfl : j = 1 := by omega
    exact ⟨_, rfl⟩
  refine ⟨apart_lifeOfFailure, rfl, unchanged 1 2 (by decide) fails, rfl, ?_, rfl⟩
  exact kept 2 3 "alice" (grant "at_2") (by decide) rfl fun j late early => by omega

end Steward.Custody
