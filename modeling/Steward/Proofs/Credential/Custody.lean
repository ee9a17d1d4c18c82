import Steward.Proofs.Credential.Ownership
/-!
# The file in the hands of its owner

One store at a time owns the file of a vault: it is opened for an account, saves and loads, and
gives way to the store that is opened next.  What the file holds for an account is what was last
saved for it, however often a save or an opening has failed since, and whatever was saved for other
accounts.
-/

set_option autoImplicit false

namespace Steward

/-- A file and the store that owns it. -/
structure Custody where
  path : String
  files : Files
  owner : Option Vault

namespace Custody

/-- A store that is opened for an account takes the file over from the one before.  A map has no
order, so what is in memory may stand in any order when it is written next, and others may change
anything in the tree but the text in the file. -/
inductive Event where
  | openFor (now : Int) (process account : String)
  | save (now : Int) (process : String) (credential : Credential)
  | load
  | reorder (entries : Vault.Entries)
  | elsewhere (files : Files)

inductive Reply where
  | opened (account : String)
  | notOpened (error : AuthError)
  | saved (account : String) (credential : Credential)
  | notSaved (error : AuthError)
  | loaded (credential : Option Credential)
  | done
  | refused

def start (path : String) (files : Files) : Custody := ⟨path, files, none⟩

def step (custody : Custody) : Event → Custody × Reply
  | .openFor now process account =>
    match Vault.openAt custody.files now process custody.path account with
    | (files, .ok vault) => ({ custody with files, owner := some vault }, .opened account)
    | (files, .error error) => ({ custody with files, owner := none }, .notOpened error)
  | .save now process credential =>
    match custody.owner with
    | none => (custody, .refused)
    | some vault =>
      match vault.save custody.files now process credential with
      | (vault, files, .ok ()) =>
        ({ custody with files, owner := some vault }, .saved vault.account credential)
      | (vault, files, .error error) =>
        ({ custody with files, owner := some vault }, .notSaved error)
  | .load =>
    match custody.owner with
    | none => (custody, .refused)
    | some vault => (custody, .loaded vault.load)
  | .reorder entries =>
    match custody.owner with
    | none => (custody, .refused)
    | some vault =>
      if vault.entries.Perm entries then
        ({ custody with owner := some { vault with entries } }, .done)
      else (custody, .refused)
  | .elsewhere files =>
    if (files.readText custody.path).toOption = (custody.files.readText custody.path).toOption then
      ({ custody with files }, .done)
    else (custody, .refused)

def stored (custody : Custody) (account : String) : Option Credential :=
  Vault.stored custody.files custody.path account

def Reply.saves (account : String) : Reply → Option Credential
  | .saved owner credential => if account = owner then some credential else none
  | _ => none

theorem Reply.saves_eq_none {account : String} {reply : Reply}
    (other : ∀ credential, reply ≠ .saved account credential) : reply.saves account = none := by
  cases reply with
  | saved owner credential =>
      rw [Reply.saves, if_neg]
      rintro rfl
      exact other credential rfl
  | opened | notOpened | notSaved | loaded | done | refused => rfl

def Sound (custody : Custody) : Prop :=
  ∀ vault, custody.owner = some vault → vault.Owns custody.files custody.path

inductive Change (custody : Custody) : Event → Custody × Reply → Prop where
  | opened {now : Int} {process account : String} {files : Files} {vault : Vault}
      (opens : Vault.openAt custody.files now process custody.path account = (files, .ok vault)) :
      Change custody (.openFor now process account)
        ({ custody with files, owner := some vault }, .opened account)
  | notOpened {now : Int} {process account : String} {files : Files} {error : AuthError}
      (fails : Vault.openAt custody.files now process custody.path account =
        (files, .error error)) :
      Change custody (.openFor now process account)
        ({ custody with files, owner := none }, .notOpened error)
  | saved {now : Int} {process : String} {credential : Credential} {vault : Vault} {files : Files}
      (owned : custody.owner = some vault)
      (replaced : Vault.replace custody.files now process vault.path
        (vault.remember credential).entries = (files, .ok ())) :
      Change custody (.save now process credential)
        ({ custody with files, owner := some (vault.remember credential) },
          .saved vault.account credential)
  | notSaved {now : Int} {process : String} {credential : Credential} {vault : Vault}
      {files : Files} {error : AuthError} (owned : custody.owner = some vault)
      (fails : Vault.replace custody.files now process vault.path
        (vault.remember credential).entries = (files, .error error)) :
      Change custody (.save now process credential)
        ({ custody with files, owner := some (vault.remember credential) }, .notSaved error)
  | loaded {vault : Vault} (owned : custody.owner = some vault) :
      Change custody .load (custody, .loaded vault.load)
  | reordered {vault : Vault} {entries : Vault.Entries} (owned : custody.owner = some vault)
      (same : vault.entries.Perm entries) :
      Change custody (.reorder entries)
        ({ custody with owner := some { vault with entries } }, .done)
  | elsewhere {files : Files} (same : (files.readText custody.path).toOption =
        (custody.files.readText custody.path).toOption) :
      Change custody (.elsewhere files) ({ custody with files }, .done)
  | refused {event : Event} : Change custody event (custody, .refused)

theorem change (custody : Custody) (event : Event) :
    Change custody event (custody.step event) := by
  cases event with
  | openFor now process account =>
      rw [step]
      split
      · next opens => exact .opened opens
      · next fails => exact .notOpened fails
  | save now process credential =>
      rw [step]
      cases owned : custody.owner with
      | none => exact .refused
      | some vault =>
          simp only [Vault.save]
          cases replaces : Vault.replace custody.files now process vault.path
            (Vault.insert vault.entries vault.account credential) with
          | mk files answer =>
              cases answer with
              | ok => exact .saved owned replaces
              | error error => exact .notSaved owned replaces
  | load =>
      rw [step]
      cases owned : custody.owner with
      | none => exact .refused
      | some vault => exact .loaded owned
  | reorder entries =>
      rw [step]
      cases owned : custody.owner with
      | none => exact .refused
      | some vault =>
          by_cases same : vault.entries.Perm entries
          · simp only [if_pos same]
            exact .reordered owned same
          · simp only [if_neg same]
            exact .refused
  | elsewhere files =>
      rw [step]
      split
      · next same => exact .elsewhere same
      · exact .refused

variable {custody : Custody}

theorem step_path (custody : Custody) (event : Event) :
    (custody.step event).1.path = custody.path := by
  have how := change custody event
  generalize custody.step event = next at how ⊢
  cases how <;> rfl

theorem sound_step (sound : custody.Sound) (event : Event) : (custody.step event).1.Sound := by
  have how := change custody event
  generalize custody.step event = next at how ⊢
  intro vault owned
  cases how with
  | opened opens =>
      cases owned
      exact Vault.owns_of_openAt opens
  | notOpened => cases owned
  | @saved _ _ _ vault _ owner replaced =>
      cases owned
      have owns := sound vault owner
      exact owns.saved (owns.leads ▸ replaced)
  | @notSaved _ _ _ vault _ _ owner fails =>
      cases owned
      have owns := sound vault owner
      exact owns.notSaved (owns.leads ▸ fails)
  | loaded => exact sound vault owned
  | @reordered vault entries owner same =>
      cases owned
      exact (sound vault owner).reordered same
  | elsewhere same => exact (sound vault owned).elsewhere (Vault.contents_congr same)
  | refused => exact sound vault owned

/-- An event that saves changes what the file holds for that one account, and no other event changes
what it holds. -/
theorem stored_step (sound : custody.Sound) (event : Event) (account : String) :
    (custody.step event).1.stored account =
      ((custody.step event).2.saves account).or (custody.stored account) := by
  have how := change custody event
  generalize custody.step event = next at how ⊢
  cases how with
  | opened opens => exact (Vault.openAt_eq_ok opens).2.2.2 account
  | notOpened fails => exact Vault.stored_congr (Vault.openAt_eq_error fails)
  | @saved _ _ credential vault files owner replaced =>
      have owns := sound vault owner
      refine (owns.stored_of_saved (owns.leads ▸ replaced) account).trans ?_
      simp only [Reply.saves]
      split <;> rfl
  | @notSaved _ _ _ vault _ _ owner fails =>
      have owns := sound vault owner
      have same := Vault.contents_of_not_replaced (owns.leads ▸ fails)
      exact Vault.stored_congr same
  | loaded | reordered | refused => rfl
  | elsewhere same => exact Vault.stored_congr (Vault.contents_congr same)

def Reply.Establishes : Reply → Prop
  | .opened _ | .saved .. => True
  | _ => False

/-- The file has entries once a store has been opened or has saved, and never loses all of them. -/
theorem readable_step (sound : custody.Sound) (event : Event)
    (established : (∃ held, Vault.contents custody.files custody.path = some held) ∨
      (custody.step event).2.Establishes) :
    ∃ held, Vault.contents (custody.step event).1.files (custody.step event).1.path =
      some held := by
  have how := change custody event
  generalize custody.step event = next at how established ⊢
  cases how with
  | opened opens => exact ⟨_, (Vault.openAt_eq_ok opens).2.2.1⟩
  | @saved _ _ _ vault _ owner replaced =>
      have owns := sound vault owner
      exact (owns.saved (owns.leads ▸ replaced)).readable
  | notOpened fails =>
      rw [Vault.openAt_eq_error fails]
      exact established.resolve_right id
  | @notSaved _ _ _ vault _ _ owner fails =>
      have owns := sound vault owner
      exact (owns.notSaved (owns.leads ▸ fails)).readable
  | elsewhere same =>
      rw [Vault.contents_congr same]
      exact established.resolve_right id
  | loaded | reordered | refused => exact established.resolve_right id

theorem openFor_of_readable {held : Vault.Entries}
    (readable : Vault.contents custody.files custody.path = some held) (now : Int)
    (process account : String) :
    (custody.step (.openFor now process account)).2 = .opened account := by
  simp only [step, Vault.openAt_of_contents readable]

theorem save_iff (sound : custody.Sound) {vault : Vault} (owned : custody.owner = some vault)
    (now : Int) (process : String) (credential : Credential) :
    (custody.step (.save now process credential)).2 = .saved vault.account credential ↔
      ∃ temporary written,
        Files.beside? custody.path (Vault.temporaryName process) = some temporary ∧
          custody.files.write temporary (Utf8.encode (Vault.text
            (Vault.insert vault.entries vault.account credential))) now = .ok written := by
  have owns := sound vault owned
  obtain ⟨held, known⟩ := owns.readable
  obtain ⟨_, readable, -⟩ := Vault.contents_eq_some_iff.mp known
  rw [← Vault.replace_isOk_iff readable]
  simp only [step, owned, Vault.save, owns.leads]
  cases replaces : Vault.replace custody.files now process custody.path
    (Vault.insert vault.entries vault.account credential) with
  | mk files answer => cases answer <;> simp

def Mirrors (custody : Custody) (account : String) : Prop :=
  ∃ vault, custody.owner = some vault ∧ vault.account = account ∧
    ∀ other, vault.entries.lookup other = custody.stored other

theorem mirrors_of_opened {event : Event} {account : String}
    (opened : (custody.step event).2 = .opened account) :
    (custody.step event).1.Mirrors account := by
  have how := change custody event
  generalize custody.step event = next at how opened ⊢
  cases how with
  | @opened _ _ _ _ vault opens =>
      cases opened
      obtain ⟨-, serves, held, -⟩ := Vault.openAt_eq_ok opens
      refine ⟨vault, rfl, serves, fun other => ?_⟩
      rw [stored, Vault.stored, held, Option.bind_some]
  | notOpened | saved | notSaved | loaded | reordered | elsewhere | refused => cases opened

theorem mirrors_step (sound : custody.Sound) {event : Event} {account : String}
    (mirrors : custody.Mirrors account)
    (remains : ∀ now process other, event ≠ .openFor now process other)
    (succeeds : ∀ error, (custody.step event).2 ≠ .notSaved error) :
    (custody.step event).1.Mirrors account := by
  have how := change custody event
  generalize custody.step event = next at how succeeds ⊢
  obtain ⟨vault, owned, serves, same⟩ := mirrors
  cases how with
  | opened | notOpened => exact (remains _ _ _ rfl).elim
  | @saved _ _ _ _ _ owner replaced =>
      cases owned.symm.trans owner
      have owns := sound vault owned
      have keyed := owns.keyed_remember
      refine ⟨_, rfl, serves, fun other => ?_⟩
      exact (Vault.stored_of_replaced (keyed _) (owns.leads ▸ replaced) other).symm
  | notSaved => exact (succeeds _ rfl).elim
  | loaded => exact ⟨vault, owned, serves, same⟩
  | @reordered _ entries owner order =>
      cases owned.symm.trans owner
      refine ⟨_, rfl, serves, fun other => ?_⟩
      exact (lookup_of_perm (sound vault owned).keyed order other).trans (same other)
  | elsewhere kept =>
      refine ⟨vault, owned, serves, fun other => ?_⟩
      exact (same other).trans (Vault.stored_congr (Vault.contents_congr kept)).symm
  | refused => exact ⟨vault, owned, serves, same⟩

theorem load_of_mirrors {account : String} (mirrors : custody.Mirrors account) :
    (custody.step .load).2 = .loaded (custody.stored account) := by
  obtain ⟨vault, owned, serves, same⟩ := mirrors
  simp only [step, owned, Vault.load, serves, same]

/-! ## Runs -/

section Runs

variable {path : String} {files : Files} (run : Run step (start path files))

theorem sound_before (n : Nat) : (run.before n).Sound := by
  refine run.holds_of_kept Sound (fun vault owned => ?_) (fun _ sound => sound_step sound _) n
  cases owned

theorem path_before (n : Nat) : (run.before n).path = path :=
  run.holds_of_kept (·.path = path) rfl (fun _ same => (step_path _ _).trans same) n

theorem stored_before_succ (n : Nat) (account : String) :
    (run.before (n + 1)).stored account =
      ((run.reply n).saves account).or ((run.before n).stored account) :=
  stored_step (sound_before run n) (run.event n) account

theorem stored_unchanged {k n : Nat} (le : k ≤ n) {account : String}
    (others : ∀ j, k ≤ j → j < n → ∀ credential, run.reply j ≠ .saved account credential) :
    (run.before n).stored account = (run.before k).stored account := by
  induction n, le using Nat.le_induction with
  | base => rfl
  | succ n le ih =>
      have none := Reply.saves_eq_none (others n le (Nat.lt_succ_self n))
      rw [stored_before_succ, none, Option.none_or]
      exact ih fun j from_k early => others j from_k (Nat.lt_succ_of_lt early)

theorem stored_of_last_saved {k n : Nat} (before : k < n) {account : String}
    {credential : Credential} (saved : run.reply k = .saved account credential)
    (last : ∀ j, k < j → j < n → ∀ other, run.reply j ≠ .saved account other) :
    (run.before n).stored account = some credential := by
  rw [stored_unchanged run before last, stored_before_succ, saved, Reply.saves, if_pos rfl]
  rfl

theorem mirrors_before {n m : Nat} (before : n < m) {account : String}
    (opened : run.reply n = .opened account)
    (remains : ∀ j, n < j → j < m →
      (∀ now process other, run.event j ≠ .openFor now process other) ∧
        ∀ error, run.reply j ≠ .notSaved error) : (run.before m).Mirrors account := by
  induction m, Nat.succ_le_of_lt before using Nat.le_induction with
  | base => exact mirrors_of_opened opened
  | succ m after ih =>
      obtain ⟨stays, succeeds⟩ := remains m after (Nat.lt_succ_self m)
      refine mirrors_step (sound_before run m) (ih after ?_) stays succeeds
      exact fun j late early => remains j late (Nat.lt_succ_of_lt early)

theorem readable_before {k n : Nat} (before : k < n) (established : (run.reply k).Establishes) :
    ∃ held, Vault.contents (run.before n).files (run.before n).path = some held := by
  induction n, Nat.succ_le_of_lt before using Nat.le_induction with
  | base => exact readable_step (sound_before run k) (run.event k) (.inr established)
  | succ n after ih => exact readable_step (sound_before run n) (run.event n) (.inl (ih after))

/-- What is saved is kept.  The text that entries are written to denotes them again, in whatever
order they are written, and a replacement that succeeds leaves this text in the file.  Once a store
has been opened or has saved, the file can be opened for any account.  A store that has been opened
loads the credential that was saved last for its account, by itself or before it, or what the file
held at the start if none was.  Only saving for an account changes what the file holds for it.  And
to save, a store needs no more than to write its temporary file. -/
theorem keeps_what_is_saved :
    (∀ entries written : Vault.Entries, Keyed entries → entries.Perm written →
      ∃ read, Vault.ofText? (Vault.text written) = some read ∧ read.Perm entries ∧
        ∀ account, read.lookup account = entries.lookup account) ∧
    (∀ (tree after : Files) (now : Int) (process target : String) (entries : Vault.Entries),
      Vault.replace tree now process target entries = (after, .ok ()) →
        after.readText target = .ok (Vault.text entries)) ∧
    (∀ k n now process account, k < n →
      (∃ other, run.reply k = .opened other) ∨
        (∃ other credential, run.reply k = .saved other credential) →
      run.event n = .openFor now process account → run.reply n = .opened account) ∧
    (∀ n m account, n < m → run.reply n = .opened account → run.event m = .load →
      (∀ j, n < j → j < m → (∀ now process other, run.event j ≠ .openFor now process other) ∧
        ∀ error, run.reply j ≠ .notSaved error) →
      (∀ k credential, k < m → run.reply k = .saved account credential →
        (∀ j, k < j → j < m → ∀ other, run.reply j ≠ .saved account other) →
        run.reply m = .loaded (some credential)) ∧
      ((∀ j, j < m → ∀ other, run.reply j ≠ .saved account other) →
        run.reply m = .loaded (Vault.stored files path account))) ∧
    (∀ n account, (∀ credential, run.reply n ≠ .saved account credential) →
      (run.before (n + 1)).stored account = (run.before n).stored account) ∧
    (∀ n vault now process credential, (run.before n).owner = some vault →
      run.event n = .save now process credential →
      (run.reply n = .saved vault.account credential ↔
        ∃ temporary written, Files.beside? path (Vault.temporaryName process) = some temporary ∧
          (run.before n).files.write temporary (Utf8.encode (Vault.text
            (Vault.insert vault.entries vault.account credential))) now = .ok written)) := by
  refine ⟨?roundTrip, fun _ _ _ _ _ _ => Vault.readText_of_replaced, ?opens, ?loads, ?keeps,
    ?saves⟩
  case roundTrip =>
    intro entries written keyed order
    have same : written.reverse.Perm entries := written.reverse_perm.trans order.symm
    exact ⟨_, Vault.ofText?_text (keyed_of_perm keyed order), same,
      lookup_of_perm keyed same.symm⟩
  case opens =>
    intro k n now process account before succeeded opens
    have established : (run.reply k).Establishes := by
      rcases succeeded with ⟨_, opened⟩ | ⟨_, _, saved⟩
      · rw [opened]
        trivial
      · rw [saved]
        trivial
    obtain ⟨held, readable⟩ := readable_before run before established
    rw [Run.reply, opens]
    exact openFor_of_readable readable now process account
  case loads =>
    intro n m account before opened loads remains
    have loaded : run.reply m = .loaded ((run.before m).stored account) := by
      rw [Run.reply, loads]
      exact load_of_mirrors (mirrors_before run before opened remains)
    constructor
    · intro k credential early saved last
      rw [loaded, stored_of_last_saved run early saved last]
    · intro never
      rw [loaded, stored_unchanged run (Nat.zero_le m) fun j _ => never j]
      rfl
  case keeps =>
    intro n account other
    rw [stored_before_succ, Reply.saves_eq_none other, Option.none_or]
  case saves =>
    intro n vault now process credential owned saves
    rw [Run.reply, saves]
    have succeeds := save_iff (sound_before run n) owned now process credential
    rwa [path_before] at succeeds

end Runs

end Custody

end Steward
