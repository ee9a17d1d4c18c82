import Steward.Proofs.Credential.Replacing
/-!
# Opening and saving

A store that has been opened has in memory what the file holds.  From then on it would write back
what the file holds for all accounts but its own, and so it may save.  The memory of its own account
is ahead of the file where a save has failed.
-/

set_option autoImplicit false

namespace Steward.Vault

variable {files after : Files} {now : Int} {process path account : String} {entries : Entries}
  {vault : Vault}

theorem openAt_of_contents (held : contents files path = some entries) :
    openAt files now process path account = (files, .ok ⟨path, account, entries⟩) := by
  obtain ⟨text, readable, read⟩ := contents_eq_some_iff.mp held
  have known : (Json.parse? text).bind ofJson? = some entries := read
  simp only [openAt, if_pos (Files.holds_of_readText readable), readable, known]

/-- How an opening may go, with the tree that it leaves and its answer. -/
inductive Opening (files : Files) (now : Int) (process path account : String) :
    Files → Except AuthError Vault → Prop where
  | found {entries : Entries} (held : contents files path = some entries) :
      Opening files now process path account files (.ok ⟨path, account, entries⟩)
  | unreadable {error : FileError} (there : files.holds path = true)
      (fails : files.readText path = .error error) :
      Opening files now process path account files
        (.error (.io ("reading secret store: " ++ error.message)))
  | malformed {text : String} (readable : files.readText path = .ok text)
      (unread : ofText? text = none) :
      Opening files now process path account files
        (.error (.credentialParse "parsing secret store"))
  | created {after : Files} (absent : files.holds path = false)
      (replaced : replace files now process path [] = (after, .ok ())) :
      Opening files now process path account after (.ok ⟨path, account, []⟩)
  | notCreated {after : Files} {error : AuthError} (absent : files.holds path = false)
      (fails : replace files now process path [] = (after, .error error)) :
      Opening files now process path account after (.error error)

theorem opening (files : Files) (now : Int) (process path account : String) :
    Opening files now process path account (openAt files now process path account).1
      (openAt files now process path account).2 := by
  rw [openAt]
  split
  · next there =>
      cases readable : files.readText path with
      | error error => exact .unreadable there readable
      | ok text =>
          cases read : (Json.parse? text).bind ofJson? with
          | none =>
              simp only [read]
              exact .malformed readable read
          | some entries =>
              simp only [read]
              exact .found (contents_eq_some_iff.mpr ⟨text, readable, read⟩)
  · next absent =>
      have absent := (Bool.not_eq_true _).mp absent
      cases replaces : replace files now process path [] with
      | mk left answer =>
          cases answer with
          | ok => exact .created absent replaces
          | error error => exact .notCreated absent replaces

theorem stored_of_absent (absent : files.holds path = false) (account : String) :
    stored files path account = none := by
  cases held : contents files path with
  | none => rw [stored, held, Option.bind_none]
  | some entries =>
      obtain ⟨text, readable, -⟩ := contents_eq_some_iff.mp held
      cases absent.symm.trans (Files.holds_of_readText readable)

theorem openAt_eq_ok (opened : openAt files now process path account = (after, .ok vault)) :
    vault.path = path ∧ vault.account = account ∧ contents after path = some vault.entries ∧
      ∀ other, stored after path other = stored files path other := by
  have how := opening files now process path account
  rw [opened] at how
  cases how with
  | found held => exact ⟨rfl, rfl, held, fun other => rfl⟩
  | created absent replaced =>
      have empty := contents_of_replaced keyed_nil replaced
      refine ⟨rfl, rfl, empty, fun other => ?_⟩
      rw [stored_of_absent absent, stored, empty]
      rfl

theorem openAt_eq_error {error : AuthError}
    (fails : openAt files now process path account = (after, .error error)) :
    contents after path = contents files path := by
  have how := opening files now process path account
  rw [fails] at how
  cases how with
  | unreadable | malformed => rfl
  | notCreated absent fails => exact contents_of_not_replaced fails

/-- The store may save to the file: it would write back what the file holds, but for the credential
of its own account. -/
structure Owns (vault : Vault) (files : Files) (path : String) : Prop where
  leads : vault.path = path
  keyed : Keyed vault.entries
  readable : ∃ held, contents files path = some held
  others : ∀ other, other ≠ vault.account →
    vault.entries.lookup other = stored files path other

theorem owns_of_openAt (opened : openAt files now process path account = (after, .ok vault)) :
    vault.Owns after path := by
  obtain ⟨leads, -, held, -⟩ := openAt_eq_ok opened
  refine ⟨leads, keyed_of_contents held, ⟨_, held⟩, fun other _ => ?_⟩
  rw [stored, held, Option.bind_some]

/-- The store with the credential in memory, as saving leaves it whether or not it succeeds. -/
def remember (vault : Vault) (credential : Credential) : Vault :=
  { vault with entries := insert vault.entries vault.account credential }

section Save

variable {credential : Credential}

theorem stored_of_contents (keyed : Keyed entries)
    (held : contents after path = some entries.reverse) (other : String) :
    stored after path other = entries.lookup other := by
  rw [stored, held, Option.bind_some]
  exact lookup_of_perm keyed entries.reverse_perm.symm other

theorem stored_of_replaced (keyed : Keyed entries)
    (replaced : replace files now process path entries = (after, .ok ())) (other : String) :
    stored after path other = entries.lookup other :=
  stored_of_contents keyed (contents_of_replaced keyed replaced) other

theorem Owns.keyed_remember (owns : vault.Owns files path) (credential : Credential) :
    Keyed (vault.remember credential).entries :=
  keyed_insert owns.keyed vault.account credential

theorem Owns.lookup_remember (owns : vault.Owns files path) (other : String) :
    (vault.remember credential).entries.lookup other =
      if other = vault.account then some credential else stored files path other := by
  rw [remember, lookup_insert]
  split
  · rfl
  · next apart => exact owns.others other apart

theorem Owns.stored_of_written (owns : vault.Owns files path)
    (held : contents after path = some (vault.remember credential).entries.reverse)
    (other : String) :
    stored after path other =
      if other = vault.account then some credential else stored files path other := by
  rw [stored_of_contents (owns.keyed_remember credential) held, owns.lookup_remember]

theorem Owns.stored_of_saved (owns : vault.Owns files path)
    (saved : replace files now process path (vault.remember credential).entries = (after, .ok ()))
    (other : String) :
    stored after path other =
      if other = vault.account then some credential else stored files path other :=
  owns.stored_of_written (contents_of_replaced (owns.keyed_remember credential) saved) other

theorem Owns.written (owns : vault.Owns files path)
    (held : contents after path = some (vault.remember credential).entries.reverse) :
    (vault.remember credential).Owns after path :=
  ⟨owns.leads, owns.keyed_remember credential, ⟨_, held⟩,
    fun other _ => (stored_of_contents (owns.keyed_remember credential) held other).symm⟩

theorem Owns.unwritten (owns : vault.Owns files path)
    (same : contents after path = contents files path) :
    (vault.remember credential).Owns after path := by
  refine ⟨owns.leads, owns.keyed_remember credential, same ▸ owns.readable,
    fun other apart => ?_⟩
  rw [stored_congr same, owns.lookup_remember]
  exact if_neg apart

theorem Owns.saved (owns : vault.Owns files path)
    (saved : replace files now process path (vault.remember credential).entries =
      (after, .ok ())) : (vault.remember credential).Owns after path :=
  owns.written (contents_of_replaced (owns.keyed_remember credential) saved)

theorem Owns.notSaved (owns : vault.Owns files path) {error : AuthError}
    (fails : replace files now process path (vault.remember credential).entries =
      (after, .error error)) : (vault.remember credential).Owns after path :=
  owns.unwritten (contents_of_not_replaced fails)

theorem Owns.reordered (owns : vault.Owns files path) (same : vault.entries.Perm entries) :
    ({ vault with entries } : Vault).Owns files path := by
  refine ⟨owns.leads, keyed_of_perm owns.keyed same, owns.readable, fun other apart => ?_⟩
  exact (lookup_of_perm owns.keyed same other).trans (owns.others other apart)

theorem Owns.elsewhere (owns : vault.Owns files path)
    (same : contents after path = contents files path) : vault.Owns after path :=
  ⟨owns.leads, owns.keyed, same ▸ owns.readable,
    fun other apart => (owns.others other apart).trans (stored_congr same).symm⟩

end Save

end Steward.Vault
