import Steward.Credential.Store
import Steward.Proofs.Json.Reading
import Steward.Proofs.Run
/-!
# Credentials as documents

A record is read back from the members it was written to, whatever its texts and instants are.  So
is a vault: what its document holds is what the vault held, if no account stands in the vault twice.
In which order the accounts are written does not matter.
-/

set_option autoImplicit false

namespace Steward

namespace Json

@[simp] theorem members?_record (members : List (String × Json)) :
    (record members).members? = some members := by
  rw [record, members?]
  induction members with
  | nil => rfl
  | cons member members ih =>
      simp [List.mapM_cons, ih, literalText?_encodeLiteral]

end Json

namespace Record

theorem filter_key_of_mem {V : Type} {members : List (String × V)} (keyed : Keyed members)
    {member : String × V} (there : member ∈ members) :
    members.filter (·.1 == member.1) = [member] := by
  obtain ⟨front, back, rfl⟩ := List.append_of_mem there
  rw [Keyed, List.map_append, List.map_cons, List.nodup_append, List.nodup_cons] at keyed
  obtain ⟨-, ⟨notBehind, -⟩, apart⟩ := keyed
  have before : front.filter (·.1 == member.1) = [] := by
    refine List.filter_eq_nil_iff.mpr fun other early same => ?_
    exact apart other.1 (List.mem_map_of_mem early) member.1 List.mem_cons_self (eq_of_beq same)
  have behind : back.filter (·.1 == member.1) = [] := by
    refine List.filter_eq_nil_iff.mpr fun other late same => ?_
    exact notBehind (eq_of_beq same ▸ List.mem_map_of_mem late)
  simp [before, behind]

/-- Fields with names of their own are found under their names. -/
theorem fieldsByName_written {V : Type} {members : List (String × V)} (keyed : Keyed members) :
    fieldsByName (members.map (·.1)) members = some (members.map fun member => some member.2) := by
  have found : ∀ listed, listed ⊆ members → fieldsByName (listed.map (·.1)) members =
      some (listed.map fun member => some member.2) := by
    intro listed within
    induction listed with
    | nil => rfl
    | cons member listed ih =>
        obtain ⟨there, within⟩ := List.cons_subset.mp within
        have others := ih within
        rw [fieldsByName] at others ⊢
        rw [List.map_cons, List.mapM_cons, filter_key_of_mem keyed there, others]
        rfl
  exact found members (List.Subset.refl members)

end Record

namespace Credential

theorem fields?_json (credential : Credential) :
    Record.fields? fieldNames credential.json =
      some [some credential.access.json, some credential.refresh.json,
        some (.ofText credential.scope), some (.ofNat credential.issuedAt.toNat),
        some (.ofNat credential.expiresAt.toNat)] := by
  rw [json, Record.fields?]
  simp only [Document.named?, Json.members?_record]
  exact Record.fieldsByName_written (by decide : fieldNames.Nodup)

@[simp] theorem ofJson?_json (credential : Credential) :
    ofJson? credential.json = some credential := by
  rw [ofJson?, fields?_json]
  simp [Record.required, Secret.json]

theorem sound_json (credential : Credential) : credential.json.Sound := by
  refine Json.sound_record fun member there => ?_
  simp only [List.mem_cons, List.not_mem_nil, or_false] at there
  rcases there with rfl | rfl | rfl | rfl | rfl
  · exact Json.sound_ofText _
  · exact Json.sound_ofText _
  · exact Json.sound_ofText _
  · exact Json.sound_ofNat _
  · exact Json.sound_ofNat _

end Credential

/-! ## Vaults -/

namespace Vault

variable {entries : Entries}

theorem sound_json (entries : Entries) : (json entries).Sound := by
  refine Json.sound_record fun member there => ?_
  obtain ⟨⟨account, credential⟩, -, rfl⟩ := List.mem_map.mp there
  exact credential.sound_json

/-- The text in which the file holds the entries. -/
def text (entries : Entries) : String := (json entries).indented

def ofText? (text : String) : Option Entries := (Json.parse? text).bind ofJson?

theorem keyed_nil : Keyed ([] : Entries) := List.nodup_nil

theorem keyed_insert (keyed : Keyed entries) (account : String) (credential : Credential) :
    Keyed (insert entries account credential) :=
  keyed_placed keyed account credential

theorem lookup_insert (entries : Entries) (account : String) (credential : Credential)
    (other : String) :
    (insert entries account credential).lookup other =
      if other = account then some credential else entries.lookup other :=
  lookup_placed entries account other credential

theorem insert_of_absent {account : String} (absent : account ∉ entries.map (·.1))
    (credential : Credential) :
    insert entries account credential = (account, credential) :: entries := by
  rw [insert, List.filter_eq_self.mpr]
  intro entry there
  refine bne_iff_ne.mpr ?_
  rintro rfl
  exact absent (List.mem_map_of_mem there)

def readMember (entries : Entries) (member : String × Json) : Option Entries :=
  (Credential.ofJson? member.2).map (insert entries member.1)

theorem readMember_json (entries : Entries) (account : String) (credential : Credential) :
    readMember entries (account, credential.json) = some (insert entries account credential) := by
  simp [readMember]

theorem ofJson?_object (members : List (String × Json)) :
    ofJson? (.object members) =
      (Json.object members).members?.bind fun members => members.foldlM readMember [] := by
  refine congrArg (Option.bind _) (funext fun members => ?_)
  refine congrArg (List.foldlM · [] members) (funext fun entries => funext fun member => ?_)
  rw [readMember, Option.map_eq_bind]
  rfl

theorem keyed_of_foldlM {members : List (String × Json)} {start : Entries} (keyed : Keyed start)
    (read : members.foldlM readMember start = some entries) : Keyed entries := by
  induction members generalizing start with
  | nil =>
      cases read
      exact keyed
  | cons member members ih =>
      rw [List.foldlM_cons, readMember] at read
      cases known : Credential.ofJson? member.2 with
      | none =>
          rw [known] at read
          cases read
      | some credential =>
          rw [known] at read
          exact ih (keyed_insert keyed member.1 credential) read

/-- Whatever the document, no account stands twice in what is read from it. -/
theorem keyed_of_ofJson? {document : Json} (read : ofJson? document = some entries) :
    Keyed entries := by
  cases document with
  | object members =>
      rw [ofJson?_object] at read
      obtain ⟨members, -, read⟩ := Option.bind_eq_some_iff.mp read
      exact keyed_of_foldlM keyed_nil read
  | null | boolean | number | string | array => cases read

theorem foldlM_readMember {placed : Entries} (keyed : Keyed (entries ++ placed)) :
    (entries.map fun (account, credential) => (account, credential.json)).foldlM readMember placed =
      some (entries.reverse ++ placed) := by
  induction entries generalizing placed with
  | nil => rfl
  | cons entry entries ih =>
      obtain ⟨account, credential⟩ := entry
      have absent : account ∉ placed.map (·.1) := fun there =>
        (List.nodup_cons.mp keyed).1 (by simpa using Or.inr there)
      have moved : Keyed (entries ++ (account, credential) :: placed) :=
        keyed_of_perm keyed List.perm_middle.symm
      rw [List.map_cons, List.foldlM_cons, readMember_json, insert_of_absent absent]
      exact (ih moved).trans (by simp)

theorem ofJson?_json (keyed : Keyed entries) : ofJson? (json entries) = some entries.reverse := by
  have before : Keyed (entries ++ []) := by rwa [List.append_nil]
  have read := foldlM_readMember before
  rw [List.append_nil] at read
  rw [json, Json.record, ofJson?_object, ← Json.record, Json.members?_record]
  exact read

theorem ofText?_text (keyed : Keyed entries) : ofText? (text entries) = some entries.reverse := by
  rw [ofText?, text, Json.parse?_indented (sound_json entries), Option.bind_some,
    ofJson?_json keyed]

end Vault

end Steward
