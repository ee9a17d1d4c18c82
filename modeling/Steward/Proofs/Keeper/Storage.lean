import Steward.Credential.Store
import Steward.Proofs.Keeper.Restoring
/-!
# What the secret store holds

A keeper takes over a new credential only after the secret store was told to hold it, and takes
over what the secret store holds at most once, before anything else.  So as long as saving goes
well, the two agree whenever nobody is inside, but for one case: a call that is given up between
its save and the takeover leaves the secret store ahead of the keeper.

Nothing is assumed of a secret store but that it answers what it holds, changes only while it is
told to save, and holds what was saved unless that failed.  A save that has failed, or that was
given up, may have left anything.
-/

set_option autoImplicit false

namespace Steward.Keeper

variable {window : RefreshWindow}

def Saving (keeper : Keeper) : Prop :=
  ∃ call fresh, keeper.stage? call = some (.saving fresh)

/-- A credential has been saved and is about to be taken over. -/
def Installing (keeper : Keeper) (fresh : Credential) : Prop :=
  ∃ call, keeper.stage? call = some (.installing fresh)

/-- The life of a keeper beside a secret store, which holds `content n` when event number `n`
comes. -/
structure Backing (life : Life window) (content : Nat → Option Credential) : Prop where
  told : ∀ n call forced stored, life.event n = .loaded call (.ok stored) →
    (life.before n).stage? call = some (.loading forced) → stored = content n
  steady : ∀ n, ¬ Saving (life.before n) → content (n + 1) = content n
  saved : ∀ n call fresh, life.event n = .saved call (.ok ()) →
    (life.before n).stage? call = some (.saving fresh) → content (n + 1) = some fresh

/-- No save has failed or was given up before event number `j` comes. -/
def SavesAll (life : Life window) (j : Nat) : Prop :=
  ∀ n < j, ∀ call fresh, (life.before n).stage? call = some (.saving fresh) →
    life.event n ≠ .drop call ∧ ∀ error, life.event n ≠ .saved call (.error error)

/-- Before event number `j` comes, a call was given up that had saved `fresh` and had not taken it
over, and nothing has been saved since. -/
def LeftBehind (life : Life window) (j : Nat) (fresh : Credential) : Prop :=
  ∃ n < j, (∃ call, life.event n = .drop call ∧
    (life.before n).stage? call = some (.installing fresh)) ∧
      ∀ k, n < k → k < j → ¬ Saving (life.before k)

/-! ## Vaults -/

theorem load_save (vault : Vault) (files : Files) (now : Int) (process : String)
    (credential : Credential) :
    (vault.save files now process credential).1.load = some credential := by
  simp [Vault.save, Vault.load, Vault.insert]

/-- A vault is a secret store.  It holds what it was told to save even if the file could not be
written. -/
theorem Backing.of_vault {life : Life window} (vault : Nat → Vault)
    (told : ∀ n call forced stored, life.event n = .loaded call (.ok stored) →
      (life.before n).stage? call = some (.loading forced) → stored = (vault n).load)
    (steady : ∀ n, ¬ Saving (life.before n) → vault (n + 1) = vault n)
    (saved : ∀ n call fresh result, life.event n = .saved call result →
      (life.before n).stage? call = some (.saving fresh) →
        ∃ files now process, vault (n + 1) = ((vault n).save files now process fresh).1 ∧
          result = ((vault n).save files now process fresh).2.2) :
    Backing life fun n => (vault n).load := by
  refine ⟨told, fun n idle => congrArg Vault.load (steady n idle), ?_⟩
  intro n call fresh event found
  obtain ⟨files, now, process, vaults, -⟩ := saved n call fresh _ event found
  rw [vaults]
  exact load_save (vault n) files now process fresh

/-! ## Agreement -/

theorem saved_of_saving {keeper next : Keeper} {event : Event} {reply : Reply} {call : Nat}
    {fresh : Credential} (change : Change keeper event next reply)
    (found : keeper.stage? call = some (.saving fresh)) (done : ¬ Saving next) :
    (∃ result, event = .saved call result) ∧ Installing next fresh ∨ event = .drop call := by
  by_cases own : event.call = call
  · have moves := moves_of_change change own found
    generalize later : next.stage? call = after at moves
    subst own
    cases moves with
    | refused => exact absurd ⟨_, _, later⟩ done
    | saved => exact .inl ⟨⟨_, rfl⟩, _, later⟩
    | withdrew => exact .inr rfl
    | interrupted => exact .inr rfl
  · exact absurd ⟨call, fresh, (stage?_of_other change own).trans found⟩ done

theorem installed_of_installing {keeper next : Keeper} {event : Event} {reply : Reply}
    {fresh : Credential} (change : Change keeper event next reply)
    (installing : Installing keeper fresh) :
    Installing next fresh ∨ (∃ number, next.current = some ⟨number, fresh⟩) ∨
      ∃ call, event = .drop call ∧ keeper.stage? call = some (.installing fresh) := by
  obtain ⟨call, found⟩ := installing
  by_cases own : event.call = call
  · have moves := moves_of_change change own found
    generalize later : next.stage? call = after at moves
    subst own
    cases moves with
    | refused => exact .inl ⟨_, later⟩
    | installed =>
        cases change with
        | installed before =>
            cases found.symm.trans before
            exact .inr (.inl ⟨_, rfl⟩)
    | withdrew outside => cases outside
    | interrupted => exact .inr (.inr ⟨_, rfl, found⟩)
  · exact .inl ⟨call, (stage?_of_other change own).trans found⟩

theorem current_of_uninstalling {keeper next : Keeper} {event : Event} {reply : Reply}
    {held : Held} (change : Change keeper event next reply)
    (idle : ∀ fresh, ¬ Installing keeper fresh) (present : next.current = some held) :
    keeper.current = some held ∨
      ∃ call forced, event = .loaded call (.ok (some held.credential)) ∧
        keeper.stage? call = some (.loading forced) := by
  cases change with
  | restored stage =>
      cases present
      exact .inr ⟨_, _, rfl, stage⟩
  | discarded => cases present
  | installed stage => exact absurd ⟨_, stage⟩ (idle _)
  | _ => exact .inl present

theorem installing_before {keeper next : Keeper} {event : Event} {reply : Reply}
    {fresh : Credential} (change : Change keeper event next reply)
    (installing : Installing next fresh) :
    Installing keeper fresh ∨ ∃ call result, event = .saved call result ∧
      keeper.stage? call = some (.saving fresh) := by
  obtain ⟨call, found⟩ := installing
  cases before : keeper.stage? call with
  | none =>
      rcases begins_of_change change before found with ⟨_, impossible⟩ | ⟨_, _, impossible⟩
      · cases impossible
      · cases impossible
  | some stage =>
      rcases moves_or_stays change before found with ⟨own, moves⟩ | rfl
      · cases moves with
        | refused => exact .inl ⟨call, before⟩
        | saved =>
            cases own
            exact .inr ⟨_, _, rfl, before⟩
      · exact .inl ⟨call, before⟩

theorem not_saving_of_installing {keeper : Keeper} {fresh : Credential} (orderly : Orderly keeper)
    (installing : Installing keeper fresh) : ¬ Saving keeper := by
  obtain ⟨call, found⟩ := installing
  rintro ⟨other, beside, saving⟩
  obtain rfl := orderly.inside_unique found rfl saving rfl
  cases found.symm.trans saving

/-- The secret store holds what is about to be taken over.  Otherwise, and unless something is being
saved, it holds the current credential or what a call has left behind. -/
structure Agrees (life : Life window) (content : Nat → Option Credential) (j : Nat) : Prop where
  ahead : ∀ fresh, Installing (life.before j) fresh → content j = some fresh
  settled : ¬ Saving (life.before j) → (∀ fresh, ¬ Installing (life.before j) fresh) →
    ∀ held, (life.before j).current = some held →
      ∃ stored, content j = some stored ∧ (stored = held.credential ∨ LeftBehind life j stored)

theorem LeftBehind.succ {life : Life window} {j : Nat} {fresh : Credential}
    (left : LeftBehind life j fresh) (idle : ¬ Saving (life.before j)) :
    LeftBehind life (j + 1) fresh := by
  obtain ⟨n, earlier, dropped, unsaved⟩ := left
  refine ⟨n, Nat.lt_succ_of_lt earlier, dropped, fun k after before => ?_⟩
  rcases Nat.lt_succ_iff_lt_or_eq.mp before with below | rfl
  · exact unsaved k after below
  · exact idle

section Step

variable {life : Life window} {content : Nat → Option Credential} {j : Nat}

theorem ahead_succ (backing : Backing life content) (saves : SavesAll life (j + 1))
    (agrees : Agrees life content j) {fresh : Credential}
    (installing : Installing (life.before (j + 1)) fresh) : content (j + 1) = some fresh := by
  have orderly := (consistent_before life j).toOrderly
  rcases installing_before (change_at life j) installing with
    before | ⟨call, result, event, found⟩
  · rw [backing.steady j (not_saving_of_installing orderly before)]
    exact agrees.ahead fresh before
  · cases result with
    | ok => exact backing.saved j call fresh event found
    | error error =>
        exact absurd event ((saves j (Nat.lt_succ_self j) call fresh found).2 error)

/-- A save that ends well is followed by a takeover. -/
theorem not_saving_of_settled (saves : SavesAll life (j + 1)) (idle : ¬ Saving (life.before (j + 1)))
    (uninstalling : ∀ fresh, ¬ Installing (life.before (j + 1)) fresh) :
    ¬ Saving (life.before j) := by
  rintro ⟨call, fresh, found⟩
  rcases saved_of_saving (change_at life j) found idle with ⟨_, installing⟩ | dropped
  · exact uninstalling fresh installing
  · exact (saves j (Nat.lt_succ_self j) call fresh found).1 dropped

theorem taken_or_left {held : Held} {fresh : Credential}
    (installing : Installing (life.before j) fresh)
    (uninstalling : ∀ fresh, ¬ Installing (life.before (j + 1)) fresh)
    (present : (life.before (j + 1)).current = some held) :
    fresh = held.credential ∨ LeftBehind life (j + 1) fresh := by
  rcases installed_of_installing (change_at life j) installing with
    stays | ⟨number, current⟩ | dropped
  · exact absurd stays (uninstalling fresh)
  · cases present.symm.trans current
    exact .inl rfl
  · exact .inr ⟨j, Nat.lt_succ_self j, dropped, fun k after before => by omega⟩

theorem settled_succ (backing : Backing life content) (saves : SavesAll life (j + 1))
    (agrees : Agrees life content j) (idle : ¬ Saving (life.before (j + 1)))
    (uninstalling : ∀ fresh, ¬ Installing (life.before (j + 1)) fresh) {held : Held}
    (present : (life.before (j + 1)).current = some held) :
    ∃ stored, content (j + 1) = some stored ∧
      (stored = held.credential ∨ LeftBehind life (j + 1) stored) := by
  have unsaved := not_saving_of_settled saves idle uninstalling
  rw [backing.steady j unsaved]
  by_cases ahead : ∃ fresh, Installing (life.before j) fresh
  · obtain ⟨fresh, installing⟩ := ahead
    exact ⟨fresh, agrees.ahead fresh installing, taken_or_left installing uninstalling present⟩
  · rw [not_exists] at ahead
    rcases current_of_uninstalling (change_at life j) ahead present with
      before | ⟨call, forced, event, found⟩
    · obtain ⟨stored, holds, same⟩ := agrees.settled unsaved ahead held before
      exact ⟨stored, holds, same.imp id fun left => left.succ unsaved⟩
    · exact ⟨_, (backing.told j call forced _ event found).symm, .inl rfl⟩

end Step

theorem agrees_before {life : Life window} {content : Nat → Option Credential}
    (backing : Backing life content) {j : Nat} (saves : SavesAll life j) :
    Agrees life content j := by
  induction j with
  | zero =>
      constructor
      case ahead =>
        rintro fresh ⟨call, found⟩
        cases found
      case settled =>
        intro _ _ held present
        cases present
  | succ j ih =>
      have agrees := ih fun n below => saves n (Nat.lt_succ_of_lt below)
      exact ⟨fun _ installing => ahead_succ backing saves agrees installing,
        fun idle uninstalling _ present =>
          settled_succ backing saves agrees idle uninstalling present⟩

theorem stored_of_free {life : Life window} {content : Nat → Option Credential}
    (backing : Backing life content) {j : Nat} {held : Held} (saves : SavesAll life j)
    (free : (life.before j).gate.holder? = none) (present : (life.before j).current = some held) :
    ∃ stored, content j = some stored ∧ (stored = held.credential ∨ LeftBehind life j stored) := by
  have orderly := (consistent_before life j).toOrderly
  have empty : ∀ {call : Nat} {stage : Stage}, (life.before j).stage? call = some stage →
      stage.isInside = false := fun found =>
    Bool.eq_false_iff.mpr fun inside => by
      cases free.symm.trans (orderly.first_of_inside _ _ found inside)
  refine (agrees_before backing saves).settled ?_ ?_ held present
  · rintro ⟨call, fresh, found⟩
    cases empty found
  · rintro fresh ⟨call, found⟩
    cases empty found

end Steward.Keeper
