import Steward.Proofs.Cache.Line
import Steward.Proofs.Cache.Outcome
/-!
# Readers that share computations

A waiting reader starts at most one computation, and none if a computation has been completed
between its coming and its being let in: then it is given the outcome of the last of them.  So
nobody who comes while a computation is under way starts another one, unless that one is given up.
Whatever a reader gets was fresh when the reader looked, or is the outcome of a computation that has
been completed since it came.
-/

set_option autoImplicit false

namespace Steward.Cache

variable {V E : Type} {ttl : Option Duration}

def Computes (life : Life V E ttl) (call n ticket : Nat) : Prop :=
  (life.event n).call? = some call ∧ Starts life n ticket

section Reader

variable {life : Life V E ttl} {call : Nat}

theorem queued_of_computes {n ticket : Nat} (computes : Computes life call n ticket) :
    ∃ now role, life.event n = .enter call now ∧
      (life.before n).stage? call = some (.queued role) ∧
      (life.before n).gate.holder? = some call ∧ Needed (life.before n) now role ∧
      (life.before (n + 1)).stage? call =
        some (.computing role ticket (life.before n).epoch) := by
  obtain ⟨own, starts⟩ := computes
  have change := change_at life n
  unfold Starts at starts
  generalize life.event n = event, life.before (n + 1) = next, life.reply n = reply
    at change own starts ⊢
  cases change with
  | started stage inside needed =>
      cases own
      cases starts
      exact ⟨_, _, rfl, stage, inside, needed, stage?_place_self _ _ _⟩
  | _ => cases starts

theorem computing_while_lasting {n j ticket epoch : Nat} {role : Role} (upTo : n ≤ j)
    (computes : (life.before n).stage? call = some (.computing role ticket epoch))
    (present : ∀ k, n ≤ k → k ≤ j → (life.before k).stage? call ≠ none) :
    (life.before j).stage? call = some (.computing role ticket epoch) := by
  induction j, upTo using Nat.le_induction with
  | base => exact computes
  | succ j upTo ih =>
      have found := ih fun k from_n below => present k from_n (Nat.le_succ_of_le below)
      obtain ⟨stage, after⟩ :=
        Option.ne_none_iff_exists'.mp (present (j + 1) (Nat.le_succ_of_le upTo) (Nat.le_refl _))
      rcases moves_or_stays (change_at life j) found after with ⟨_, moves⟩ | same
      · rw [after, computing_of_moves moves]
      · rw [after, same]

theorem computes_once {i n k ticket number : Nat} (lasts : Lasts life call i n)
    (alsoLasts : Lasts life call i k) (from_i : i ≤ n) (also_from_i : i ≤ k)
    (computes : Computes life call n ticket) (also : Computes life call k number) : n = k := by
  have apart : ∀ {a b t u : Nat}, i ≤ a → Lasts life call i b → Computes life call a t →
      Computes life call b u → ¬ a < b := by
    intro a b t u from_i lasts first second less
    obtain ⟨_, role, _, _, _, _, inside⟩ := queued_of_computes first
    obtain ⟨_, later, _, waits, _⟩ := queued_of_computes second
    have still := computing_while_lasting (show a + 1 ≤ b from less) inside
      fun m above upTo => lasts m (by omega) upTo
    cases still.symm.trans waits
  have below := apart from_i alsoLasts computes also
  have above := apart also_from_i lasts also computes
  omega

/-! ## Completions while a reader waits -/

variable {i : Nat}

/-- A reader that is let in after a computation has been completed is given the outcome of the last
one. -/
theorem known_of_completion (gets : Gets life call i) {m j ticket seen : Nat} {result : Except E V}
    (lasts : Lasts life call i j)
    (waits : (life.before j).stage? call = some (.queued (.reader seen)))
    (completes : Completes life m ticket result) (after : i < m) (below : m < j) (now : Nat) :
    ∃ last number outcome, i < last ∧ last < j ∧ Completes life last number outcome ∧
      (∀ k, last < k → k < j → ∀ other given, ¬ Completes life k other given) ∧
      (life.before j).known now seen = some outcome := by
  have came : seen = (life.before i).completed :=
    cameAt_while_lasting gets (Nat.lt_trans after below) lasts waits
  have more : (life.before j).completed ≠ (life.before i).completed := by
    have earlier := completed_le life (Nat.le_of_lt after)
    have later := completed_le life (show m + 1 ≤ j from below)
    have grown := completed_of_completes completes
    omega
  obtain ⟨last, number, outcome, from_i, before, latest, quiet, shows⟩ :=
    exists_latest_completion (show i ≤ j by omega) more
  refine ⟨last, number, outcome, Nat.lt_of_le_of_ne from_i (ne_of_gets gets latest).symm, before,
    latest, quiet, ?_⟩
  exact known_of_shows now (came ▸ more) shows

theorem reader_of_queued (gets : Gets life call i) {j : Nat} {role : Role} (after : i < j)
    (lasts : Lasts life call i j)
    (waits : (life.before j).stage? call = some (.queued role)) : ∃ seen, role = .reader seen := by
  have came := cameAt_while_lasting gets after lasts waits
  cases role with
  | reader seen => exact ⟨seen, rfl⟩
  | job epoch => cases came

theorem shares_latest (gets : Gets life call i) {m j ticket : Nat} {result : Except E V}
    (lasts : Lasts life call i j) (enters : Enters life call j) (after : i < m) (below : m < j)
    (completes : Completes life m ticket result) :
    ∃ last number outcome, i < last ∧ last < j ∧ Completes life last number outcome ∧
      (∀ k, last < k → k < j → ∀ other given, ¬ Completes life k other given) ∧
      Returns life call j outcome ∧ (life.before (j + 1)).stage? call = none ∧
      ∀ n own, i ≤ n → n ≤ j → ¬ Computes life call n own := by
  obtain ⟨⟨now, event⟩, ⟨role, waits⟩, inside⟩ := enters
  obtain ⟨seen, rfl⟩ := reader_of_queued gets (Nat.lt_trans after below) lasts waits
  obtain ⟨last, number, outcome, later, before, latest, quiet, known⟩ :=
    known_of_completion gets lasts waits completes after below now
  have given := step_enter waits inside known
  have served : life.reply j = .served outcome := by
    rw [Run.reply, event, given]
  refine ⟨last, number, outcome, later, before, latest, quiet, ⟨?_, .inl served⟩, ?_, ?_⟩
  · rw [event, Event.call?]
  · rw [Run.before_succ, event, given]
    simp
  · intro n own from_i upTo computes
    rcases Nat.lt_or_eq_of_le upTo with early | rfl
    · -- It would compute from then on, but it still waits at the end.
      obtain ⟨_, other, _, _, _, _, computing⟩ := queued_of_computes computes
      have still := computing_while_lasting (show n + 1 ≤ j from early) computing
        fun k above upTo => lasts k (by omega) upTo
      cases still.symm.trans waits
    · cases served.symm.trans computes.2

/-- Nobody who comes while a computation is under way that will be completed starts another one. -/
theorem not_computes_of_inFlight (gets : Gets life call i) {owner ticket epoch m n own : Nat}
    {role : Role} {result : Except E V}
    (flies : (life.before i).stage? owner = some (.computing role ticket epoch))
    (completes : Completes life m ticket result) (from_i : i ≤ n) (lasts : Lasts life call i n) :
    ¬ Computes life call n own := by
  intro computes
  -- The computation that completes is the one under way, and lasts until then.
  obtain ⟨b, earlier, starts, _, ⟨_, enters⟩, present⟩ := starts_of_computing life flies
  obtain ⟨other, otherRole, since, now, loads, found⟩ := id completes
  obtain ⟨b', _, starts', _, ⟨_, enters'⟩, present'⟩ := starts_of_computing life found
  cases starts_unique starts starts'
  obtain rfl : other = owner := by
    cases enters.symm.trans enters'
    rfl
  have late : i ≤ m := by
    by_contra early
    have gone : (life.before (m + 1)).stage? other = none := by
      rw [Run.before_succ, loads]
      simp [step, found]
    exact present (m + 1) (by omega) (by omega) gone
  rcases Nat.lt_or_ge m n with after | upTo
  · obtain ⟨now, role, event, waits, inside, needed, _⟩ := queued_of_computes computes
    obtain ⟨seen, rfl⟩ := reader_of_queued gets (by omega) lasts waits
    have apart : m ≠ i := ne_of_gets gets completes
    obtain ⟨_, _, outcome, _, _, _, _, known⟩ :=
      known_of_completion gets lasts waits completes (by omega) after now
    have unknown : (life.before n).known now seen = none := needed
    cases known.symm.trans unknown
  · have still := computing_while_lasting from_i flies
      fun k above below => present' k (by omega) (by omega)
    exact no_load_while_computing (orderly_before life n) (change_at life n) ⟨_, _, _, still⟩ own
      computes.2

/-! ## Where a result comes from -/

theorem served_at_once {now : Nat} {value : V} (gets : Gets life call i)
    (event : life.event i = .get call now) (fresh : Fresh life i now value) :
    Returns life call i (.ok value) ∧ (life.before (i + 1)).stage? call = none := by
  have found : (life.before i).fresh now = some value := fresh_before_iff.mpr fresh
  have given : (life.before i).step (.get call now) = (life.before i, .served (.ok value)) := by
    simp only [step, gets.2, found]
  refine ⟨⟨by rw [event, Event.call?], .inl ?_⟩, ?_⟩
  · rw [Run.reply, event, given]
  · rw [Run.before_succ, event, given]
    exact gets.2

/-- What a reader gets was fresh when it looked, or has been computed since it came. -/
theorem source_of_returns (gets : Gets life call i) {j : Nat} {result : Except E V} (upTo : i ≤ j)
    (lasts : Lasts life call i j) (returns : Returns life call j result) :
    (∃ now value, result = .ok value ∧
        (life.event j = .get call now ∨ life.event j = .enter call now) ∧
        Fresh life j now value) ∨
      ∃ m ticket, i < m ∧ m ≤ j ∧ Completes life m ticket result := by
  obtain ⟨own, served | finished⟩ := returns
  · have change := change_at life j
    generalize happens : life.event j = event, life.before (j + 1) = next, life.reply j = reply
      at change own served
    cases change with
    | found absent fresh =>
        cases own
        cases served
        exact .inl ⟨_, _, rfl, .inl rfl, fresh_before_iff.mp fresh⟩
    | @shared _ seen now outcome stage inside known =>
        cases own
        cases served
        rcases shows_or_fresh_of_known known with ⟨more, shows⟩ | ⟨value, rfl, fresh⟩
        · have later : i < j := by
            rcases Nat.lt_or_eq_of_le upTo with later | rfl
            · exact later
            · cases gets.2.symm.trans stage
          have came : seen = (life.before i).completed :=
            cameAt_while_lasting gets later lasts stage
          obtain ⟨m, ticket, last, from_i, below, completes, _, showed⟩ :=
            exists_latest_completion upTo (came ▸ more)
          cases shows.unique showed
          exact .inr ⟨m, ticket, Nat.lt_of_le_of_ne from_i (ne_of_gets gets completes).symm,
            Nat.le_of_lt below, completes⟩
        · exact .inl ⟨now, value, rfl, .inr rfl, fresh_before_iff.mp fresh⟩
    | _ => cases served
  · obtain ⟨ticket, role, epoch, completes, _⟩ := completes_of_reply own finished
    exact .inr ⟨j, ticket, Nat.lt_of_le_of_ne upTo (ne_of_gets gets completes).symm,
      Nat.le_refl j, completes⟩

end Reader

/-- What can be relied on by a waiting reader that comes with event number `i`, whatever the others
do.  It takes over the last outcome that has come since, and computes nothing then; nor does it
while a computation was under way as it came, unless that one is given up. -/
structure Shares (life : Life V E ttl) (call i : Nat) : Prop where
  takesOver : ∀ j m ticket result, Lasts life call i j → Enters life call j → i < m → m < j →
    Completes life m ticket result →
    ∃ last number outcome, i < last ∧ last < j ∧ Completes life last number outcome ∧
      (∀ k, last < k → k < j → ∀ other given, ¬ Completes life k other given) ∧
      Returns life call j outcome ∧ (life.before (j + 1)).stage? call = none ∧
      ∀ n own, i ≤ n → n ≤ j → ¬ Computes life call n own
  once : ∀ n k ticket number, i ≤ n → i ≤ k → Lasts life call i n → Lasts life call i k →
    Computes life call n ticket → Computes life call k number → n = k
  atOnce : ∀ now value, life.event i = .get call now → Fresh life i now value →
    Returns life call i (.ok value) ∧ (life.before (i + 1)).stage? call = none
  joins : ∀ owner role ticket epoch m result,
    (life.before i).stage? owner = some (.computing role ticket epoch) →
    Completes life m ticket result →
    ∀ n own, i ≤ n → Lasts life call i n → ¬ Computes life call n own
  value : ∀ j value, i ≤ j → Lasts life call i j → Returns life call j (.ok value) →
    (∃ now, (life.event j = .get call now ∨ life.event j = .enter call now) ∧
        Fresh life j now value) ∨
      ∃ m ticket, i < m ∧ m ≤ j ∧ Completes life m ticket (.ok value)
  failure : ∀ j error, i ≤ j → Lasts life call i j → Returns life call j (.error error) →
    ∃ m ticket, i < m ∧ m ≤ j ∧ Completes life m ticket (.error error)

theorem reader_sharing (life : Life V E ttl) {call i : Nat} (gets : Gets life call i) :
    Shares life call i := by
  constructor
  case takesOver =>
    intro j m ticket result lasts enters after below completes
    exact shares_latest gets lasts enters after below completes
  case once =>
    intro n k ticket number from_i also_from_i lasts alsoLasts computes also
    exact computes_once lasts alsoLasts from_i also_from_i computes also
  case atOnce =>
    intro now value event fresh
    exact served_at_once gets event fresh
  case joins =>
    intro owner role ticket epoch m result flies completes n own from_i lasts
    exact not_computes_of_inFlight gets flies completes from_i lasts
  case value =>
    intro j value upTo lasts returns
    rcases source_of_returns gets upTo lasts returns with ⟨now, loaded, same, looks, fresh⟩ | source
    · cases same
      exact .inl ⟨now, looks, fresh⟩
    · exact .inr source
  case failure =>
    intro j error upTo lasts returns
    rcases source_of_returns gets upTo lasts returns with ⟨_, _, impossible, _⟩ | source
    · cases impossible
    · exact source

def failedForBoth : Life Nat String none :=
  .ofList [.get 1 0, .join 1, .enter 1 0, .get 2 10, .join 2, .loaded 1 (.error "down") 100,
    .enter 2 100] (.decline 0)

theorem reader_sharing_failedForBoth :
    Returns failedForBoth 2 6 (.error "down") ∧
      ∀ n own, 3 ≤ n → n ≤ 6 → ¬ Computes failedForBoth 2 n own := by
  have gets : Gets failedForBoth 2 3 := ⟨⟨10, rfl⟩, rfl⟩
  have lasts : Lasts failedForBoth 2 3 6 := lasts_of_isSome (by decide +kernel)
  have completes : Completes failedForBoth 5 1 (.error "down") :=
    ⟨1, .reader 0, 0, 100, rfl, rfl⟩
  have enters : Enters failedForBoth 2 6 := ⟨⟨100, rfl⟩, ⟨_, rfl⟩, rfl⟩
  obtain ⟨last, number, outcome, after, below, latest, quiet, returns, _, silent⟩ :=
    (reader_sharing failedForBoth gets).takesOver 6 5 1 _ lasts enters (by decide) (by decide)
      completes
  have late : 5 ≤ last := by
    by_contra early
    exact quiet 5 (by omega) (by decide) 1 _ completes
  obtain rfl : last = 5 := by omega
  cases (completes.unique latest).2
  exact ⟨returns, silent⟩

end Steward.Cache
