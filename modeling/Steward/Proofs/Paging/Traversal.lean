import Mathlib.Data.List.Infix
import Steward.Paging
/-!
# What a walk comes to

A walk is given answers for the pages 0, 1, 2, and so on.  What it comes to can be read off these
answers without any cursor: the items of the pages before the first empty page or failure, cut to
the number that the first page has reported, and then the failure if the cut comes after it.  `Fits`
says how far a cursor has come that was given some answers and has yielded some results.
-/

set_option autoImplicit false

namespace Steward.Paging

variable {α ε : Type}

/-! ## Reading the answers -/

/-- Nothing more is walked after such an answer. -/
def isLast : Except ε (Page α) → Bool
  | .error _ => true
  | .ok page => page.items.isEmpty

/-- The items of the pages before the first empty page or failure. -/
def items : List (Except ε (Page α)) → List α
  | .ok page :: rest => if page.items.isEmpty then [] else page.items ++ items rest
  | _ => []

/-- The first failure, unless an empty page comes before it. -/
def failure : List (Except ε (Page α)) → Option ε
  | [] => none
  | .error error :: _ => some error
  | .ok page :: rest => if page.items.isEmpty then none else failure rest

def reported : List (Except ε (Page α)) → Option Nat
  | .ok page :: _ => page.total
  | _ => none

def gathered (answers : List (Except ε (Page α))) : List (Except ε α) :=
  (items answers).map .ok ++ (failure answers).toList.map .error

/-- What a walk yields that is given these answers. -/
def traversal (answers : List (Except ε (Page α))) : List (Except ε α) :=
  match reported answers with
  | some total =>
    if total ≤ (items answers).length then ((items answers).take total).map .ok
    else gathered answers
  | none => gathered answers

/-- Nothing more can be walked: the pages have come to an end, or as many items are there as the
first page has reported. -/
def isOver (answers : List (Except ε (Page α))) : Bool :=
  answers.any isLast || (reported answers).any (· ≤ (items answers).length)

/-- Nothing is asked for behind the reported number of items, so no failure shows there. -/
example : traversal [.ok ⟨[1, 2], some 3⟩, .ok ⟨[3, 4], none⟩, .error "gone"] =
    [.ok 1, .ok 2, .ok 3] := rfl

section Reading

variable {answers : List (Except ε (Page α))}

theorem length_failure_le (answers : List (Except ε (Page α))) :
    ((failure answers).toList.map (Except.error (α := α))).length ≤ 1 := by
  cases failure answers <;> simp

theorem traversal_of_reported {total : Nat} (tells : reported answers = some total) :
    traversal answers = (gathered answers).take total := by
  have few := length_failure_le answers
  by_cases reached : total ≤ (items answers).length
  · have within : total ≤ ((items answers).map (Except.ok (ε := ε))).length := by
      simpa using reached
    simp only [traversal, tells, if_pos reached, gathered]
    rw [List.take_append_of_le_length within, List.map_take]
  · have whole : (gathered answers).length ≤ total := by
      simp only [gathered, List.length_append, List.length_map] at few ⊢
      omega
    simp only [traversal, tells, if_neg reached]
    rw [List.take_of_length_le whole]

theorem traversal_of_unreported (silent : reported answers = none) :
    traversal answers = gathered answers := by
  simp only [traversal, silent]

theorem length_traversal_le (answers : List (Except ε (Page α))) :
    (traversal answers).length ≤ (gathered answers).length := by
  cases tells : reported answers with
  | none => rw [traversal_of_unreported tells]
  | some total =>
      rw [traversal_of_reported tells]
      exact List.length_take_le' total (gathered answers)

theorem gathered_prefix (answers more : List (Except ε (Page α))) :
    gathered answers <+: gathered (answers ++ more) := by
  induction answers with
  | nil => simp [gathered, items, failure]
  | cons answer rest ih =>
      cases answer with
      | error error => simp [gathered, items, failure]
      | ok page =>
          by_cases empty : page.items.isEmpty = true
          · simp [gathered, items, failure, empty]
          · simp only [gathered, List.cons_append, items, failure, empty, if_false, List.map_append,
              List.append_assoc, Bool.false_eq_true] at ih ⊢
            exact (List.prefix_append_right_inj _).mpr ih

theorem gathered_of_last (last : answers.any isLast = true) (more : List (Except ε (Page α))) :
    gathered (answers ++ more) = gathered answers := by
  induction answers with
  | nil => cases last
  | cons answer rest ih =>
      cases answer with
      | error error => simp [gathered, items, failure]
      | ok page =>
          by_cases empty : page.items.isEmpty = true
          · simp [gathered, items, failure, empty]
          · have later : rest.any isLast = true := by simpa [isLast, empty] using last
            have same := ih later
            simp only [gathered, List.cons_append, items, failure, empty, if_false, List.map_append,
              List.append_assoc, Bool.false_eq_true] at same ⊢
            rw [same]

theorem reported_append (more : List (Except ε (Page α))) (given : answers ≠ []) :
    reported (answers ++ more) = reported answers := by
  cases answers with
  | nil => exact absurd rfl given
  | cons answer rest => cases answer <;> rfl

theorem prefix_of_more (answers more : List (Except ε (Page α))) :
    traversal answers <+: traversal (answers ++ more) := by
  by_cases given : answers = []
  · subst given
    exact List.nil_prefix
  · have longer := gathered_prefix answers more
    have same := reported_append more given
    cases tells : reported answers with
    | none =>
        rw [traversal_of_unreported tells, traversal_of_unreported (same.trans tells)]
        exact longer
    | some total =>
        rw [traversal_of_reported tells, traversal_of_reported (same.trans tells)]
        exact longer.take total

theorem traversal_of_over (complete : isOver answers = true) (more : List (Except ε (Page α))) :
    traversal (answers ++ more) = traversal answers := by
  have given : answers ≠ [] := by
    rintro rfl
    cases complete
  have same := reported_append more given
  rcases Bool.or_eq_true_iff.mp complete with last | cut
  · have kept := gathered_of_last last more
    cases tells : reported answers with
    | none =>
        rw [traversal_of_unreported tells, traversal_of_unreported (same.trans tells), kept]
    | some total =>
        rw [traversal_of_reported tells, traversal_of_reported (same.trans tells), kept]
  · obtain ⟨total, tells, reached⟩ := (Option.any_eq_true _ _).mp cut
    have within : total ≤ (gathered answers).length := by
      have := of_decide_eq_true reached
      simp only [gathered, List.length_append, List.length_map]
      omega
    obtain ⟨rest, longer⟩ := gathered_prefix answers more
    rw [traversal_of_reported tells, traversal_of_reported (same.trans tells), ← longer]
    exact List.take_append_of_le_length within

/-- A failure that is yielded is yielded once, behind all items. -/
theorem traversal_of_failed {error : ε} (yields : .error error ∈ traversal answers) :
    failure answers = some error ∧
      traversal answers = (items answers).map .ok ++ [.error error] := by
  have all : .error error ∈ gathered answers → failure answers = some error := by
    intro member
    cases fails : failure answers with
    | none => simp [gathered, fails] at member
    | some other => simpa [gathered, fails, eq_comm] using member
  cases tells : reported answers with
  | none =>
      rw [traversal_of_unreported tells] at yields ⊢
      have fails := all yields
      exact ⟨fails, by simp [gathered, fails]⟩
  | some total =>
      simp only [traversal, tells] at yields ⊢
      split at yields
      · obtain ⟨value, -, impossible⟩ := List.mem_map.mp yields
        cases impossible
      · next beyond =>
          have fails := all yields
          rw [if_neg beyond]
          exact ⟨fails, by simp [gathered, fails]⟩

end Reading

/-! ## Pages that have items -/

def content (pages : List (Page α)) : List α := pages.flatMap (·.items)

def Filled (pages : List (Page α)) : Prop := ∀ page ∈ pages, page.items ≠ []

section Filled

variable {pages : List (Page α)}

theorem read_of_filled (filled : Filled pages) (more : List (Except ε (Page α))) :
    items (pages.map .ok ++ more) = content pages ++ items more ∧
      failure (pages.map .ok ++ more) = failure more := by
  induction pages with
  | nil => exact ⟨rfl, rfl⟩
  | cons page rest ih =>
      have some_items := filled page List.mem_cons_self
      obtain ⟨items_eq, failure_eq⟩ := ih fun other member =>
        filled other (List.mem_cons_of_mem _ member)
      constructor
      · simp [items, some_items, items_eq, content]
      · simp [failure, some_items, failure_eq]

theorem items_of_filled (filled : Filled pages) :
    items (pages.map (Except.ok (ε := ε))) = content pages := by
  have read := (read_of_filled (ε := ε) filled []).1
  simpa [items] using read

theorem gathered_of_filled (filled : Filled pages) :
    gathered (pages.map (Except.ok (ε := ε))) = (content pages).map .ok := by
  have read := (read_of_filled (ε := ε) filled []).2
  rw [gathered, items_of_filled filled]
  simp only [List.append_nil] at read
  simp [read, failure]

theorem goes_on_of_filled (filled : Filled pages) :
    (pages.map (Except.ok (ε := ε))).any isLast = false := by
  rw [List.any_eq_false]
  intro answer member
  obtain ⟨page, there, rfl⟩ := List.mem_map.mp member
  simpa [isLast] using filled page there

theorem filled_concat (filled : Filled pages) {page : Page α} (some_items : page.items ≠ []) :
    Filled (pages ++ [page]) := by
  intro other member
  rcases List.mem_append.mp member with before | last
  · exact filled other before
  · rw [List.mem_singleton.mp last]
    exact some_items

end Filled

/-! ## Cursors -/

/-- The cursor has come this far: it was given these answers and has yielded these results. -/
inductive Fits : Cursor α → List (Except ε (Page α)) → List (Except ε α) → Prop where
  | walking {pages : List (Page α)} {taken : Nat} (filled : Filled pages)
      (le : taken ≤ (content pages).length)
      (within : ∀ total, reported (pages.map (Except.ok (ε := ε))) = some total → taken ≤ total) :
      Fits ⟨pages.length, reported (pages.map (Except.ok (ε := ε))), (content pages).drop taken,
        taken, false⟩ (pages.map .ok) (((content pages).take taken).map .ok)
  | finished {cursor : Cursor α} {answers : List (Except ε (Page α))}
      (none : cursor.pending = []) (ended : cursor.finished = true)
      (complete : isOver answers = true) : Fits cursor answers (traversal answers)

theorem fits_start : Fits (Cursor.start : Cursor α) ([] : List (Except ε (Page α))) [] :=
  @Fits.walking α ε [] 0 nofun (Nat.le_refl 0) nofun

section Cursors

variable {cursor : Cursor α} {answers : List (Except ε (Page α))} {yielded : List (Except ε α)}

theorem prefix_of_fits (fits : Fits cursor answers yielded) : yielded <+: traversal answers := by
  cases fits with
  | finished => exact List.prefix_rfl
  | @walking pages taken filled le within =>
      have gathers := gathered_of_filled (ε := ε) filled
      have early := (List.take_prefix taken (content pages)).map (Except.ok (ε := ε))
      cases tells : reported (pages.map (Except.ok (ε := ε))) with
      | none =>
          rw [traversal_of_unreported tells, gathers]
          exact early
      | some total =>
          rw [traversal_of_reported tells, gathers, ← List.map_take]
          exact (List.take_prefix_take_left (within total tells)).map _

theorem isOver_of_failure {error : ε} (fails : failure answers = some error) :
    isOver answers = true := by
  refine Bool.or_eq_true_iff.mpr (.inl ?_)
  induction answers with
  | nil => cases fails
  | cons answer rest ih =>
      cases answer with
      | error => rfl
      | ok page =>
          by_cases empty : page.items.isEmpty = true
          · simp [isLast, empty]
          · simp only [failure, empty, if_false, Bool.false_eq_true] at fails
            simp [ih fails]

theorem failed_of_mem (fits : Fits cursor answers yielded) {error : ε}
    (yields : .error error ∈ yielded) :
    failure answers = some error ∧ yielded = (items answers).map .ok ++ [.error error] ∧
      yielded = traversal answers := by
  have early := prefix_of_fits fits
  obtain ⟨fails, all⟩ := traversal_of_failed (early.subset yields)
  rw [all] at early ⊢
  rcases List.prefix_concat_iff.mp early with same | short
  · exact ⟨fails, same, same⟩
  · obtain ⟨value, -, impossible⟩ := List.mem_map.mp (short.subset yields)
    cases impossible

inductive Pulls (answers : List (Except ε (Page α))) (yielded : List (Except ε α)) :
    Cursor.Pull α → Prop where
  | ended (complete : isOver answers = true) (all : yielded = traversal answers) :
      Pulls answers yielded .ended
  | item {value : α} {next : Cursor α} (fits : Fits next answers (yielded ++ [.ok value])) :
      Pulls answers yielded (.item value next)
  | fetch (going : isOver answers = false) (all : yielded = (items answers).map .ok) :
      Pulls answers yielded (.fetch answers.length)

theorem totalReached_iff (cursor : Cursor α) :
    cursor.totalReached = true ↔ ∃ total, cursor.total = some total ∧ total ≤ cursor.taken := by
  simp only [Cursor.totalReached]
  cases cursor.total with
  | none => simp
  | some total => simp

theorem isOver_of_filled {pages : List (Page α)} (filled : Filled pages) :
    isOver (pages.map (Except.ok (ε := ε))) = true ↔
      ∃ total, reported (pages.map (Except.ok (ε := ε))) = some total ∧
        total ≤ (content pages).length := by
  rw [isOver, goes_on_of_filled filled, items_of_filled filled, Bool.false_or, Option.any_eq_true]
  simp

theorem fits_of_item {pages : List (Page α)} {taken : Nat} {value : α} {rest : List α}
    (filled : Filled pages) (pending : (content pages).drop taken = value :: rest)
    (below : ∀ total, reported (pages.map (Except.ok (ε := ε))) = some total → taken < total) :
    Fits ⟨pages.length, reported (pages.map (Except.ok (ε := ε))), rest, taken + 1, false⟩
      (pages.map (Except.ok (ε := ε))) (((content pages).take taken).map .ok ++ [.ok value]) := by
  have there : (content pages)[taken]? = some value := by
    have first := congrArg List.head? pending
    rwa [List.head?_drop] at first
  have inside : taken < (content pages).length := (List.getElem?_eq_some_iff.mp there).1
  have further : (content pages).drop (taken + 1) = rest := by
    rw [← List.tail_drop, pending]
    rfl
  have taken_more : (content pages).take (taken + 1) = (content pages).take taken ++ [value] := by
    rw [List.take_add_one, there]
    rfl
  have fits : Fits _ (pages.map (Except.ok (ε := ε)))
      (((content pages).take (taken + 1)).map .ok) := .walking filled inside below
  rw [further, taken_more, List.map_append] at fits
  exact fits

theorem pulls_of_fits (fits : Fits cursor answers yielded) :
    Pulls answers yielded cursor.pull := by
  cases fits with
  | finished none ended complete =>
      have over_now : cursor.pull = .ended := by simp [Cursor.pull, none, ended]
      rw [over_now]
      exact .ended complete rfl
  | @walking pages taken filled le within =>
      simp only [Cursor.pull]
      split
      · next reached =>
          obtain ⟨total, tells, few⟩ := (totalReached_iff _).mp reached
          have same : taken = total := Nat.le_antisymm (within total tells) few
          subst same
          refine .ended ((isOver_of_filled filled).mpr ⟨taken, tells, le⟩) ?_
          rw [traversal_of_reported tells, gathered_of_filled filled, List.map_take]
      · next unreached =>
          have below : ∀ total, reported (pages.map (Except.ok (ε := ε))) = some total →
              taken < total := by
            intro total tells
            by_contra few
            exact unreached ((totalReached_iff _).mpr ⟨total, tells, Nat.not_lt.mp few⟩)
          split
          · next value rest pending => exact .item (fits_of_item filled pending below)
          · next pending =>
              have all : taken = (content pages).length :=
                Nat.le_antisymm le (List.drop_eq_nil_iff.mp pending)
              have going : isOver (pages.map (Except.ok (ε := ε))) = false := by
                rw [Bool.eq_false_iff]
                intro complete
                obtain ⟨total, tells, few⟩ := (isOver_of_filled filled).mp complete
                have := below total tells
                omega
              have consumed : ((content pages).take taken).map (Except.ok (ε := ε)) =
                  (items (pages.map (Except.ok (ε := ε)))).map .ok := by
                rw [items_of_filled filled, all, List.take_length]
              have asks := Pulls.fetch going consumed
              simpa using asks

theorem walking_of_fetch (fits : Fits cursor answers yielded) {page : Nat}
    (asks : cursor.pull = .fetch page) :
    ∃ pages : List (Page α), Filled pages ∧ answers = pages.map .ok ∧
      yielded = (content pages).map .ok ∧
      cursor = ⟨pages.length, reported answers, [], (content pages).length, false⟩ ∧
      ∀ total, reported answers = some total → (content pages).length < total := by
  have pulls := pulls_of_fits fits
  rw [asks] at pulls
  cases pulls with
  | fetch going all =>
      cases fits with
      | finished _ _ complete =>
          rw [complete] at going
          cases going
      | @walking pages taken filled le within =>
          have lengths := congrArg List.length all
          rw [items_of_filled filled] at lengths
          simp only [List.length_map, List.length_take] at lengths
          have same : taken = (content pages).length := by omega
          subst same
          refine ⟨pages, filled, rfl, by rw [List.take_length], by rw [List.drop_length], ?_⟩
          intro total tells
          by_contra few
          have complete := (isOver_of_filled filled).mpr ⟨total, tells, Nat.not_lt.mp few⟩
          rw [complete] at going
          cases going

theorem traversal_of_few
    (few : ∀ total, reported answers = some total → (gathered answers).length ≤ total) :
    traversal answers = gathered answers := by
  cases tells : reported answers with
  | none => exact traversal_of_unreported tells
  | some total => rw [traversal_of_reported tells, List.take_of_length_le (few total tells)]

theorem isOver_of_last {answer : Except ε (Page α)} (last : isLast answer = true) :
    isOver (answers ++ [answer]) = true := by
  simp [isOver, last]

theorem fits_of_fail (fits : Fits cursor answers yielded) {page : Nat}
    (asks : cursor.pull = .fetch page) (error : ε) :
    Fits cursor.fail (answers ++ [.error error]) (yielded ++ [.error error]) := by
  obtain ⟨pages, filled, rfl, rfl, rfl, below⟩ := walking_of_fetch fits asks
  obtain ⟨items_eq, failure_eq⟩ := read_of_filled filled [.error error]
  have gathers : gathered (pages.map .ok ++ [.error error]) =
      (content pages).map .ok ++ [.error error] := by
    simp [gathered, items_eq, failure_eq, items, failure]
  have uncut : traversal (pages.map .ok ++ [.error error]) =
      gathered (pages.map .ok ++ [.error error]) := by
    refine traversal_of_few fun total tells => ?_
    have same : reported (pages.map .ok ++ [.error error]) =
        reported (pages.map (Except.ok (ε := ε))) := by
      cases pages <;> rfl
    have room := below total (same.symm.trans tells)
    rw [gathers, List.length_append, List.length_map, List.length_singleton]
    exact room
  rw [← gathers, ← uncut]
  exact .finished rfl rfl (isOver_of_last rfl)

theorem fits_of_supply (fits : Fits cursor answers yielded) {number : Nat}
    (asks : cursor.pull = .fetch number) (page : Page α) :
    Fits (cursor.supply page) (answers ++ [.ok page]) yielded := by
  obtain ⟨pages, filled, rfl, rfl, rfl, below⟩ := walking_of_fetch fits asks
  -- Only the first page is asked how many items there are.
  have tells :
      (if pages.length = 0 then page.total else reported (pages.map (Except.ok (ε := ε)))) =
        reported (pages.map (Except.ok (ε := ε)) ++ [.ok page]) := by
    cases pages <;> rfl
  have room : ∀ total, reported (pages.map (Except.ok (ε := ε)) ++ [.ok page]) = some total →
      (content pages).length ≤ total := by
    intro total reports
    cases pages with
    | nil => exact Nat.zero_le total
    | cons first rest => exact Nat.le_of_lt (below total reports)
  by_cases empty : page.items = []
  · obtain ⟨items_eq, failure_eq⟩ := read_of_filled filled [Except.ok (ε := ε) page]
    have gathers : gathered (pages.map (Except.ok (ε := ε)) ++ [.ok page]) =
        (content pages).map .ok := by
      simp [gathered, items_eq, failure_eq, items, failure, empty]
    have uncut : traversal (pages.map (Except.ok (ε := ε)) ++ [.ok page]) =
        gathered (pages.map .ok ++ [.ok page]) := by
      refine traversal_of_few fun total reports => ?_
      rw [gathers, List.length_map]
      exact room total reports
    rw [← gathers, ← uncut]
    have last : isLast (.ok page : Except ε (Page α)) = true := by simp [isLast, empty]
    exact .finished empty (by simp [Cursor.supply, empty]) (isOver_of_last last)
  · have within : ∀ total, reported ((pages ++ [page]).map (Except.ok (ε := ε))) = some total →
        (content pages).length ≤ total := by
      rw [List.map_append]
      exact room
    have fits := Fits.walking (filled_concat filled empty) (by simp [content]) within
    have split : content (pages ++ [page]) = content pages ++ page.items := by simp [content]
    rw [split, List.take_left, List.drop_left, List.map_append, List.map_singleton,
      List.length_append, ← tells] at fits
    have goes_on : page.items.isEmpty = false := by simpa using empty
    simpa [Cursor.supply, goes_on] using fits

theorem not_fetch_of_supply (cursor : Cursor α) (page : Page α) (number : Nat) :
    (cursor.supply page).pull ≠ .fetch number := by
  intro asks
  simp only [Cursor.pull] at asks
  split at asks
  · cases asks
  · split at asks
    · cases asks
    · next none =>
        have empty : page.items = [] := none
        have ended : (cursor.supply page).finished = true := by simp [Cursor.supply, empty]
        rw [if_pos ended] at asks
        cases asks

/-- The answer to a request for a page is yielded as far as it has something to be yielded. -/
theorem fits_of_received (fits : Fits cursor answers yielded) {page : Nat}
    (asks : cursor.pull = .fetch page) (answer : Except ε (Page α)) (fetched : Nat) :
    Fits (cursor.receive fetched answer).cursor (answers ++ [answer])
        (yielded ++ (cursor.receive fetched answer).result.toList) ∧
      ((cursor.receive fetched answer).result = none →
        isOver (answers ++ [answer]) = true ∧ yielded = traversal (answers ++ [answer])) := by
  cases answer with
  | error error => exact ⟨fits_of_fail fits asks error, nofun⟩
  | ok page =>
      have supplied := fits_of_supply fits asks page
      have pulls := pulls_of_fits supplied
      have ready := not_fetch_of_supply cursor page
      simp only [Cursor.receive, Cursor.afterSupply]
      generalize (cursor.supply page).pull = pull at pulls ready
      cases pulls with
      | ended complete all =>
          rw [Option.toList_none, List.append_nil]
          exact ⟨supplied, fun _ => ⟨complete, all⟩⟩
      | item fits => exact ⟨fits, nofun⟩
      | fetch => exact absurd rfl (ready _)

end Cursors

end Steward.Paging
