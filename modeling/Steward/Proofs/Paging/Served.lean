import Steward.Proofs.Paging.Traversal
/-!
# Collections that are served in full pages

A service that holds a collection cuts it into pages of the size that is asked for, of which the
last may be shorter and later ones are empty.  A walk over it yields the whole collection.  If the
service tells how many items there are, no page is asked for behind the last one that has items;
otherwise only the first empty page shows that the walk is over.
-/

set_option autoImplicit false

namespace Steward.Paging

variable {α ε : Type}

/-- No page was asked for when the walk was over. -/
def Frugal (answers : List (Except ε (Page α))) : Prop :=
  ∀ k < answers.length, isOver (answers.take k) = false

theorem frugal_nil : Frugal ([] : List (Except ε (Page α))) := nofun

theorem frugal_concat {answers : List (Except ε (Page α))} (frugal : Frugal answers)
    (going : isOver answers = false) (answer : Except ε (Page α)) :
    Frugal (answers ++ [answer]) := by
  intro k below
  rw [List.length_append, List.length_singleton] at below
  rw [List.take_append_of_le_length (by omega)]
  rcases Nat.lt_succ_iff_lt_or_eq.mp below with earlier | rfl
  · exact frugal k earlier
  · rw [List.take_length]
    exact going

def firstAnswers (fetch : Nat → Except ε (Page α)) (count : Nat) : List (Except ε (Page α)) :=
  (List.range count).map fetch

theorem firstAnswers_succ (fetch : Nat → Except ε (Page α)) (count : Nat) :
    firstAnswers fetch (count + 1) = firstAnswers fetch count ++ [fetch count] := by
  simp [firstAnswers, List.range_succ]

theorem length_firstAnswers (fetch : Nat → Except ε (Page α)) (count : Nat) :
    (firstAnswers fetch count).length = count := by
  simp [firstAnswers]

theorem take_firstAnswers (fetch : Nat → Except ε (Page α)) (count : Nat) :
    (firstAnswers fetch (count + 1)).take count = firstAnswers fetch count := by
  rw [firstAnswers_succ, List.take_left' (length_firstAnswers fetch count)]

theorem fetched_receive (cursor : Cursor α) (page : Nat) (answer : Except ε (Page α)) :
    (cursor.receive page answer).fetched = some page := by
  cases answer with
  | error error => rfl
  | ok answer =>
      simp only [Cursor.receive, Cursor.afterSupply]
      split <;> rfl

/-- One demand asks for at most one page, and yields what is next unless the walk is over. -/
theorem fits_of_demand {fetch : Nat → Except ε (Page α)} {cursor : Cursor α} {count : Nat}
    {yielded : List (Except ε α)} (fits : Fits cursor (firstAnswers fetch count) yielded)
    (frugal : Frugal (firstAnswers fetch count)) :
    ∃ pages, (cursor.demand fetch).fetched.toList = List.range' count pages ∧
      Frugal (firstAnswers fetch (count + pages)) ∧
      Fits (cursor.demand fetch).cursor (firstAnswers fetch (count + pages))
        (yielded ++ (cursor.demand fetch).result.toList) ∧
      ((cursor.demand fetch).result = none →
        isOver (firstAnswers fetch (count + pages)) = true ∧
          yielded = traversal (firstAnswers fetch (count + pages))) := by
  have pulls := pulls_of_fits fits
  have received : ∀ page, cursor.pull = .fetch page → _ := fun page asks =>
    fits_of_received fits asks (fetch page) page
  simp only [Cursor.demand]
  generalize cursor.pull = pull at pulls received
  cases pulls with
  | ended complete all => exact ⟨0, rfl, frugal, by simpa using fits, fun _ => ⟨complete, all⟩⟩
  | item next => exact ⟨0, rfl, frugal, next, nofun⟩
  | fetch going all =>
      obtain ⟨next, ends⟩ := received _ rfl
      rw [length_firstAnswers] at next ends ⊢
      rw [← firstAnswers_succ] at next ends
      have more : Frugal (firstAnswers fetch (count + 1)) := by
        rw [firstAnswers_succ]
        exact frugal_concat frugal going _
      refine ⟨1, ?_, more, next, ends⟩
      rw [fetched_receive]
      rfl

structure Comes (fetch : Nat → Except ε (Page α)) (count demands : Nat)
    (yielded : List (Except ε α)) (walk : Cursor.Walk α ε) (pages : Nat) : Prop where
  fetched : walk.fetched = List.range' count pages
  frugal : Frugal (firstAnswers fetch (count + pages))
  results : yielded ++ walk.results <+: traversal (firstAnswers fetch (count + pages))
  ended : walk.ended = true → isOver (firstAnswers fetch (count + pages)) = true ∧
    yielded ++ walk.results = traversal (firstAnswers fetch (count + pages))
  going : walk.ended = false → walk.results.length = demands

theorem comes_of_fits {fetch : Nat → Except ε (Page α)} {cursor : Cursor α} {count : Nat}
    {yielded : List (Except ε α)} (fits : Fits cursor (firstAnswers fetch count) yielded)
    (frugal : Frugal (firstAnswers fetch count)) (demands : Nat) :
    ∃ pages, Comes fetch count demands yielded (cursor.walk fetch demands) pages := by
  induction demands generalizing cursor count yielded with
  | zero =>
      refine ⟨0, rfl, frugal, ?_, nofun, fun _ => rfl⟩
      simpa [Cursor.walk] using prefix_of_fits fits
  | succ demands ih =>
      obtain ⟨pages, fetched, more, next, ends⟩ := fits_of_demand fits frugal
      simp only [Cursor.walk]
      cases result : (cursor.demand fetch).result with
      | none =>
          obtain ⟨complete, all⟩ := ends result
          refine ⟨pages, fetched, more, ?_, fun _ => ⟨complete, ?_⟩, nofun⟩
          · simp [all]
          · simpa using all
      | some first =>
          rw [result] at next
          obtain ⟨further, rest⟩ := ih next more
          have total : count + (pages + further) = count + pages + further := by omega
          refine ⟨pages + further, ?_, ?_, ?_, ?_, ?_⟩
          · rw [fetched, rest.fetched]
            simp
          · rw [total]
            exact rest.frugal
          · rw [total]
            simpa using rest.results
          · intro ended
            rw [total]
            simpa using rest.ended ended
          · intro going
            simpa using rest.going going

theorem walk_comes (fetch : Nat → Except ε (Page α)) (demands : Nat) :
    ∃ pages, Comes fetch 0 demands [] ((Cursor.start : Cursor α).walk fetch demands) pages :=
  @comes_of_fits α ε fetch .start 0 [] fits_start frugal_nil demands

/-! ## Collections -/

/-- The page of this number of a collection that is cut into pages of this size. -/
def served (held : List α) (size : Nat) (tells : Bool) (number : Nat) : Page α where
  items := (held.drop (number * size)).take size
  total := if tells then some held.length else none

def pagesAskedFor (count size : Nat) (tells : Bool) : Nat :=
  if tells then max 1 ((count + size - 1) / size) else (count + size - 1) / size + 1

def servedAnswers (ε : Type) (held : List α) (size : Nat) (tells : Bool) (count : Nat) :
    List (Except ε (Page α)) :=
  firstAnswers (fun number => .ok (served held size tells number)) count

theorem eq_servedAnswers {answers : List (Except ε (Page α))} {held : List α} {size : Nat}
    {tells : Bool} (given : ∀ (page : Nat) (answer : Except ε (Page α)),
      answers[page]? = some answer → answer = .ok (served held size tells page)) :
    answers = servedAnswers ε held size tells answers.length := by
  refine List.ext_getElem (by simp [servedAnswers, firstAnswers]) fun page there _ => ?_
  rw [given page answers[page] (List.getElem?_eq_getElem there)]
  simp [servedAnswers, firstAnswers]

theorem items_page (page : Page α) : items [(.ok page : Except ε (Page α))] = page.items := by
  by_cases empty : page.items = [] <;> simp [items, empty]

theorem items_concat (answers : List (Except ε (Page α))) (answer : Except ε (Page α)) :
    items (answers ++ [answer]) =
      if answers.any isLast then items answers else items answers ++ items [answer] := by
  induction answers with
  | nil => simp [items]
  | cons first rest ih =>
      cases first with
      | error error => simp [items, isLast]
      | ok page =>
          by_cases empty : page.items.isEmpty = true
          · simp [items, isLast, empty]
          · by_cases later : rest.any isLast = true <;> simp [items, isLast, empty, ih, later]

theorem failure_of_pages (pages : List (Page α)) :
    failure (pages.map (Except.ok (ε := ε))) = none := by
  induction pages with
  | nil => rfl
  | cons page rest ih =>
      rw [List.map_cons, failure]
      split
      · rfl
      · exact ih

section Served

variable {held : List α} {size : Nat} {tells : Bool} (positive : 0 < size)
include positive

theorem isLast_served (number : Nat) :
    isLast (.ok (served held size tells number) : Except ε (Page α)) = true ↔
      held.length ≤ number * size := by
  simp [isLast, served, List.isEmpty_iff, List.take_eq_nil_iff, Nat.pos_iff_ne_zero.mp positive]

theorem any_isLast_served (count : Nat) :
    (servedAnswers ε held size tells count).any isLast = true ↔
      ∃ number < count, held.length ≤ number * size := by
  simp only [servedAnswers, firstAnswers, List.any_map, List.any_eq_true, List.mem_range,
    Function.comp_apply, isLast_served positive]

theorem items_served (count : Nat) :
    items (servedAnswers ε held size tells count) = held.take (count * size) := by
  induction count with
  | zero => simp [servedAnswers, firstAnswers, items]
  | succ count ih =>
      have cuts : (count + 1) * size = count * size + size := Nat.succ_mul count size
      rw [servedAnswers, firstAnswers_succ, ← servedAnswers, items_concat, ih, cuts]
      by_cases last : (servedAnswers ε held size tells count).any isLast = true
      · obtain ⟨number, below, le⟩ := (any_isLast_served positive count).mp last
        have beyond : held.length ≤ count * size :=
          Nat.le_trans le (Nat.mul_le_mul_right size (Nat.le_of_lt below))
        rw [if_pos last, List.take_of_length_le beyond, List.take_of_length_le (by omega)]
      · rw [if_neg last, items_page, List.take_add]
        rfl

theorem gathered_served (count : Nat) :
    gathered (servedAnswers ε held size tells count) = (held.take (count * size)).map .ok := by
  have pages := failure_of_pages (ε := ε) ((List.range count).map (served held size tells))
  rw [List.map_map] at pages
  rw [gathered, items_served positive, servedAnswers, firstAnswers]
  simp only [Function.comp_def] at pages
  simp [pages]

omit positive in
theorem reported_served (count : Nat) :
    reported (servedAnswers ε held size tells (count + 1)) =
      if tells then some held.length else none := by
  simp [servedAnswers, firstAnswers, List.range_succ_eq_map, reported, served]

theorem isOver_served (count : Nat) :
    isOver (servedAnswers ε held size tells (count + 1)) = true ↔
      held.length ≤ (if tells then count + 1 else count) * size := by
  have longer : count * size ≤ (count + 1) * size := Nat.mul_le_mul_right size (Nat.le_succ count)
  have last : (servedAnswers ε held size tells (count + 1)).any isLast = true ↔
      held.length ≤ count * size := by
    rw [any_isLast_served positive]
    constructor
    · rintro ⟨number, below, le⟩
      exact Nat.le_trans le (Nat.mul_le_mul_right size (Nat.lt_succ_iff.mp below))
    · intro le
      exact ⟨count, Nat.lt_succ_self count, le⟩
  rw [isOver, Bool.or_eq_true_iff, last, reported_served, items_served positive]
  cases tells with
  | false => simp
  | true =>
      simp
      omega

theorem traversal_served {count : Nat}
    (complete : isOver (servedAnswers ε held size tells count) = true) :
    traversal (servedAnswers ε held size tells count) = held.map .ok := by
  cases count with
  | zero => cases complete
  | succ count =>
      have reaches := (isOver_served positive count).mp complete
      have longer : count * size ≤ (count + 1) * size :=
        Nat.mul_le_mul_right size (Nat.le_succ count)
      have whole : held.length ≤ (count + 1) * size := by
        cases tells <;> simp at reaches <;> omega
      have gathers : gathered (servedAnswers ε held size tells (count + 1)) =
          (held.take ((count + 1) * size)).map .ok := gathered_served positive (count + 1)
      rw [List.take_of_length_le whole] at gathers
      rw [traversal_of_few, gathers]
      intro total reports
      rw [reported_served] at reports
      rw [gathers, List.length_map]
      cases tells with
      | false => cases reports
      | true => exact Nat.le_of_eq (Option.some.inj reports)

theorem pages_needed {count pages : Nat} (few : pages * size < count)
    (enough : count ≤ (pages + 1) * size) : (count + size - 1) / size = pages + 1 := by
  have cuts : (pages + 1) * size = pages * size + size := Nat.succ_mul pages size
  have further : (pages + 1 + 1) * size = (pages + 1) * size + size := Nat.succ_mul (pages + 1) size
  exact Nat.div_eq_of_lt_le (by omega) (by omega)

/-- A walk over a collection that is over, and was not before the last page, has asked for exactly
so many pages. -/
theorem pages_of_frugal {count : Nat} (frugal : Frugal (servedAnswers ε held size tells count))
    (complete : isOver (servedAnswers ε held size tells count) = true) :
    count = pagesAskedFor held.length size tells := by
  cases count with
  | zero => cases complete
  | succ count =>
      have reaches := (isOver_served positive count).mp complete
      have before : ∀ earlier, count = earlier + 1 →
          (if tells then earlier + 1 else earlier) * size < held.length := by
        rintro earlier rfl
        have going := frugal (earlier + 1) (by simp [servedAnswers, length_firstAnswers])
        rw [servedAnswers, take_firstAnswers, ← servedAnswers] at going
        by_contra reached
        rw [(isOver_served positive earlier).mpr (Nat.not_lt.mp reached)] at going
        cases going
      simp only [pagesAskedFor]
      cases count with
      | zero =>
          cases tells with
          | false =>
              have none : held.length = 0 := by simpa using reaches
              simp [none, Nat.div_eq_of_lt (Nat.sub_lt positive Nat.one_pos)]
          | true =>
              have one : (held.length + size - 1) / size ≤ 1 := by
                refine Nat.lt_succ_iff.mp (Nat.div_lt_of_lt_mul ?_)
                simp at reaches
                omega
              simp [Nat.max_eq_left one]
      | succ earlier =>
          have unreached := before earlier rfl
          cases tells with
          | false =>
              rw [if_neg Bool.false_ne_true] at unreached reaches ⊢
              rw [pages_needed positive unreached reaches]
          | true =>
              rw [if_pos rfl] at unreached reaches ⊢
              rw [pages_needed positive unreached reaches, Nat.max_eq_right (by omega)]

theorem length_traversal_served (count : Nat) :
    (traversal (servedAnswers ε held size tells count)).length ≤ held.length := by
  have short := length_traversal_le (servedAnswers ε held size tells count)
  rw [gathered_served positive, List.length_map, List.length_take] at short
  omega

theorem walk_served {demands : Nat} (enough : held.length < demands) :
    (Cursor.start : Cursor α).walk
        (fun number => (.ok (served held size tells number) : Except ε (Page α))) demands =
      ⟨held.map .ok, true, List.range (pagesAskedFor held.length size tells)⟩ := by
  obtain ⟨pages, comes⟩ := walk_comes
    (fun number => (.ok (served held size tells number) : Except ε (Page α))) demands
  generalize (Cursor.start : Cursor α).walk _ demands = walk at comes
  obtain ⟨fetched, frugal, results, ended, going⟩ := comes
  rw [Nat.zero_add, ← servedAnswers] at frugal results ended
  have complete : walk.ended = true := by
    rw [← Bool.not_eq_false]
    intro unfinished
    have short := Nat.le_trans results.length_le (length_traversal_served positive pages)
    rw [List.nil_append, going unfinished] at short
    omega
  obtain ⟨reached, all⟩ := ended complete
  rw [List.nil_append, traversal_served positive reached] at all
  rw [List.range_eq_range', ← pages_of_frugal positive frugal reached, ← fetched, ← all, ← complete]

end Served

end Steward.Paging
