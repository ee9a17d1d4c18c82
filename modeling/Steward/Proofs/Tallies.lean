import Mathlib.Data.List.Basic
import Steward.Metrics
/-!
# How often a series was counted

A series that is only ever counted stands at the number of its samples.
-/

set_option autoImplicit false

namespace Steward

/-- How a series stands after the samples; one that was never recorded stands at zero. -/
def standing (samples : List Sample) (series : Series) : Nat :=
  ((tallies samples).lookup series).getD 0

theorem lookup_eq_none_iff_any (tallies : List (Series × Nat)) (series : Series) :
    tallies.lookup series = none ↔ tallies.any (·.1 == series) = false := by
  rw [List.lookup_eq_none_iff, List.any_eq_false]
  refine forall₂_congr fun tally _ => ?_
  rw [bne_iff_ne, beq_iff_eq]
  exact ne_comm

theorem lookup_map_count (tallies : List (Series × Nat)) (counted series : Series) :
    (tallies.map fun (other, count) =>
        (other, if other == counted then count + 1 else count)).lookup series =
      (tallies.lookup series).map fun count => if series = counted then count + 1 else count := by
  induction tallies with
  | nil => rfl
  | cons first rest ih =>
      obtain ⟨other, count⟩ := first
      by_cases same : series = other
      · subst same
        simp
      · have apart : (series == other) = false := beq_false_of_ne same
        simp only [List.map_cons, List.lookup_cons, apart]
        exact ih

/-- One more sample that counts moves its series on by one, and no other. -/
theorem standing_sample (samples : List Sample) {sample : Sample}
    (counts : ∀ before, sample.tally before = before + 1) (series : Series) :
    standing (samples ++ [sample]) series =
      standing samples series + if sample.series = series then 1 else 0 := by
  unfold standing tallies
  rw [List.foldl_append, List.foldl_cons, List.foldl_nil]
  simp only [counts]
  generalize List.foldl _ [] samples = before
  split
  · next present =>
      refine (congrArg (·.getD 0) (lookup_map_count before sample.series series)).trans ?_
      cases found : before.lookup series with
      | some count =>
          by_cases same : series = sample.series
          · simp [same]
          · simp [same, Ne.symm same]
      | none =>
          have apart : sample.series ≠ series := by
            rintro rfl
            exact absurd present (Bool.eq_false_iff.mp ((lookup_eq_none_iff_any ..).mp found))
          simp [apart]
  · next absent =>
      have new : before.lookup sample.series = none :=
        (lookup_eq_none_iff_any before sample.series).mpr (Bool.eq_false_iff.mpr absent)
      rw [List.lookup_append]
      by_cases same : series = sample.series
      · rw [same]
        simp [new]
      · have apart : (series == sample.series) = false := beq_false_of_ne same
        simp [List.lookup_cons, apart, Ne.symm same]

/-- One more count of a series moves this series on by one, and no other. -/
theorem standing_count (samples : List Sample) (counted series : Series) :
    standing (samples ++ [.count counted]) series =
      standing samples series + if counted = series then 1 else 0 :=
  standing_sample samples (fun _ => rfl) series

end Steward
