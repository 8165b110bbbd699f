import Mathlib.Data.List.Basic

/-!
# Handing out a list item by item

Whoever asks for the items of a list one after the other gets each of them once and in order, and
from then on the end, again and again. The account of this is the list itself: it consists of the
items handed out and of those that are left. More may be added behind what is left, as long as the
end was not handed out.
-/

namespace KeySweeper

variable {α : Type} {items left : List α} {seen : List (Option α)}

/-- Of these items some were handed out in order and these are left, and the end was handed out only
when none was left. What was handed out is told together with the ends. -/
structure Handed (items left : List α) (seen : List (Option α)) : Prop where
  account : ∃ delivered ends, seen = delivered.map some ++ List.replicate ends none ∧
    items = delivered ++ left
  empty : none ∈ seen → left = []

namespace Handed

/-- Nothing was handed out. -/
theorem start (items : List α) : Handed items items [] := ⟨⟨[], 0, rfl, rfl⟩, nofun⟩

/-- As long as the end was not handed out there are no ends. -/
theorem ends_eq_zero {delivered : List α} {ends : Nat}
    (unended : none ∉ delivered.map some ++ List.replicate ends none) : ends = 0 := by
  by_contra positive
  exact unended (List.mem_append_right _ (List.mem_replicate.mpr ⟨positive, rfl⟩))

/-- The first item that is left is handed out next, and the end if none is left. -/
theorem next (handed : Handed items left seen) : Handed items left.tail (seen ++ [left.head?]) := by
  obtain ⟨⟨delivered, ends, rfl, rfl⟩, empty⟩ := handed
  cases left with
  | nil =>
    refine ⟨⟨delivered, ends + 1, ?_, rfl⟩, fun _ => rfl⟩
    rw [List.replicate_succ', ← List.append_assoc]
    rfl
  | cons item rest =>
    obtain rfl := ends_eq_zero fun ended => List.cons_ne_nil item rest (empty ended)
    exact ⟨⟨delivered ++ [item], 0, by simp, by simp⟩, by simp⟩

/-- As long as the end was not handed out more items can come. -/
theorem more (handed : Handed items left seen) (unended : none ∉ seen) (added : List α) :
    Handed (items ++ added) (left ++ added) seen := by
  obtain ⟨⟨delivered, ends, told, rfl⟩, -⟩ := handed
  exact ⟨⟨delivered, ends, told, List.append_assoc ..⟩, fun ended => absurd ended unended⟩

/-- As long as the end was not handed out all that was handed out are items. -/
theorem items_of_unended (handed : Handed items left seen) (unended : none ∉ seen) :
    seen ++ left.map some = items.map some := by
  obtain ⟨⟨delivered, ends, rfl, rfl⟩, -⟩ := handed
  obtain rfl := ends_eq_zero unended
  simp

/-- What was handed out are the items in order and then the ends. -/
theorem isPrefix (handed : Handed items left seen) :
    seen <+: items.map some ++ List.replicate seen.length none := by
  by_cases ended : none ∈ seen
  · obtain ⟨⟨delivered, ends, told, rfl⟩, empty⟩ := handed
    have fewer : ends ≤ seen.length := by simp [told]
    have ending : List.replicate ends (none : Option α) <+: List.replicate seen.length none :=
      ⟨List.replicate (seen.length - ends) none, by
        rw [List.replicate_append_replicate, Nat.add_sub_cancel' fewer]⟩
    rw [empty ended, List.append_nil]
    nth_rewrite 1 [told]
    exact (List.prefix_append_right_inj _).mpr ending
  · rw [← handed.items_of_unended ended, List.append_assoc]
    exact List.prefix_append ..

end Handed

end KeySweeper
