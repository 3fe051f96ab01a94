import Mathlib.Data.List.Dedup
import Mathlib.Data.List.Induction

/-! The first occurrence of each item of a list. Taken item by item from the left, an item is kept just when
it was not there before. -/

set_option autoImplicit false
namespace HouseStyle

variable {α : Type} [BEq α] [LawfulBEq α]

theorem eraseDups_concat (items : List α) (last : α) :
    (items ++ [last]).eraseDups = if items.contains last then items.eraseDups else items.eraseDups ++ [last] := by
  rw [List.eraseDups_append]
  by_cases known : items.contains last
  · have gone : [last].removeAll items = [] := by simpa [List.removeAll] using known
    rw [if_pos known, gone, List.eraseDups_nil, List.append_nil]
  · have kept : [last].removeAll items = [last] := by simpa [List.removeAll] using known
    rw [if_neg known, kept]
    rfl

theorem nodup_eraseDups (items : List α) : items.eraseDups.Nodup := by
  induction items using List.reverseRecOn with
  | nil => exact List.nodup_nil
  | append_singleton items last ih =>
    rw [eraseDups_concat]
    split
    · exact ih
    · next new =>
      refine List.nodup_append.mpr ⟨ih, List.nodup_singleton last, ?_⟩
      rintro item member other single rfl
      rw [List.mem_singleton.mp single, List.mem_eraseDups] at member
      exact new (by simpa using member)

theorem eraseDups_of_nodup {items : List α} (distinct : items.Nodup) : items.eraseDups = items := by
  induction items using List.reverseRecOn with
  | nil => rfl
  | append_singleton items last ih =>
    obtain ⟨front, _, apart⟩ := List.nodup_append.mp distinct
    have new : items.contains last = false := by
      rw [Bool.eq_false_iff]
      intro known
      exact apart last (by simpa using known) last (by simp) rfl
    rw [eraseDups_concat, new, ih front]
    rfl

/-- Taking first occurrences and leaving items out can change places. -/
theorem eraseDups_filter (keep : α → Bool) (items : List α) :
    (items.filter keep).eraseDups = items.eraseDups.filter keep := by
  induction items using List.reverseRecOn with
  | nil => rfl
  | append_singleton items last ih =>
    rw [eraseDups_concat, List.filter_append]
    by_cases kept : keep last
    · have listed : (items.filter keep).contains last = items.contains last := by
        rw [Bool.eq_iff_iff]
        simp [kept]
      rw [List.filter_cons_of_pos kept, List.filter_nil, eraseDups_concat, listed]
      split
      · exact ih
      · rw [List.filter_append, ih, List.filter_cons_of_pos kept, List.filter_nil]
    · rw [List.filter_cons_of_neg kept, List.filter_nil, List.append_nil, ih]
      split
      · rfl
      · rw [List.filter_append, List.filter_cons_of_neg kept, List.filter_nil, List.append_nil]

end HouseStyle
