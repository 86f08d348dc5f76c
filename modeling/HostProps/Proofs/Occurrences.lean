import Mathlib.Data.List.Induction
import Mathlib.Data.List.Nodup

/-!
# First and last occurrences

Settings and patterns hold each key once. The place of a key is that of its first occurrence in
what is given, which is the order of `List.eraseDups`; its value can be that of the last
occurrence (`IsLast`). Both are told here by what one more item at the end does to them, since
that is how settings are merged.

## Main results

* `eraseDups_concat`: one more item at the end.
* `nodup_eraseDups`: each item once.
* `isLast_concat_iff`: one more pair at the end.
-/

namespace HostProps

variable {α β : Type}

section FirstOccurrence

variable [BEq α] [LawfulBEq α]

/-- The first occurrences, with one more item at the end. -/
theorem eraseDups_concat (l : List α) (a : α) :
    (l ++ [a]).eraseDups = if a ∈ l then l.eraseDups else l.eraseDups ++ [a] := by
  rw [List.eraseDups_append]
  by_cases h : a ∈ l
  · have hnone : [a].removeAll l = [] := List.filter_cons_of_neg (by simp [h])
    rw [if_pos h, hnone, List.eraseDups_nil, List.append_nil]
  · have hsome : [a].removeAll l = [a] := List.filter_cons_of_pos (by simp [h])
    rw [if_neg h, hsome]
    rfl

/-- **First occurrences are distinct.** -/
theorem nodup_eraseDups (l : List α) : l.eraseDups.Nodup := by
  induction l using List.reverseRecOn with
  | nil => exact List.nodup_nil
  | append_singleton l a ih =>
      rw [eraseDups_concat]
      by_cases h : a ∈ l
      · rw [if_pos h]
        exact ih
      · rw [if_neg h, ← List.concat_eq_append]
        exact List.Nodup.concat (mt List.mem_eraseDups.1 h) ih

end FirstOccurrence

/-- A pair occurs, and no later pair has its key. -/
def IsLast (pairs : List (α × β)) (pair : α × β) : Prop :=
  ∃ before after, pairs = before ++ pair :: after ∧ pair.1 ∉ after.map Prod.fst

/-- A last pair, with one more pair at the end: that pair, or one of another key. -/
theorem isLast_concat_iff {pairs : List (α × β)} {last pair : α × β} :
    IsLast (pairs ++ [last]) pair ↔ pair = last ∨ IsLast pairs pair ∧ pair.1 ≠ last.1 := by
  constructor
  · rintro ⟨before, after, heq, hafter⟩
    induction after using List.reverseRecOn with
    | nil => exact .inl (List.append_singleton_inj.1 heq).2.symm
    | append_singleton after later _ =>
        rw [← List.cons_append, ← List.append_assoc] at heq
        obtain ⟨hpairs, rfl⟩ := List.append_singleton_inj.1 heq
        rw [List.map_append, List.mem_append, not_or] at hafter
        exact .inr ⟨⟨before, after, hpairs, hafter.1⟩, fun h => hafter.2 (List.mem_singleton.2 h)⟩
  · rintro (rfl | ⟨⟨before, after, rfl, hafter⟩, hkey⟩)
    · exact ⟨pairs, [], rfl, List.not_mem_nil⟩
    · refine ⟨before, after ++ [last], List.append_assoc _ _ _, ?_⟩
      rw [List.map_append, List.mem_append, not_or]
      exact ⟨hafter, fun h => hkey (List.mem_singleton.1 h)⟩

end HostProps
