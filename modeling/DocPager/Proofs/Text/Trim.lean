import DocPager.Text.Trim
import Mathlib.Data.List.DropRight

/-!
Taking white space off a text that is put together from parts.  White space at an end goes whatever
stands beside it, and what is no white space stops it there.
-/

namespace DocPager.Text

open Unicode (isWhiteSpace)

theorem trimEnd_eq_rdropWhile (s : List Char) : trimEnd s = s.rdropWhile isWhiteSpace := rfl

theorem trimEnd_append {c : Char} (hc : isWhiteSpace c) (s : List Char) :
    trimEnd (s ++ [c]) = trimEnd s := by
  rw [trimEnd_eq_rdropWhile, List.rdropWhile_concat_pos _ _ _ hc, trimEnd_eq_rdropWhile]

theorem trimEnd_append_of_not_isWhiteSpace {c : Char} (hc : ¬isWhiteSpace c) (s : List Char) :
    trimEnd (s ++ [c]) = s ++ [c] := by
  rw [trimEnd_eq_rdropWhile, List.rdropWhile_concat_neg _ _ _ hc]

theorem trim_cons {c : Char} (hc : isWhiteSpace c) (s : List Char) : trim (c :: s) = trim s := by
  have hend : trimEnd (c :: s) =
      if (s.reverse.dropWhile isWhiteSpace).isEmpty then [] else c :: trimEnd s := by
    simp only [trimEnd, List.reverse_cons, List.dropWhile_append]
    split
    · simp [hc]
    · simp
  rw [trim, hend]
  split
  · next hempty =>
    have hnil : trimEnd s = [] := by
      rw [trimEnd, List.isEmpty_iff.mp hempty, List.reverse_nil]
    rw [trim, hnil]
  · exact List.dropWhile_cons_of_pos hc

theorem trim_eq_self {s : List Char} (h : ∀ c ∈ s, isWhiteSpace c = false) : trim s = s := by
  have hend : trimEnd s = s := by
    rw [trimEnd_eq_rdropWhile, List.rdropWhile_eq_self_iff]
    intro hne
    simp [h _ (List.getLast_mem hne)]
  rw [trim, hend, trimStart, List.dropWhile_eq_self_iff]
  intro hpos
  simp [h _ (List.getElem_mem hpos)]

end DocPager.Text
