import DocPager.Unicode.Alphanumeric
import DocPager.Unicode.LowerCase
import DocPager.Unicode.WhiteSpace

/-!
White space stays out of the other classes: no letter or number is white space, and lower case makes
none of what is none.
-/

namespace DocPager.Unicode

theorem CodePoints.covers_eq_false {s : CodePoints} {low high n : Nat}
    (h : ∀ q ∈ s, high < q.1 ∨ q.2 < low) (hlow : low ≤ n) (hhigh : n ≤ high) :
    s.covers n = false := by
  rw [Bool.eq_false_iff]
  intro hn
  obtain ⟨q, hq, hfirst, hlast⟩ := covers_exists hn
  have := h q hq
  omega

theorem isWhiteSpace_of_isAlphanumeric {c : Char} (h : isAlphanumeric c = true) :
    isWhiteSpace c = false := by
  have hapart : ∀ r ∈ alphanumeric, ∀ q ∈ whiteSpace, r.2 < q.1 ∨ q.2 < r.1 := by decide +kernel
  obtain ⟨r, hr, hfirst, hlast⟩ := CodePoints.covers_exists h
  exact CodePoints.covers_eq_false (hapart r hr) hfirst hlast

/-- A number that is no code point stands for the null character. -/
theorem isWhiteSpace_ofNat {n : Nat} (h : whiteSpace.covers n = false) :
    isWhiteSpace (Char.ofNat n) = false := by
  rw [Char.ofNat]
  by_cases hn : n.isValidChar
  · rw [dif_pos hn]
    exact h
  · rw [dif_neg hn]
    decide

theorem CapitalRun.isWhiteSpace_lower {r : CapitalRun} (hr : r ∈ capitalRuns) {n : Nat}
    (hn : r.covers n = true) : isWhiteSpace (Char.ofNat (r.lower n)) = false := by
  have hapart : ∀ r ∈ capitalRuns, ∀ q ∈ whiteSpace,
      r.target + (r.last - r.first) < q.1 ∨ q.2 < r.target := by decide +kernel
  have hlast : n ≤ r.last := by
    simp only [covers, Bool.and_eq_true, decide_eq_true_eq] at hn
    exact hn.1.2
  refine isWhiteSpace_ofNat (CodePoints.covers_eq_false (hapart r hr) ?_ ?_)
  · exact Nat.le_add_right r.target _
  · show r.target + (n - r.first) ≤ _
    omega

theorem isWhiteSpace_of_mem_lowerCase {c d : Char} (hc : isWhiteSpace c = false)
    (hd : d ∈ lowerCase c) : isWhiteSpace d = false := by
  rw [lowerCase] at hd
  split at hd
  · obtain rfl | hd := List.mem_cons.mp hd
    · decide
    · obtain rfl := List.mem_singleton.mp hd
      decide
  · split at hd
    · next r hfind =>
      obtain rfl := List.mem_singleton.mp hd
      have hcovers := List.find?_some hfind
      exact r.isWhiteSpace_lower (List.mem_of_find?_eq_some hfind) hcovers
    · obtain rfl := List.mem_singleton.mp hd
      exact hc

end DocPager.Unicode
