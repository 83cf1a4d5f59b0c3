/-!
Sets of characters given by ranges of code points.  A class of the Unicode standard is a table of
such ranges, in ascending order, and membership stops at the first range that lies above the
character.
-/

namespace DocPager.Unicode

/-- A set of code points: the first and the last member of each range, in ascending order. -/
abbrev CodePoints := List (Nat × Nat)

namespace CodePoints

def covers : CodePoints → Nat → Bool
  | [], _ => false
  | (low, high) :: rest, n => low ≤ n && (n ≤ high || covers rest n)

def contains (s : CodePoints) (c : Char) : Bool := s.covers c.toNat

theorem covers_exists {s : CodePoints} {n : Nat} (h : s.covers n = true) :
    ∃ r ∈ s, r.1 ≤ n ∧ n ≤ r.2 := by
  induction s with
  | nil => simp [covers] at h
  | cons r rest ih =>
    simp only [covers, Bool.and_eq_true, Bool.or_eq_true, decide_eq_true_eq] at h
    rcases h with ⟨hlow, hhigh | hrest⟩
    · exact ⟨r, by simp, hlow, hhigh⟩
    · obtain ⟨q, hq, hb⟩ := ih hrest
      exact ⟨q, List.mem_cons_of_mem _ hq, hb⟩

end CodePoints
end DocPager.Unicode
