import Mathlib.Algebra.Order.Ring.Int

/-!
Numbers as a machine holds them.  A word has 64 bits, and a signed word goes half as far up.  A number
that does not fit into its word is a fault, and so is an index that is not in its list.  Each operation
stands here with the condition under which there is no fault, and then its result is the exact one.
-/

namespace DocPager.Machine

inductive Fault where
  /-- A number does not fit into its word. -/
  | overflow
  /-- There is nothing at an index. -/
  | outOfRange
  deriving DecidableEq, Repr

abbrev Checked := Except Fault

/-! ## Numbers -/

def add (m n : Nat) : Checked Nat := if m + n < 2 ^ 64 then pure (m + n) else throw .overflow

/-- The largest word instead of a number that is too large for one. -/
def saturate (n : Nat) : Nat := min n (2 ^ 64 - 1)

/-- A number as a signed word, `none` if it is too large for one. -/
def signed? (n : Nat) : Option Int := if n < 2 ^ 63 then some n else none

/-- The difference of two signed words. -/
def sub (m n : Int) : Checked Int :=
  if -2 ^ 63 ≤ m - n ∧ m - n < 2 ^ 63 then pure (m - n) else throw .overflow

theorem add_eq_pure {m n : Nat} (h : m + n < 2 ^ 64) : add m n = pure (m + n) := if_pos h

theorem signed?_eq_some {n : Nat} (h : n < 2 ^ 63) : signed? n = some (n : Int) := if_pos h

theorem sub_eq_pure {m n : Nat} (hm : m < 2 ^ 63) (hn : n < 2 ^ 63) :
    sub m n = pure ((m : Int) - n) := by
  rw [sub, if_pos (by omega)]

/-! ## Times -/

/-- The time `hold` milliseconds after another.  Of a time the seconds are a signed word. -/
def later (time hold : Nat) : Checked Nat :=
  if (time + hold) / 1000 < 2 ^ 63 then pure (time + hold) else throw .overflow

theorem later_eq_pure {time hold : Nat} (htime : time < 2 ^ 62 * 1000) (hhold : hold < 2 ^ 64) :
    later time hold = pure (time + hold) := by
  rw [later, if_pos (by omega)]

/-! ## Lists and texts -/

def get {α : Type} (l : List α) (index : Nat) : Checked α :=
  match l[index]? with
  | some a => pure a
  | none => throw .outOfRange

/-- A character over and over.  The length of a text is a signed word. -/
def fill (count : Nat) (c : Char) : Checked String :=
  if count < 2 ^ 63 then pure (String.ofList (List.replicate count c)) else throw .overflow

section

variable {α β : Type} {l : List α}

theorem get_eq_pure {index : Nat} {a : α} (h : l[index]? = some a) : get l index = pure a := by
  rw [get, h]

theorem fill_eq_pure {count : Nat} (h : count < 2 ^ 63) (c : Char) :
    fill count c = pure (String.ofList (List.replicate count c)) := if_pos h

/-! ## Loops

What no element of a list makes fail does not fail on the list. -/

theorem mapM_eq_pure {f : α → Checked β} {g : α → β} (h : ∀ a ∈ l, f a = pure (g a)) :
    l.mapM f = pure (l.map g) := by
  induction l with
  | nil => rfl
  | cons a rest ih =>
    rw [List.forall_mem_cons] at h
    rw [List.mapM_cons, h.1, ih h.2, pure_bind, pure_bind, List.map_cons]

theorem findM?_eq_pure {f : α → Checked Bool} {p : α → Bool} (h : ∀ a ∈ l, f a = pure (p a)) :
    l.findM? f = pure (l.find? p) := by
  induction l with
  | nil => rfl
  | cons a rest ih =>
    rw [List.forall_mem_cons] at h
    rw [List.findM?, h.1, ih h.2, pure_bind, List.find?_cons]
    cases p a <;> rfl

theorem allM_eq_pure {f : α → Checked Bool} {p : α → Bool} (h : ∀ a ∈ l, f a = pure (p a)) :
    l.allM f = pure (l.all p) := by
  induction l with
  | nil => rfl
  | cons a rest ih =>
    rw [List.forall_mem_cons] at h
    rw [List.allM_cons, h.1, ih h.2, pure_bind, List.all_cons]
    cases p a <;> rfl

end

end DocPager.Machine
