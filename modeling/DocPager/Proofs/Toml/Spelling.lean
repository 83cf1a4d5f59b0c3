import DocPager.Toml.Document
import Mathlib.Data.List.Basic
import Mathlib.Data.List.Forall2
import Mathlib.Data.List.TakeWhile

/-!
How integers and texts are written.  An integer may have a sign, and single underscores between its
digits.  A text stands in double quotes, and each of its characters can be written as it is, unless it
is a quote, a backslash or a control character, or by an escape.  However one of them is written, it
is read as itself, if only it is in the range of integers.
-/

namespace DocPager.Toml

/-- Whether a line is over. -/
def AtLineEnd (rest : List Char) : Prop := ∀ c ∈ rest.head?, c = '\n'

theorem ne_of_eq_true_of_eq_false {p : Char → Bool} {c d : Char} (hc : p c = true)
    (hd : p d = false) : c ≠ d := by
  rintro rfl
  rw [hc] at hd
  cases hd

/-! ## Integers -/

/-- Digits, and how they are written with single underscores between them. -/
inductive Grouped : List Char → List Char → Prop
  | last (c : Char) : Grouped [c] [c]
  | next (c : Char) {w digits : List Char} (h : Grouped w digits) : Grouped (c :: w) (c :: digits)
  | underscore (c : Char) {w digits : List Char} (h : Grouped w digits) :
      Grouped (c :: '_' :: w) (c :: digits)

/-- The ways to write an integer in decimal. -/
inductive SpellsInteger : List Char → Int → Prop
  | plain {w : List Char} {n : Nat} (h : Grouped w (Nat.toDigits 10 n)) : SpellsInteger w n
  | plus {w : List Char} {n : Nat} (h : Grouped w (Nat.toDigits 10 n)) : SpellsInteger ('+' :: w) n
  | minus {w : List Char} {n : Nat} (h : Grouped w (Nat.toDigits 10 n)) :
      SpellsInteger ('-' :: w) (-n)

/-- The characters that integers are written with. -/
def isNumeral (c : Char) : Bool := c.isDigit || c = '_' || c = '+' || c = '-'

namespace Grouped

theorem self {digits : List Char} (h : digits ≠ []) : Grouped digits digits := by
  induction digits with
  | nil => exact absurd rfl h
  | cons c rest ih =>
    cases rest with
    | nil => exact last c
    | cons d rest => exact next c (ih (List.cons_ne_nil d rest))

variable {w digits : List Char}

theorem head? (h : Grouped w digits) : w.head? = digits.head? := by
  cases h <;> rfl

theorem mem (h : Grouped w digits) {c : Char} (hc : c ∈ w) : c ∈ digits ∨ c = '_' := by
  induction h with
  | last d => exact Or.inl hc
  | next d _ ih =>
    rcases List.mem_cons.mp hc with rfl | hc
    · exact Or.inl List.mem_cons_self
    · exact (ih hc).imp_left (List.mem_cons_of_mem d)
  | underscore d _ ih =>
    rcases List.mem_cons.mp hc with rfl | hc
    · exact Or.inl List.mem_cons_self
    · rcases List.mem_cons.mp hc with rfl | hc
      · exact Or.inr rfl
      · exact (ih hc).imp_left (List.mem_cons_of_mem d)

theorem ungroup_eq (h : Grouped w digits) {isDigit : Char → Bool}
    (hdigits : ∀ c ∈ digits, isDigit c = true) (hunder : isDigit '_' = false) :
    Scalar.ungroup isDigit w = some digits := by
  induction h with
  | last c =>
    rw [Scalar.ungroup, if_pos (hdigits c List.mem_cons_self)]
  | @next c w digits h ih =>
    rw [List.forall_mem_cons] at hdigits
    have hrest := ih hdigits.2
    cases w with
    | nil => cases h
    | cons d w =>
      have hne : d ≠ '_' := by
        rintro rfl
        have hhead := h.head?
        have hmem := List.mem_of_head? hhead.symm
        rw [hdigits.2 '_' hmem] at hunder
        cases hunder
      rw [Scalar.ungroup, if_pos hdigits.1, hrest, Option.map_some]
      · simp
      · simpa using hne
  | underscore c h ih =>
    rw [List.forall_mem_cons] at hdigits
    rw [Scalar.ungroup, if_pos hdigits.1, ih hdigits.2, Option.map_some]

end Grouped

theorem head?_toDigits {n : Nat} (h : 0 < n) : (Nat.toDigits 10 n).head? ≠ some '0' := by
  induction n using Nat.strongRecOn with
  | ind n ih =>
    rcases Nat.lt_or_ge n 10 with hlt | hge
    · rw [Nat.toDigits_of_lt_base hlt, List.head?_cons, Ne, Option.some.injEq, Nat.digitChar_eq_zero]
      omega
    · rw [Nat.toDigits_of_base_le (by omega) hge, List.head?_append_of_ne_nil _ Nat.toDigits_ne_nil]
      exact ih (n / 10) (by omega) (by omega)

theorem isDigit_of_mem_toDigits {n : Nat} {c : Char} (h : c ∈ Nat.toDigits 10 n) : c.isDigit = true :=
  Nat.isDigit_of_mem_toDigits (by omega) (by omega) h

section Digits

variable {w : List Char} {n : Nat} (h : Grouped w (Nat.toDigits 10 n))
include h

theorem isDigit_or_of_mem_grouped {c : Char} (hc : c ∈ w) : c.isDigit = true ∨ c = '_' :=
  (h.mem hc).imp_left isDigit_of_mem_toDigits

theorem isDigit_of_head_grouped {c : Char} (hc : w.head? = some c) : c.isDigit = true :=
  isDigit_of_mem_toDigits (List.mem_of_head? (h.head?.symm.trans hc))

theorem decimalDigits?_of_grouped : Scalar.decimalDigits? w = some (Nat.toDigits 10 n) := by
  rw [Scalar.decimalDigits?, h.ungroup_eq (fun _ => isDigit_of_mem_toDigits) (by decide),
    Option.filter_some, if_pos]
  rcases Nat.eq_zero_or_pos n with rfl | hpos
  · rfl
  · simpa using Or.inr (head?_toDigits hpos)

end Digits

theorem ofDigits_toDigits (n : Nat) : Binary.ofDigits (Nat.toDigits 10 n) = n :=
  Nat.ofDigitChars_toDigits (by omega) (by omega)

namespace SpellsInteger

/-- The shortest way to write an integer. -/
theorem toString_int (n : Int) : SpellsInteger (toString n).toList n := by
  have hgrouped : ∀ m : Nat, Grouped m.repr.toList (Nat.toDigits 10 m) := by
    intro m
    rw [Nat.toList_repr]
    exact Grouped.self Nat.toDigits_ne_nil
  rw [Int.toString_eq_repr, Int.repr_eq_if]
  split
  · next hn =>
    have hplain := plain (hgrouped n.toNat)
    rwa [Int.toNat_of_nonneg hn] at hplain
  · next hn =>
    have hminus := minus (hgrouped (-n).toNat)
    rw [Int.toNat_of_nonneg (by omega), Int.neg_neg] at hminus
    rwa [String.toList_append]

variable {w : List Char} {n : Int}

theorem isNumeral_of_mem (h : SpellsInteger w n) {c : Char} (hc : c ∈ w) : isNumeral c = true := by
  have hbody : ∀ {w : List Char} {m : Nat}, Grouped w (Nat.toDigits 10 m) → c ∈ w →
      isNumeral c = true := by
    intro w m hgrouped hc
    rcases isDigit_or_of_mem_grouped hgrouped hc with hdigit | rfl
    · simp [isNumeral, hdigit]
    · decide
  cases h with
  | plain h => exact hbody h hc
  | plus h | minus h =>
    rcases List.mem_cons.mp hc with rfl | hc
    · decide
    · exact hbody h hc

theorem not_mem (h : SpellsInteger w n) {c : Char} (hc : isNumeral c = false) : c ∉ w :=
  fun hmem => ne_of_eq_true_of_eq_false (h.isNumeral_of_mem hmem) hc rfl

theorem ne_nil (h : SpellsInteger w n) : w ≠ [] := by
  cases h with
  | plain h =>
    rintro rfl
    cases h
  | plus h | minus h => exact List.cons_ne_nil _ _

/-- A sign is at the front only. -/
theorem getElem?_ne_minus (h : SpellsInteger w n) (k : Nat) : w[k + 1]? ≠ some '-' := by
  have hbody : ∀ {w : List Char} {m : Nat}, Grouped w (Nat.toDigits 10 m) → '-' ∉ w := by
    intro w m hgrouped hmem
    exact absurd (isDigit_or_of_mem_grouped hgrouped hmem) (by decide)
  intro hget
  cases h with
  | plain h => exact hbody h (List.mem_of_getElem? hget)
  | plus h | minus h => exact hbody h (List.mem_of_getElem? hget)

end SpellsInteger

namespace Scalar

theorem splitAt?_eq_none {p : Char → Bool} {s : List Char} (h : ∀ c ∈ s, p c = false) :
    splitAt? p s = none := by
  have hdrop : (s.dropWhile fun c => !p c) = [] := by
    rw [List.dropWhile_eq_nil_iff]
    intro c hc
    rw [h c hc]
    rfl
  rw [splitAt?, hdrop]

theorem mem_of_mem_splitSign {s : List Char} {c : Char} (h : c ∈ (splitSign s).2) : c ∈ s := by
  unfold splitSign at h
  split at h
  · exact List.mem_cons_of_mem _ h
  · exact List.mem_cons_of_mem _ h
  · exact h

theorem isDate_eq_false {s : List Char} (h : s[4]? ≠ some '-') : isDate s = false := by
  unfold isDate
  split
  · simp [h]
  · rfl

theorem isTime_eq_false {s : List Char} (h : ':' ∉ s) : isTime s = false := by
  have hcolon : s[5]? ≠ some ':' := fun hget => h (List.mem_of_getElem? hget)
  simp [isTime, hcolon]

theorem isMoment_eq_false {s : List Char} (hdash : s[4]? ≠ some '-') (hcolon : ':' ∉ s) :
    isMoment s = false := by
  have htake : (s.take 10)[4]? ≠ some '-' := by rwa [List.getElem?_take_of_lt (by omega)]
  rw [isMoment, isDate_eq_false hdash, isTime_eq_false hcolon, isDate_eq_false htake]
  rfl

theorem isWordChar_iff {c : Char} :
    isWordChar c = true ↔ c.isAlphanum = true ∨ c ∈ ['_', '+', '-', '.', ':'] := by
  simp [isWordChar, String.contains_char_eq]

theorem isWordChar_of_isNumeral {c : Char} (h : isNumeral c = true) : isWordChar c = true := by
  rw [isWordChar_iff, Char.isAlphanum, Bool.or_eq_true]
  simp only [isNumeral, Bool.or_eq_true, decide_eq_true_eq] at h
  obtain ((hdigit | rfl) | rfl) | rfl := h
  · exact Or.inl (Or.inr hdigit)
  all_goals exact Or.inr (by decide)

/-- A word at the end of a line is read whole. -/
theorem read?_of_word {w rest : List Char} (hw : ∀ c ∈ w, isWordChar c = true)
    (hrest : AtLineEnd rest) : read? (w ++ rest) = (ofWord? w).map fun v => (v, rest) := by
  have hend : ¬isWordChar '\n' = true := by
    rw [isWordChar_iff]
    decide
  have htake : (w ++ rest).takeWhile isWordChar = w := by
    rw [List.takeWhile_append_of_pos hw]
    cases rest with
    | nil => exact List.append_nil w
    | cons c rest =>
      obtain rfl := hrest c rfl
      rw [List.takeWhile_cons_of_neg hend, List.append_nil]
  have hdrop : (w ++ rest).dropWhile isWordChar = rest := by
    rw [List.dropWhile_append_of_pos hw]
    cases rest with
    | nil => rfl
    | cons c rest =>
      obtain rfl := hrest c rfl
      exact List.dropWhile_cons_of_neg hend
  simp only [read?, htake, hdrop]
  -- a time could only follow behind a blank
  cases rest with
  | nil => rfl
  | cons c rest =>
    obtain rfl := hrest c rfl
    rfl

section Spelled

variable {w : List Char} {n : Int} (h : SpellsInteger w n)
include h

theorem splitSign_of_spells :
    ∃ digits m, decimalDigits? (splitSign w).2 = some digits ∧ Binary.ofDigits digits = m ∧
      n = if (splitSign w).1 then -(m : Int) else m := by
  cases h with
  | @plain w m h =>
    have hsign : splitSign w = (false, w) := by
      unfold splitSign
      split
      · exact absurd (isDigit_of_head_grouped h rfl) (by decide)
      · exact absurd (isDigit_of_head_grouped h rfl) (by decide)
      · rfl
    rw [hsign]
    exact ⟨_, m, decimalDigits?_of_grouped h, ofDigits_toDigits m, rfl⟩
  | @plus w m h => exact ⟨_, m, decimalDigits?_of_grouped h, ofDigits_toDigits m, rfl⟩
  | @minus w m h => exact ⟨_, m, decimalDigits?_of_grouped h, ofDigits_toDigits m, rfl⟩

theorem integer?_of_spells :
    integer? w = if minInteger ≤ n ∧ n ≤ maxInteger then some n else none := by
  obtain ⟨digits, m, hdigits, hm, hn⟩ := splitSign_of_spells h
  unfold integer?
  split
  · exact absurd (h.not_mem (c := 'x') (by decide)) (by simp)
  · exact absurd (h.not_mem (c := 'o') (by decide)) (by simp)
  · exact absurd (h.not_mem (c := 'b') (by decide)) (by simp)
  · simp only [hdigits, Option.map_some, hm, ← hn, Option.filter_some]
    simp

theorem decimal?_of_spells : decimal? w = none := by
  have hnone : ∀ p : Char → Bool, (∀ c, p c = true → isNumeral c = false) →
      splitAt? p (splitSign w).2 = none := by
    intro p hp
    refine splitAt?_eq_none fun c hc => ?_
    by_contra hpc
    exact h.not_mem (hp c (by simpa using hpc)) (mem_of_mem_splitSign hc)
  have hexponent := hnone (fun c => c = 'e' || c = 'E') (by
    intro c hc
    obtain rfl | rfl : c = 'e' ∨ c = 'E' := by simpa using hc
    · decide
    · decide)
  have hpoint := hnone (· == '.') (by
    intro c hc
    obtain rfl := eq_of_beq hc
    decide)
  unfold decimal?
  simp [hexponent, hpoint]

theorem ofWord?_of_spells :
    ofWord? w = if minInteger ≤ n ∧ n ≤ maxInteger then some (.integer n) else none := by
  have hword : ∀ s : List Char, ∀ c ∈ s, isNumeral c = false → w ≠ s ∧ (splitSign w).2 ≠ s := by
    rintro s c hc hother
    exact ⟨fun heq => h.not_mem hother (heq ▸ hc),
      fun heq => h.not_mem hother (mem_of_mem_splitSign (heq ▸ hc))⟩
  have hmoment : isMoment w = false :=
    isMoment_eq_false (h.getElem?_ne_minus 3) (h.not_mem (by decide))
  unfold ofWord?
  simp only [(hword "true".toList 't' (by decide) (by decide)).1,
    (hword "false".toList 'f' (by decide) (by decide)).1,
    (hword "inf".toList 'i' (by decide) (by decide)).2,
    (hword "nan".toList 'a' (by decide) (by decide)).2, if_false, hmoment, Bool.false_eq_true,
    integer?_of_spells h, decimal?_of_spells h]
  by_cases hrange : minInteger ≤ n ∧ n ≤ maxInteger
  · simp only [if_pos hrange]
  · simp only [if_neg hrange, Option.map_none]

theorem read?_of_spells {rest : List Char} (hrest : AtLineEnd rest) :
    read? (w ++ rest) =
      if minInteger ≤ n ∧ n ≤ maxInteger then some (.integer n, rest) else none := by
  have hword : ∀ c ∈ w, isWordChar c = true :=
    fun c hc => isWordChar_of_isNumeral (h.isNumeral_of_mem hc)
  rw [read?_of_word hword hrest, ofWord?_of_spells h]
  split <;> rfl

end Spelled

end Scalar

/-! ## Texts -/

/-- What may stand behind a backslash, and the character that is meant. -/
def shortEscapes : List (Char × Char) :=
  [('b', '\x08'), ('t', '\t'), ('n', '\n'), ('f', '\x0c'), ('r', '\x0d'), ('"', '"'), ('\\', '\\')]

/-- The letters behind a backslash that stand before a code point, and with how many digits. -/
def codeEscapes : List (Char × Nat) := [('u', 4), ('U', 8)]

/-- A hexadecimal digit in either case, and its value. -/
def IsHexDigit (d : Char) (v : Nat) : Prop :=
  v < 16 ∧ (d = Nat.digitChar v ∨ d = (Nat.digitChar v).toUpper)

/-- The number with these hexadecimal digits, behind others that have come to `start`. -/
def ofHex (start : Nat) (values : List Nat) : Nat := values.foldl (fun n v => 16 * n + v) start

/-- The ways to write a text, quotes apart. -/
inductive SpellsText : List Char → List Char → Prop
  | nil : SpellsText [] []
  | plain {c : Char} {w text : List Char} (hc : ' ' ≤ c ∨ c = '\t')
      (hother : c ∉ ['"', '\\', '\x7f']) (h : SpellsText w text) : SpellsText (c :: w) (c :: text)
  | short {e c : Char} {w text : List Char} (he : (e, c) ∈ shortEscapes) (h : SpellsText w text) :
      SpellsText ('\\' :: e :: w) (c :: text)
  | code {e : Char} {digits : List Char} {values : List Nat} {w text : List Char}
      (he : (e, digits.length) ∈ codeEscapes) (hdigits : List.Forall₂ IsHexDigit digits values)
      (hvalid : (ofHex 0 values).isValidChar) (h : SpellsText w text) :
      SpellsText ('\\' :: e :: (digits ++ w)) (Char.ofNat (ofHex 0 values) :: text)

namespace Quoted

theorem basic?_plain {c : Char} (hc : ' ' ≤ c ∨ c = '\t') (hother : c ∉ ['"', '\\', '\x7f'])
    (text rest : List Char) : basic? .plain text (c :: rest) = basic? .plain (c :: text) rest := by
  simp only [List.mem_cons, List.not_mem_nil, or_false, not_or] at hother
  have hcontrol : isControl c = false := by
    rcases hc with hle | rfl
    · simp [isControl, hother.2.2, Char.not_lt.mpr hle]
    · decide
  rw [basic?, if_pos rfl, if_neg hother.1, if_neg hother.2.1, hcontrol, if_neg Bool.false_ne_true]

theorem basic?_short {e c : Char} (he : (e, c) ∈ shortEscapes) (text rest : List Char) :
    basic? .plain text ('\\' :: e :: rest) = basic? .plain (c :: text) rest := by
  have hescapes : ∀ p ∈ shortEscapes, p.1 ≠ 'u' ∧ p.1 ≠ 'U' ∧ escaped? p.1 = some p.2 := by decide
  obtain ⟨hu, hU, hescaped⟩ := hescapes _ he
  have hescape : escape? .escape text e = some (.plain, c :: text) := by
    simp [escape?, hu, hU, hescaped]
  rw [basic?, if_pos rfl, if_neg (by decide), if_pos rfl, basic?, if_neg (by decide), hescape,
    Option.bind_some]

theorem digitValue_of_isHexDigit {d : Char} {v : Nat} (h : IsHexDigit d v) :
    Scalar.isDigitOf 16 d = true ∧ Scalar.digitValue d = v := by
  have hlower : ∀ v < 16, Scalar.isDigitOf 16 (Nat.digitChar v) = true ∧
      Scalar.digitValue (Nat.digitChar v) = v := by decide
  have hupper : ∀ v < 16, Scalar.isDigitOf 16 (Nat.digitChar v).toUpper = true ∧
      Scalar.digitValue (Nat.digitChar v).toUpper = v := by decide
  obtain ⟨hv, rfl | rfl⟩ := h
  · exact hlower v hv
  · exact hupper v hv

/-- The digits of an escape for a code point, of which there is at least one more. -/
theorem basic?_digits {digits : List Char} {values : List Nat}
    (h : List.Forall₂ IsHexDigit digits values) (hne : digits ≠ []) {start : Nat}
    (hvalid : (ofHex start values).isValidChar) (text rest : List Char) :
    basic? (.code digits.length start) text (digits ++ rest) =
      basic? .plain (Char.ofNat (ofHex start values) :: text) rest := by
  induction h generalizing start with
  | nil => exact absurd rfl hne
  | @cons d v digits values hd h ih =>
    obtain ⟨hdigit, hvalue⟩ := digitValue_of_isHexDigit hd
    rw [List.cons_append, basic?, if_neg (by simp), escape?, if_pos hdigit, hvalue]
    by_cases hlast : digits = []
    · subst hlast
      cases h
      have hcode : (16 * start + v).isValidChar := hvalid
      rw [List.length_singleton, if_neg (by omega), if_pos hcode, Option.bind_some]
      rfl
    · have hmore := List.length_pos_of_ne_nil hlast
      rw [List.length_cons, if_pos (by omega), Option.bind_some, Nat.add_sub_cancel]
      exact ih hlast hvalid

theorem basic?_code {e : Char} {digits : List Char} {values : List Nat}
    (he : (e, digits.length) ∈ codeEscapes) (h : List.Forall₂ IsHexDigit digits values)
    (hvalid : (ofHex 0 values).isValidChar) (text rest : List Char) :
    basic? .plain text ('\\' :: e :: (digits ++ rest)) =
      basic? .plain (Char.ofNat (ofHex 0 values) :: text) rest := by
  have hescapes : ∀ p ∈ codeEscapes,
      p.2 ≠ 0 ∧ escape? .escape text p.1 = some (.code p.2 0, text) := by
    simp [codeEscapes, escape?]
  obtain ⟨hlength, hescape⟩ := hescapes _ he
  rw [basic?, if_pos rfl, if_neg (by decide), if_pos rfl, basic?, if_neg (by decide), hescape,
    Option.bind_some]
  exact basic?_digits h (List.ne_nil_of_length_pos (Nat.pos_of_ne_zero hlength)) hvalid text rest

/-- A text is read up to the quote behind it. -/
theorem basic?_of_spells {w s : List Char} (h : SpellsText w s) (text rest : List Char) :
    basic? .plain text (w ++ '"' :: rest) = some (text.reverse ++ s, rest) := by
  induction h generalizing text with
  | nil => rw [List.nil_append, basic?, if_pos rfl, if_pos rfl, List.append_nil]
  | plain hc hother h ih =>
    rw [List.cons_append, basic?_plain hc hother, ih, List.reverse_cons, List.append_assoc]
    rfl
  | short he h ih =>
    rw [List.cons_append, List.cons_append, basic?_short he, ih, List.reverse_cons, List.append_assoc]
    rfl
  | code he hdigits hvalid h ih =>
    rw [List.cons_append, List.cons_append, List.append_assoc, basic?_code he hdigits hvalid, ih,
      List.reverse_cons, List.append_assoc]
    rfl

theorem ne_quote_of_spells_cons {c : Char} {w s : List Char} (h : SpellsText (c :: w) s) :
    c ≠ '"' := by
  cases h with
  | plain _ hother => exact fun heq => hother (heq ▸ List.mem_cons_self)
  | short | code => decide

/-- Two quotes that enclose a text of one line are not the start of one of several lines. -/
theorem read?_of_spells {w s : List Char} (h : SpellsText w s) {rest : List Char}
    (hrest : AtLineEnd rest) : read? ('"' :: (w ++ '"' :: rest)) = some (s, rest) := by
  unfold read?
  split
  · next heq =>
    cases w with
    | nil => exact absurd (hrest '"' (by simp_all)) (by decide)
    | cons c w => exact absurd (by simp_all) (ne_quote_of_spells_cons h)
  · next heq => cases heq
  · next heq =>
    obtain rfl := (List.cons.inj heq).2
    exact basic?_of_spells h [] rest
  · next heq => cases heq
  · next hdouble _ => exact absurd rfl (hdouble _)

end Quoted

/-- Any text can be written, as code points if need be. -/
theorem exists_spellsText (s : List Char) : ∃ w, SpellsText w s := by
  induction s with
  | nil => exact ⟨[], .nil⟩
  | cons c s ih =>
    obtain ⟨w, hw⟩ := ih
    have hlt : c.toNat < 16 ^ 8 := c.val.toNat_lt
    let values := (List.range 8).map fun k => c.toNat / 16 ^ (7 - k) % 16
    have hvalue : ofHex 0 values = c.toNat := by
      show List.foldl _ 0 ([0, 1, 2, 3, 4, 5, 6, 7].map fun k => c.toNat / 16 ^ (7 - k) % 16) =
        c.toNat
      simp only [List.map_cons, List.map_nil, List.foldl_cons, List.foldl_nil]
      omega
    have hdigits : List.Forall₂ IsHexDigit (values.map Nat.digitChar) values := by
      rw [List.forall₂_map_left_iff, List.forall₂_same]
      intro v hv
      obtain ⟨k, -, rfl⟩ := List.mem_map.mp hv
      exact ⟨Nat.mod_lt _ (by decide), Or.inl rfl⟩
    have hcode := SpellsText.code (e := 'U') (by simp [values, codeEscapes]) hdigits
      (hvalue ▸ c.valid) hw
    rw [hvalue, Char.ofNat_toNat] at hcode
    exact ⟨_, hcode⟩

end DocPager.Toml
