import DocPager.Proofs.Toml.Spelling

/-!
Documents with one pair of key and value on each line.  If all integers are in range, and no key is
given twice, such a document holds exactly these pairs, in their order; otherwise it cannot be read.
-/

namespace DocPager.Toml

/-! ## Integers and texts -/

/-- An integer or a text. -/
inductive Datum where
  | integer (n : Int)
  | text (s : String)
  deriving DecidableEq, Repr

namespace Datum

/-- The ways to write an integer or a text. -/
def Spelled : Datum → List Char → Prop
  | .integer n, w => SpellsInteger w n
  | .text s, w => ∃ inner, SpellsText inner s.toList ∧ w = '"' :: (inner ++ ['"'])

def InRange : Datum → Prop
  | .integer n => Scalar.minInteger ≤ n ∧ n ≤ Scalar.maxInteger
  | .text _ => True

instance (d : Datum) : Decidable d.InRange :=
  match d with
  | .integer n => inferInstanceAs (Decidable (Scalar.minInteger ≤ n ∧ n ≤ Scalar.maxInteger))
  | .text _ => .isTrue trivial

def value : Datum → Value
  | .integer n => .scalar (.integer n)
  | .text s => .text s

end Datum

theorem exists_cons_of_spellsInteger {w : List Char} {n : Int} (h : SpellsInteger w n) :
    ∃ c rest, w = c :: rest ∧ isNumeral c = true := by
  obtain ⟨c, rest, rfl⟩ := List.exists_cons_of_ne_nil h.ne_nil
  exact ⟨c, rest, rfl, h.isNumeral_of_mem List.mem_cons_self⟩

/-- A value is read up to the end of its line, unless it is an integer out of range. -/
theorem value?_of_spelled {d : Datum} {w rest : List Char} (h : d.Spelled w)
    (hrest : AtLineEnd rest) (steps : Nat) :
    value? (steps + 1) (w ++ rest) = if d.InRange then some (d.value, rest) else none := by
  cases d with
  | integer n =>
    have hread := Scalar.read?_of_spells h hrest
    obtain ⟨c, w, rfl, hc⟩ := exists_cons_of_spellsInteger h
    have hquote : c ≠ '"' := ne_of_eq_true_of_eq_false hc (by decide)
    have hsingle : c ≠ '\'' := ne_of_eq_true_of_eq_false hc (by decide)
    rw [List.cons_append] at hread ⊢
    rw [value?, if_neg, hread]
    · show Option.map _ (if (Datum.integer n).InRange then _ else none) = _
      split <;> rfl
    · simp [hquote, hsingle]
    · exact ne_of_eq_true_of_eq_false hc (by decide)
    · exact ne_of_eq_true_of_eq_false hc (by decide)
  | text s =>
    obtain ⟨inner, hinner, rfl⟩ := h
    have hread := Quoted.read?_of_spells hinner hrest
    rw [List.cons_append, List.append_assoc, List.singleton_append, value?, if_pos (by decide), hread,
      if_pos (show (Datum.text s).InRange from trivial)]
    · show some (Value.text (String.ofList s.toList), rest) = _
      rw [String.ofList_toList]
      rfl
    · decide
    · decide

/-- A value does not begin with a blank. -/
theorem skipBlanks_of_spelled {d : Datum} {w : List Char} (h : d.Spelled w) (rest : List Char) :
    skipBlanks (w ++ rest) = w ++ rest := by
  have hhead : ∃ c tail, w = c :: tail ∧ Quoted.isBlank c = false := by
    cases d with
    | integer n =>
      obtain ⟨c, w, rfl, hc⟩ := exists_cons_of_spellsInteger h
      have hspace : c ≠ ' ' := ne_of_eq_true_of_eq_false hc (by decide)
      have htab : c ≠ '\t' := ne_of_eq_true_of_eq_false hc (by decide)
      exact ⟨c, w, rfl, by simp [Quoted.isBlank, hspace, htab]⟩
    | text s =>
      obtain ⟨inner, -, rfl⟩ := h
      exact ⟨'"', _, rfl, by decide⟩
  obtain ⟨c, tail, rfl, hblank⟩ := hhead
  exact List.dropWhile_cons_of_neg (ne_true_of_eq_false hblank)

/-! ## Pairs and their lines -/

/-- A bare key, and a value in one of the ways to write it. -/
structure Pair where
  key : String
  datum : Datum
  written : List Char
  bare : key.toList ≠ [] ∧ key.toList.all isKeyChar = true
  spelled : datum.Spelled written

namespace Pair

/-- An integer in the shortest way to write it. -/
def integer (key : String) (n : Int) (bare : key.toList ≠ [] ∧ key.toList.all isKeyChar = true) :
    Pair where
  key := key
  datum := .integer n
  written := (toString n).toList
  bare := bare
  spelled := SpellsInteger.toString_int n

/-- A text in quotes. -/
def text (key s : String) {inner : List Char}
    (bare : key.toList ≠ [] ∧ key.toList.all isKeyChar = true)
    (h : SpellsText inner s.toList) : Pair where
  key := key
  datum := .text s
  written := '"' :: (inner ++ ['"'])
  bare := bare
  spelled := ⟨inner, h, rfl⟩

/-- Any value can be written for a key. -/
theorem exists_of_datum {key : String} (bare : key.toList ≠ [] ∧ key.toList.all isKeyChar = true)
    (d : Datum) : ∃ p : Pair, p.key = key ∧ p.datum = d := by
  cases d with
  | integer n => exact ⟨integer key n bare, rfl, rfl⟩
  | text s =>
    obtain ⟨inner, hinner⟩ := exists_spellsText s.toList
    exact ⟨text key s bare hinner, rfl, rfl⟩

def line (p : Pair) : List Char := p.key.toList ++ " = ".toList ++ p.written

/-- The lines of some pairs; the last one may go without a line end. -/
def lines (ended : Bool) : List Pair → List Char
  | [] => []
  | p :: rest => p.line ++ if rest.isEmpty && !ended then [] else '\n' :: lines ended rest

def entry (p : Pair) : String × Item := (p.key, .value p.datum.value)

end Pair

namespace Pair

variable (p : Pair)

theorem isKeyChar_of_mem {c : Char} (hc : c ∈ p.key.toList) : isKeyChar c = true :=
  List.all_eq_true.mp p.bare.2 c hc

theorem exists_cons_key : ∃ c rest, p.key.toList = c :: rest ∧ isKeyChar c = true := by
  obtain ⟨c, rest, hcons⟩ := List.exists_cons_of_ne_nil p.bare.1
  exact ⟨c, rest, hcons, p.isKeyChar_of_mem (by simp [hcons])⟩

/-- A key does not begin with a blank. -/
theorem skipBlanks_key (rest : List Char) :
    skipBlanks (p.key.toList ++ rest) = p.key.toList ++ rest := by
  obtain ⟨c, tail, hcons, hc⟩ := p.exists_cons_key
  have hspace : c ≠ ' ' := ne_of_eq_true_of_eq_false hc (by decide)
  have htab : c ≠ '\t' := ne_of_eq_true_of_eq_false hc (by decide)
  rw [hcons]
  exact List.dropWhile_cons_of_neg (by simp [Quoted.isBlank, hspace, htab])

theorem keyPart?_key (rest : List Char) :
    keyPart? (p.key.toList ++ ' ' :: rest) = some (p.key, ' ' :: rest) := by
  have hspace : ¬isKeyChar ' ' = true := by decide
  have htake : (p.key.toList ++ ' ' :: rest).takeWhile isKeyChar = p.key.toList := by
    rw [List.takeWhile_append_of_pos fun _ => p.isKeyChar_of_mem,
      List.takeWhile_cons_of_neg hspace, List.append_nil]
  have hdrop : (p.key.toList ++ ' ' :: rest).dropWhile isKeyChar = ' ' :: rest := by
    rw [List.dropWhile_append_of_pos fun _ => p.isKeyChar_of_mem, List.dropWhile_cons_of_neg hspace]
  obtain ⟨c, tail, hcons, hc⟩ := p.exists_cons_key
  unfold keyPart?
  split
  · next heq =>
    rw [hcons] at heq
    exact absurd (List.cons.inj heq).1 (ne_of_eq_true_of_eq_false hc (by decide))
  · next heq =>
    rw [hcons] at heq
    exact absurd (List.cons.inj heq).1 (ne_of_eq_true_of_eq_false hc (by decide))
  · have hne : p.key.toList.isEmpty = false := by rw [hcons]; rfl
    simp only [htake, hdrop, hne, Bool.false_eq_true, if_false, String.ofList_toList]

theorem key?_key (steps : Nat) (rest : List Char) :
    key? (steps + 1) (p.key.toList ++ " = ".toList ++ rest) = some ([p.key], '=' :: ' ' :: rest) := by
  have htext : p.key.toList ++ " = ".toList ++ rest = p.key.toList ++ ' ' :: '=' :: ' ' :: rest := by
    rw [List.append_assoc]
    rfl
  rw [htext, key?, p.skipBlanks_key, p.keyPart?_key]
  rfl

theorem line_ne_nil : p.line ≠ [] := by
  obtain ⟨c, tail, hcons, -⟩ := p.exists_cons_key
  rw [Pair.line, hcons]
  exact List.cons_ne_nil c _

end Pair

namespace Document

theorem pair?_line (p : Pair) {d : Document} (hheader : d.header = [])
    (hnew : d.entries.lookup p.key = none) {rest next : List Char} (hrest : AtLineEnd rest)
    (hnext : endLine? false rest = some next) :
    d.pair? (p.line ++ rest) =
      if p.datum.InRange then some ({ d with entries := d.entries ++ [p.entry] }, next) else none := by
  have hkey := p.key?_key (p.line ++ rest).length (p.written ++ rest)
  have hblank : skipBlanks (' ' :: (p.written ++ rest)) = p.written ++ rest :=
    skipBlanks_of_spelled p.spelled rest
  have hvalue := value?_of_spelled p.spelled hrest (' ' :: (p.written ++ rest)).length
  have hinsert : d.entries.within? d.header (Entries.insert? true [p.key] p.datum.value) =
      some (d.entries ++ [p.entry]) := by
    rw [hheader, Entries.within?, Entries.insert?, hnew]
    rfl
  rw [Pair.line, List.append_assoc] at hkey ⊢
  rw [pair?, hkey]
  show (value? _ (skipBlanks (' ' :: (p.written ++ rest)))).bind _ = _
  rw [hblank, hvalue]
  split
  · show (d.entries.within? d.header _).bind _ = _
    rw [hinsert, Option.bind_some, hnext]
    rfl
  · rfl

theorem line?_line (p : Pair) (d : Document) (rest : List Char) :
    d.line? (p.line ++ rest) = d.pair? (p.line ++ rest) := by
  have hblank := p.skipBlanks_key (" = ".toList ++ p.written ++ rest)
  obtain ⟨c, tail, hcons, hc⟩ := p.exists_cons_key
  have hother : c ≠ '#' ∧ c ≠ '\n' ∧ c ≠ '\x0d' ∧ c ≠ '[' :=
    ⟨ne_of_eq_true_of_eq_false hc (by decide), ne_of_eq_true_of_eq_false hc (by decide),
      ne_of_eq_true_of_eq_false hc (by decide), ne_of_eq_true_of_eq_false hc (by decide)⟩
  have htext : p.line ++ rest = c :: (tail ++ (" = ".toList ++ p.written ++ rest)) := by
    rw [Pair.line, hcons]
    simp only [List.append_assoc, List.cons_append]
  rw [hcons, List.cons_append] at hblank
  rw [htext, line?, hblank]
  split
  · next heq => exact absurd (List.cons.inj heq).1 hother.2.2.2
  · next heq => exact absurd (List.cons.inj heq).1 hother.2.2.2
  · next heq => cases heq
  · next heq =>
    obtain ⟨rfl, rfl⟩ := List.cons.inj heq
    simp only [hother.1, hother.2.1, hother.2.2.1, decide_false, Bool.or_false, Bool.false_eq_true,
      if_false]

/-- What stands behind a line. -/
theorem endLine?_lines (ended : Bool) (pairs : List Pair) :
    let rest := if pairs.isEmpty && !ended then [] else '\n' :: Pair.lines ended pairs
    AtLineEnd rest ∧ endLine? false rest = some (Pair.lines ended pairs) := by
  intro rest
  by_cases hlast : pairs.isEmpty && !ended
  · obtain rfl : pairs = [] := List.isEmpty_iff.mp (Bool.and_eq_true_iff.mp hlast).1
    rw [show rest = [] from if_pos hlast]
    exact ⟨fun c hc => (nomatch hc), rfl⟩
  · rw [show rest = '\n' :: Pair.lines ended pairs from if_neg hlast]
    exact ⟨fun c hc => (Option.some.inj hc).symm, by rw [endLine?, if_pos rfl]⟩

/-- The pairs of the lines are added one by one. -/
theorem lines?_lines (ended : Bool) (pairs : List Pair) {d : Document} (hheader : d.header = [])
    (hkeys : (d.entries.map (·.1) ++ pairs.map (·.key)).Nodup) {steps : Nat}
    (hsteps : pairs.length ≤ steps) :
    d.lines? steps (Pair.lines ended pairs) =
      if ∀ p ∈ pairs, p.datum.InRange then
        some { d with entries := d.entries ++ pairs.map Pair.entry }
      else none := by
  induction pairs generalizing d steps with
  | nil =>
    rw [if_pos (fun p hp => nomatch hp), List.map_nil, List.append_nil]
    unfold lines?
    rfl
  | cons p pairs ih =>
    obtain ⟨steps, rfl⟩ := Nat.exists_eq_add_of_le' (Nat.le_trans (Nat.le_add_left 1 _) hsteps)
    obtain ⟨hrest, hnext⟩ := endLine?_lines ended pairs
    have hnew : d.entries.lookup p.key = none := by
      rw [List.lookup_eq_none_iff]
      intro e he
      have hne := (List.nodup_append.mp hkeys).2.2 e.1 (List.mem_map_of_mem he) p.key
        List.mem_cons_self
      exact bne_iff_ne.mpr hne.symm
    have hadded : ((d.entries ++ [p.entry]).map (·.1) ++ pairs.map (·.key)).Nodup := by
      rw [List.map_append, List.append_assoc]
      exact hkeys
    have hpair := pair?_line p hheader hnew hrest hnext
    rw [← line?_line] at hpair
    rw [Pair.lines, lines?.eq_def, if_neg (by simp [p.line_ne_nil]), hpair]
    by_cases hp : p.datum.InRange
    · rw [if_pos hp]
      show ({ d with entries := d.entries ++ [p.entry] } : Document).lines? steps _ = _
      rw [ih (d := { d with entries := d.entries ++ [p.entry] }) hheader hadded
        (Nat.le_of_succ_le_succ hsteps)]
      simp only [List.forall_mem_cons, hp, true_and, List.map_cons, List.append_assoc,
        List.singleton_append]
    · rw [if_neg hp, if_neg fun h => hp (h p List.mem_cons_self)]
      rfl

end Document

theorem length_le_length_lines (ended : Bool) (pairs : List Pair) :
    pairs.length ≤ (Pair.lines ended pairs).length := by
  induction pairs with
  | nil => exact Nat.zero_le _
  | cons p pairs ih =>
    have hline := List.length_pos_of_ne_nil p.line_ne_nil
    rw [Pair.lines, List.length_cons, List.length_append]
    split
    · next hlast =>
      obtain rfl : pairs = [] := List.isEmpty_iff.mp (Bool.and_eq_true_iff.mp hlast).1
      rw [List.length_nil]
      omega
    · rw [List.length_cons]
      omega

/-- A document can be read if the integers in it are in range, and then each line gives one entry. -/
theorem parse?_lines (ended : Bool) {pairs : List Pair} (hkeys : (pairs.map (·.key)).Nodup) :
    parse? (String.ofList (Pair.lines ended pairs)) =
      if ∀ p ∈ pairs, p.datum.InRange then some (pairs.map Pair.entry) else none := by
  have hlines := Document.lines?_lines ended pairs (d := .empty) rfl hkeys
    (length_le_length_lines ended pairs)
  have hmark : ∀ rest, Pair.lines ended pairs ≠ '\ufeff' :: rest := by
    intro rest heq
    cases pairs with
    | nil => cases heq
    | cons p pairs =>
      obtain ⟨c, tail, hcons, hc⟩ := p.exists_cons_key
      rw [Pair.lines, Pair.line, hcons] at heq
      exact absurd (List.cons.inj heq).1 (ne_of_eq_true_of_eq_false hc (by decide))
  unfold parse?
  rw [String.toList_ofList]
  split
  · next heq => exact absurd heq (hmark _)
  · show ((Document.empty.lines? _ (Pair.lines ended pairs)).map (·.entries)) = _
    rw [hlines]
    split <;> rfl

end DocPager.Toml
