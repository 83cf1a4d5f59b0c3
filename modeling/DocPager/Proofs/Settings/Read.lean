import DocPager.Proofs.Toml.Lines
import DocPager.Settings.Read

/-!
Settings from a document with one pair of key and value on each line.  Where each key of a setting has
a value that the setting can take, the settings that have keys are replaced, and no others; where one
does not, the document is malformed.  Keys that name no setting make no difference.
-/

namespace DocPager.Settings

open Toml (Datum Entries Item Pair)

/-! ## Values for settings -/

inductive Kind where
  | signed
  | unsigned
  | text
  deriving DecidableEq, Repr

/-- The keys of the settings, and what they are for. -/
def kinds : List (String × Kind) :=
  [("threshold", .signed), ("scrolled_offset", .signed), ("copied_ms", .unsigned),
    ("nav_depth", .unsigned), ("frame_ms", .unsigned), ("theme", .text)]

/-- Whether a setting can take a value, if there is such a value at all. -/
def Kind.Takes : Kind → Datum → Prop
  | .signed, .integer _ => True
  | .unsigned, .integer n => 0 ≤ n
  | .text, .text _ => True
  | _, _ => False

instance : (kind : Kind) → (d : Datum) → Decidable (kind.Takes d)
  | .signed, .integer _ | .text, .text _ => .isTrue trivial
  | .unsigned, .integer n => inferInstanceAs (Decidable (0 ≤ n))
  | .signed, .text _ | .unsigned, .text _ | .text, .integer _ => .isFalse id

/-- Whether a pair can stand in a document.  Whatever an integer is for, it is one of 64 bits with a
sign, so that a setting without a sign cannot go above these. -/
structure Fits (p : Pair) : Prop where
  inRange : p.datum.InRange
  takes : ∀ e ∈ kinds, e.1 = p.key → e.2.Takes p.datum

theorem fits_iff {p : Pair} :
    Fits p ↔ p.datum.InRange ∧ ∀ e ∈ kinds, e.1 = p.key → e.2.Takes p.datum :=
  ⟨fun h => ⟨h.inRange, h.takes⟩, fun h => ⟨h.1, h.2⟩⟩

instance (p : Pair) : Decidable (Fits p) := decidable_of_iff _ fits_iff.symm

def integerOf? : Datum → Option Int
  | .integer n => some n
  | .text _ => none

def naturalOf? : Datum → Option Nat
  | .integer n => some n.toNat
  | .text _ => none

def textOf? : Datum → Option String
  | .integer _ => none
  | .text t => some t

/-- The setting with a key, after a pair that may have that key. -/
def replaced {α : Type} (key : String) (of? : Datum → Option α) (p : Pair) (old : α) : α :=
  if p.key = key then (of? p.datum).getD old else old

/-- Replaces the setting that has the key of a pair, and no other one. -/
def put (s : Settings) (p : Pair) : Settings where
  threshold := replaced "threshold" integerOf? p s.threshold
  scrolledOffset := replaced "scrolled_offset" integerOf? p s.scrolledOffset
  copiedFor := replaced "copied_ms" naturalOf? p s.copiedFor
  navDepth := replaced "nav_depth" naturalOf? p s.navDepth
  frameTime := replaced "frame_ms" naturalOf? p s.frameTime
  theme := replaced "theme" textOf? p s.theme

/-! ## Reading one value -/

theorem number?_integer (low high n : Int) :
    number? low high (.value (Datum.integer n).value) =
      if low ≤ n ∧ n ≤ high then some n else none := by
  show (some n).filter (fun n => low ≤ n && n ≤ high) = _
  simp only [Option.filter_some, Bool.and_eq_true, decide_eq_true_eq]

theorem signed?_integer {n : Int} (h : (Datum.integer n).InRange) :
    signed? (.value (Datum.integer n).value) = some n := by
  have hrange : Int64.minValue.toInt ≤ n ∧ n ≤ Int64.maxValue.toInt := h
  rw [signed?, number?_integer, if_pos hrange]

theorem unsigned?_integer {n : Int} (h : (Datum.integer n).InRange) (hn : 0 ≤ n) :
    unsigned? (.value (Datum.integer n).value) = some n.toNat := by
  have hmax : n ≤ UInt64.size - 1 := Int.le_trans h.2 (by decide)
  rw [unsigned?, number?_integer, if_pos ⟨hn, hmax⟩, Option.map_some]

theorem takes_of_signed? {d : Datum} {n : Int} (h : signed? (.value d.value) = some n) :
    Kind.signed.Takes d := by
  cases d with
  | integer m => trivial
  | text t => cases h

theorem takes_of_unsigned? {d : Datum} {n : Nat} (h : unsigned? (.value d.value) = some n) :
    Kind.unsigned.Takes d := by
  cases d with
  | integer m =>
    rw [unsigned?, number?_integer] at h
    by_contra hneg
    rw [if_neg fun hrange => hneg hrange.1] at h
    cases h
  | text t => cases h

theorem takes_of_text? {d : Datum} {t : String} (h : text? (.value d.value) = some t) :
    Kind.text.Takes d := by
  cases d with
  | integer m => cases h
  | text t => trivial

namespace Fits

variable {p : Pair} (h : Fits p)
include h

theorem signed? (hkind : (p.key, .signed) ∈ kinds) :
    ∃ n, integerOf? p.datum = some n ∧ Settings.signed? (.value p.datum.value) = some n := by
  obtain ⟨hrange, htakes⟩ := h
  cases hdatum : p.datum with
  | integer n => exact ⟨n, rfl, signed?_integer (hdatum ▸ hrange)⟩
  | text t => exact absurd (htakes _ hkind rfl) (by rw [hdatum]; exact id)

theorem unsigned? (hkind : (p.key, .unsigned) ∈ kinds) :
    ∃ n, naturalOf? p.datum = some n ∧ Settings.unsigned? (.value p.datum.value) = some n := by
  obtain ⟨hrange, htakes⟩ := h
  have hnat := htakes _ hkind rfl
  cases hdatum : p.datum with
  | integer n =>
    rw [hdatum] at hrange hnat
    exact ⟨n.toNat, rfl, unsigned?_integer hrange hnat⟩
  | text t =>
    rw [hdatum] at hnat
    cases hnat

theorem text? (hkind : (p.key, .text) ∈ kinds) :
    ∃ t, textOf? p.datum = some t ∧ Settings.text? (.value p.datum.value) = some t := by
  have htext := h.takes _ hkind rfl
  cases hdatum : p.datum with
  | integer n =>
    rw [hdatum] at htext
    cases htext
  | text t => exact ⟨t, rfl, rfl⟩

end Fits

/-! ## Reading all settings -/

/-- Each setting is read from its own entry. -/
theorem ofEntries?_eq_some_iff {entries : Entries} {s : Settings} :
    ofEntries? entries = some s ↔
      entry? entries "threshold" signed? 3 = some s.threshold ∧
      entry? entries "scrolled_offset" signed? 1 = some s.scrolledOffset ∧
      entry? entries "copied_ms" unsigned? 2000 = some s.copiedFor ∧
      entry? entries "nav_depth" unsigned? 2 = some s.navDepth ∧
      entry? entries "frame_ms" unsigned? 16 = some s.frameTime ∧
      entry? entries "theme" text? "base16-ocean.dark" = some s.theme := by
  unfold ofEntries?
  simp only [bind, pure, Option.bind_eq_some_iff, Option.some.injEq]
  constructor
  · rintro ⟨_, h₁, _, h₂, _, h₃, _, h₄, _, h₅, _, h₆, rfl⟩
    exact ⟨h₁, h₂, h₃, h₄, h₅, h₆⟩
  · rintro ⟨h₁, h₂, h₃, h₄, h₅, h₆⟩
    exact ⟨_, h₁, _, h₂, _, h₃, _, h₄, _, h₅, _, h₆, rfl⟩

theorem lookup_entry {pairs : List Pair} (hkeys : (pairs.map (·.key)).Nodup) {p : Pair}
    (hp : p ∈ pairs) : (pairs.map Pair.entry).lookup p.key = some (.value p.datum.value) := by
  induction pairs with
  | nil => cases hp
  | cons q pairs ih =>
    rw [List.map_cons, List.nodup_cons] at hkeys
    rw [List.map_cons, Pair.entry, List.lookup_cons]
    rcases List.mem_cons.mp hp with rfl | hp
    · rw [beq_self_eq_true]
    · have hne : p.key ≠ q.key := fun heq => hkeys.1 (heq ▸ List.mem_map_of_mem hp)
      rw [beq_false_of_ne hne]
      exact ih hkeys.2 hp

/-- What is read of an entry is read of the value that the pair with its key has. -/
theorem read_value_of_mem {α : Type} {read : Item → Option α} {default x : α} {pairs : List Pair}
    (hkeys : (pairs.map (·.key)).Nodup) {p : Pair} (hp : p ∈ pairs)
    (h : entry? (pairs.map Pair.entry) p.key read default = some x) :
    read (.value p.datum.value) = some x := by
  unfold entry? at h
  rwa [lookup_entry hkeys hp] at h

section Field

variable {α : Type} {key : String} {read : Item → Option α} {of? : Datum → Option α}
  (get : Settings → α) (hput : ∀ s p, get (put s p) = replaced key of? p (get s))
include hput

theorem get_foldl_put {pairs : List Pair} (h : key ∉ pairs.map (·.key)) (s : Settings) :
    get (pairs.foldl put s) = get s := by
  induction pairs generalizing s with
  | nil => rfl
  | cons p pairs ih =>
    rw [List.map_cons, List.mem_cons, not_or] at h
    rw [List.foldl_cons, ih h.2, hput, replaced, if_neg (Ne.symm h.1)]

/-- A setting is read as the pairs have replaced it, one after another. -/
theorem entry?_eq_foldl_put (hread : ∀ p, p.key = key → Fits p →
      ∃ x, of? p.datum = some x ∧ read (.value p.datum.value) = some x)
    {pairs : List Pair} (hkeys : (pairs.map (·.key)).Nodup) (hfits : ∀ p ∈ pairs, Fits p)
    (s : Settings) :
    entry? (pairs.map Pair.entry) key read (get s) = some (get (pairs.foldl put s)) := by
  induction pairs generalizing s with
  | nil => rfl
  | cons p pairs ih =>
    rw [List.map_cons, List.nodup_cons] at hkeys
    rw [List.forall_mem_cons] at hfits
    rw [List.foldl_cons, List.map_cons, entry?, Pair.entry, List.lookup_cons]
    by_cases hkey : p.key = key
    · obtain ⟨x, hof, hx⟩ := hread p hkey hfits.1
      rw [hkey] at hkeys
      rw [hkey, beq_self_eq_true, get_foldl_put get hput hkeys.1, hput, replaced, if_pos hkey, hof]
      exact hx
    · have hrest := ih hkeys.2 hfits.2 (put s p)
      rw [hput, replaced, if_neg hkey] at hrest
      rw [beq_false_of_ne (Ne.symm hkey)]
      exact hrest

end Field

theorem ofEntries?_of_fits {pairs : List Pair} (hkeys : (pairs.map (·.key)).Nodup)
    (hfits : ∀ p ∈ pairs, Fits p) :
    ofEntries? (pairs.map Pair.entry) = some (pairs.foldl put standard) := by
  rw [ofEntries?_eq_some_iff]
  exact ⟨entry?_eq_foldl_put threshold (fun _ _ => rfl)
      (fun p hkey hp => hp.signed? (hkey ▸ by decide)) hkeys hfits standard,
    entry?_eq_foldl_put scrolledOffset (fun _ _ => rfl)
      (fun p hkey hp => hp.signed? (hkey ▸ by decide)) hkeys hfits standard,
    entry?_eq_foldl_put copiedFor (fun _ _ => rfl)
      (fun p hkey hp => hp.unsigned? (hkey ▸ by decide)) hkeys hfits standard,
    entry?_eq_foldl_put navDepth (fun _ _ => rfl)
      (fun p hkey hp => hp.unsigned? (hkey ▸ by decide)) hkeys hfits standard,
    entry?_eq_foldl_put frameTime (fun _ _ => rfl)
      (fun p hkey hp => hp.unsigned? (hkey ▸ by decide)) hkeys hfits standard,
    entry?_eq_foldl_put theme (fun _ _ => rfl)
      (fun p hkey hp => hp.text? (hkey ▸ by decide)) hkeys hfits standard⟩

/-- Settings that could be read are from values that they can take. -/
theorem takes_of_ofEntries? {pairs : List Pair} (hkeys : (pairs.map (·.key)).Nodup) {s : Settings}
    (h : ofEntries? (pairs.map Pair.entry) = some s) {p : Pair} (hp : p ∈ pairs) :
    ∀ e ∈ kinds, e.1 = p.key → e.2.Takes p.datum := by
  obtain ⟨h₁, h₂, h₃, h₄, h₅, h₆⟩ := ofEntries?_eq_some_iff.mp h
  simp only [kinds, List.forall_mem_cons, List.not_mem_nil, false_implies, implies_true, and_true]
  exact ⟨fun hkey => takes_of_signed? (read_value_of_mem hkeys hp (hkey ▸ h₁)),
    fun hkey => takes_of_signed? (read_value_of_mem hkeys hp (hkey ▸ h₂)),
    fun hkey => takes_of_unsigned? (read_value_of_mem hkeys hp (hkey ▸ h₃)),
    fun hkey => takes_of_unsigned? (read_value_of_mem hkeys hp (hkey ▸ h₄)),
    fun hkey => takes_of_unsigned? (read_value_of_mem hkeys hp (hkey ▸ h₅)),
    fun hkey => takes_of_text? (read_value_of_mem hkeys hp (hkey ▸ h₆))⟩

theorem ofToml_of_fits (ended : Bool) {pairs : List Pair} (hkeys : (pairs.map (·.key)).Nodup)
    (hfits : ∀ p ∈ pairs, Fits p) :
    ofToml (String.ofList (Pair.lines ended pairs)) = .ok (pairs.foldl put standard) := by
  rw [ofToml, Toml.parse?_lines ended hkeys, if_pos fun p hp => (hfits p hp).inRange,
    Option.bind_some, ofEntries?_of_fits hkeys hfits]

theorem ofToml_of_not_fits (ended : Bool) {pairs : List Pair} (hkeys : (pairs.map (·.key)).Nodup)
    (hmisfit : ∃ p ∈ pairs, ¬Fits p) :
    ofToml (String.ofList (Pair.lines ended pairs)) = .error .malformed := by
  obtain ⟨p, hp, hnot⟩ := hmisfit
  rw [ofToml, Toml.parse?_lines ended hkeys]
  split
  · next s hread =>
    -- what could be read would fit
    split at hread
    · next hrange =>
      exact absurd ⟨hrange p hp, takes_of_ofEntries? hkeys hread hp⟩ hnot
    · cases hread
  · rfl

/-- A document of one pair on each line sets what its keys are for, in whatever order they stand and
however their values are written, and is malformed if a value does not fit.  Any value can be written. -/
theorem ofToml_lines (ended : Bool) (pairs : List Pair) (hkeys : (pairs.map (·.key)).Nodup) :
    let source := String.ofList (Pair.lines ended pairs)
    ((∀ p ∈ pairs, Fits p) → ofToml source = .ok (pairs.foldl put standard)) ∧
      ((∃ p ∈ pairs, ¬Fits p) → ofToml source = .error .malformed) ∧
      ∀ key : String, key.toList ≠ [] ∧ key.toList.all Toml.isKeyChar = true → ∀ d : Datum,
        ∃ p : Pair, p.key = key ∧ p.datum = d :=
  ⟨ofToml_of_fits ended hkeys, ofToml_of_not_fits ended hkeys, fun _ => Pair.exists_of_datum⟩

/-- Two settings are replaced, and a key that names none is passed over. -/
theorem ofToml_lines_threshold :
    ofToml "threshold = -5\nx-1 = 7\ntheme = \"\\tb\"" =
        .ok { standard with threshold := -5, theme := "\tb" } ∧
      ofToml "x-1 = 7\nframe_ms = -1\n" = .error .malformed := by
  have hok := (ofToml_lines false [.integer "threshold" (-5) (by decide),
    .integer "x-1" 7 (by decide), .text "theme" "\tb" (by decide)
      (.short (e := 't') (by decide) (.plain (by decide) (by decide) .nil))] (by decide)).1 (by decide)
  have hmalformed := (ofToml_lines true [.integer "x-1" 7 (by decide),
    .integer "frame_ms" (-1) (by decide)] (by decide)).2.1 (by decide)
  exact ⟨(congrArg ofToml (by decide)).trans (hok.trans (congrArg Except.ok (by decide))),
    (congrArg ofToml (by decide)).trans hmalformed⟩

/-- The least integer without a sign that is too large for one with a sign cannot be set. -/
theorem not_ofToml_unsigned :
    9223372036854775808 < UInt64.size ∧
      ofToml "copied_ms = 9223372036854775808\n" ≠
        .ok { standard with copiedFor := 9223372036854775808 } := by
  have hread : ofToml (String.ofList
      (Pair.lines true [.integer "copied_ms" 9223372036854775808 (by decide)])) =
        .error .malformed :=
    ofToml_of_not_fits true (by decide) ⟨_, List.mem_singleton_self _, by decide⟩
  have htext : "copied_ms = 9223372036854775808\n" = String.ofList
      (Pair.lines true [.integer "copied_ms" 9223372036854775808 (by decide)]) := by decide +kernel
  rw [htext, hread]
  exact ⟨by decide, nofun⟩

end DocPager.Settings
