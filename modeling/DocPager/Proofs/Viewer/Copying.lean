import DocPager.Proofs.Viewer.Copied
import DocPager.Proofs.Viewer.Range
import DocPager.Proofs.Viewer.Tracking

/-!
What a copy does to the clipboard and what it leaves behind.  A clipboard is anything here that texts can
be written to: it has a state, and each write makes another state of it and may come to an error.  A copy
writes once at most, and where it fails the viewer keeps everything but its choice and its notice.
-/

namespace DocPager

/-- What comes of writing a text to a clipboard in some state: the error, if there is one, and the state
of the clipboard after that. -/
abbrev Write (σ : Type) := String → σ → Option CopyError × σ

/-- What is left behind by a copy. -/
structure Copied (α σ : Type) where
  error : Option CopyError
  after : α
  clipboard : σ

/-- A clipboard that keeps a list of all that it is given and always answers the same. -/
def Clipboard.write (c : Clipboard) : Write (List String) := fun text log =>
  match c with
  | .accepts => (none, log ++ [text])
  | .refuses reason => (some (.unavailable reason), log ++ [text])

def CopyTimer.copyTo {σ : Type} (t : CopyTimer) (write : Write σ) (now : Nat) (clipboard : σ) :
    Copied CopyTimer σ :=
  if t.text = "" then { error := some .emptyText, after := t, clipboard }
  else
    match write t.text clipboard with
    | (some e, later) => { error := some e, after := t, clipboard := later }
    | (none, later) => { error := none, after := { t with armedAt := some now }, clipboard := later }

/-- It is `none` if the snippet that the copy goes to has no timer. -/
def Viewer.copyTo {σ : Type} (v : Viewer) (write : Write σ) (now : Nat) (clipboard : σ) :
    Option (Copied Viewer σ) :=
  match v.copyTarget? with
  | none => some { error := none, after := { v with notice := some .noSnippet }, clipboard }
  | some index => do
    let t ← v.timers[index]?
    let copied := t.copyTo write now clipboard
    return {
      error := copied.error
      after :=
        { v with
          selected := some index
          timers := v.timers.set index copied.after
          notice := some (if copied.error.isNone then .copied else .copyFailed) }
      clipboard := copied.clipboard }

namespace CopyTimer

theorem copyTo_write (t : CopyTimer) (c : Clipboard) (now : Nat) (log : List String) :
    t.copyTo c.write now log =
      { error := (t.outcome c).error
        after := t.copy c now
        clipboard := log ++ (t.outcome c).offered.toList } := by
  by_cases hempty : t.text = ""
  · simp [copyTo, copy, outcome, hempty]
  · cases c <;> simp [copyTo, copy, outcome, hempty, Clipboard.write]

/-- To a timer every clipboard has accepted its text or refused it. -/
theorem exists_copy_eq_copyTo {σ : Type} (t : CopyTimer) (write : Write σ) (now : Nat) (clipboard : σ) :
    ∃ c : Clipboard, (t.copyTo write now clipboard).after = t.copy c now ∧
      (t.copyTo write now clipboard).error.isNone = (t.outcome c).error.isNone := by
  by_cases hempty : t.text = ""
  · exact ⟨.accepts, by simp [copyTo, copy, outcome, hempty]⟩
  · cases hwrite : write t.text clipboard with
    | mk error later =>
      cases error with
      | none => exact ⟨.accepts, by simp [copyTo, copy, outcome, hempty, hwrite]⟩
      | some e => exact ⟨.refuses e.message, by simp [copyTo, copy, outcome, hempty, hwrite]⟩

section

variable {σ : Type} (t : CopyTimer) (write : Write σ) (now : Nat) (clipboard : σ)

theorem error_copyTo : (t.copyTo write now clipboard).error =
    if t.text = "" then some .emptyText else (write t.text clipboard).1 := by
  unfold copyTo
  split
  · rfl
  · split <;> next hwrite => rw [hwrite]

theorem clipboard_copyTo : (t.copyTo write now clipboard).clipboard =
    if t.text = "" then clipboard else (write t.text clipboard).2 := by
  unfold copyTo
  split
  · rfl
  · split <;> next hwrite => rw [hwrite]

theorem after_copyTo : (t.copyTo write now clipboard).after =
    if (t.copyTo write now clipboard).error = none then { t with armedAt := some now } else t := by
  unfold copyTo
  split
  · simp
  · split <;> simp

end

end CopyTimer

namespace Viewer

/-- The snippet that a copy goes to is the chosen one if that is on screen, or else the first of those
on screen. -/
structure IsCopyTarget (v : Viewer) (index : Nat) : Prop where
  visible : index ∈ v.visibleSnippets
  chosen : ∀ i ∈ v.visibleSnippets, v.selected = some i → index = i
  first : (∀ i ∈ v.visibleSnippets, v.selected ≠ some i) → ∀ j ∈ v.visibleSnippets, index ≤ j

theorem pairwise_visibleSnippets (v : Viewer) : v.visibleSnippets.Pairwise (· < ·) :=
  List.pairwise_lt_range.sublist List.filter_sublist

theorem copyTarget?_eq_none {v : Viewer} (h : v.visibleSnippets = []) : v.copyTarget? = none := by
  rw [copyTarget?, h]
  cases v.selected <;> rfl

theorem exists_copyTarget {v : Viewer} (h : v.visibleSnippets ≠ []) :
    ∃ index, v.copyTarget? = some index ∧ IsCopyTarget v index := by
  by_cases hchosen : ∃ i ∈ v.visibleSnippets, v.selected = some i
  · obtain ⟨i, hi, hselected⟩ := hchosen
    refine ⟨i, ?_, hi, ?_, fun hnone => absurd hselected (hnone i hi)⟩
    · rw [copyTarget?, hselected, Option.filter_some]
      simp [hi]
    · intro j _ hj
      exact Option.some.inj (hselected.symm.trans hj)
  · have hnone : v.selected.filter v.visibleSnippets.contains = none := by
      rw [Option.filter_eq_none_iff]
      intro i hi hmem
      exact hchosen ⟨i, by simpa using hmem, hi⟩
    obtain ⟨index, rest, hvisible⟩ := List.exists_cons_of_ne_nil h
    have hsorted := pairwise_visibleSnippets v
    rw [hvisible, List.pairwise_cons] at hsorted
    refine ⟨index, ?_, ?_, fun i hi hselected => absurd ⟨i, hi, hselected⟩ hchosen, fun _ j hj => ?_⟩
    · rw [copyTarget?, hnone, Option.none_or, hvisible, List.head?_cons]
    · rw [hvisible]
      exact List.mem_cons_self
    · rw [hvisible] at hj
      rcases List.mem_cons.mp hj with rfl | hj
      · exact Nat.le_refl j
      · exact Nat.le_of_lt (hsorted.1 j hj)

/-! ## What is left behind -/

section

variable {σ : Type} {v : Viewer} (write : Write σ) (now : Nat) (clipboard : σ)

theorem copyTo_of_target {index : Nat} {t : CopyTimer} (htarget : v.copyTarget? = some index)
    (ht : v.timers[index]? = some t) :
    v.copyTo write now clipboard = some
      { error := (t.copyTo write now clipboard).error
        after :=
          { v with
            selected := some index
            timers := v.timers.set index (t.copyTo write now clipboard).after
            notice :=
              some (if (t.copyTo write now clipboard).error.isNone then .copied else .copyFailed) }
        clipboard := (t.copyTo write now clipboard).clipboard } := by
  rw [copyTo, htarget]
  simp only [ht]
  rfl

theorem copyOutcome_of_target {index : Nat} {t : CopyTimer} (htarget : v.copyTarget? = some index)
    (ht : v.timers[index]? = some t) (c : Clipboard) : v.copyOutcome c = t.outcome c := by
  rw [copyOutcome, htarget, Option.bind_some, ht]

theorem copy_of_target {index : Nat} {t : CopyTimer} (htarget : v.copyTarget? = some index)
    (ht : v.timers[index]? = some t) (c : Clipboard) :
    v.copy c now =
      { v with
        selected := some index
        timers := v.timers.set index (t.copy c now)
        notice := some (if (t.outcome c).error.isNone then .copied else .copyFailed) } := by
  rw [copy, htarget, copyOutcome_of_target htarget ht]
  simp only [modify_of_getElem? ht]

/-- With a clipboard that always answers the same, this is the copy that the viewer makes. -/
theorem copyTo_write (ht : ∀ index, v.copyTarget? = some index → ∃ t, v.timers[index]? = some t)
    (c : Clipboard) (log : List String) :
    v.copyTo c.write now log = some
      { error := (v.copyOutcome c).error
        after := v.copy c now
        clipboard := log ++ (v.copyOutcome c).offered.toList } := by
  cases htarget : v.copyTarget? with
  | none => simp [copyTo, copy, copyOutcome, htarget]
  | some index =>
    obtain ⟨t, ht⟩ := ht index htarget
    rw [copyTo_of_target _ _ _ htarget ht, CopyTimer.copyTo_write, copy_of_target now htarget ht,
      copyOutcome_of_target htarget ht]

/-- To the viewer, too, every clipboard has accepted the text of a snippet or refused it. -/
theorem exists_copy_eq_copyTo
    (ht : ∀ index, v.copyTarget? = some index → ∃ t, v.timers[index]? = some t) :
    ∃ c r, v.copyTo write now clipboard = some r ∧ r.after = v.copy c now := by
  cases htarget : v.copyTarget? with
  | none => exact ⟨.accepts, _, by rw [copyTo, htarget], by rw [copy, htarget]⟩
  | some index =>
    obtain ⟨t, ht⟩ := ht index htarget
    obtain ⟨c, hafter, herror⟩ := t.exists_copy_eq_copyTo write now clipboard
    refine ⟨c, _, copyTo_of_target write now clipboard htarget ht, ?_⟩
    rw [copy_of_target now htarget ht, ← hafter, ← herror]

/-- What a copy of snippet `index` with a text leaves behind: the clipboard was given that text once,
or nothing if the text is empty, and the timer of the snippet alone is armed if there was no error. -/
structure CopyOf {σ : Type} (v : Viewer) (write : Write σ) (now : Nat) (clipboard : σ) (index : Nat)
    (text : String) (r : Copied Viewer σ) : Prop where
  error : r.error = if text = "" then some .emptyText else (write text clipboard).1
  given : r.clipboard = if text = "" then clipboard else (write text clipboard).2
  done : r.error = none →
    r.after =
      { v with
        selected := some index
        timers := v.timers.modify index fun t => { t with armedAt := some now }
        notice := some .copied }
  failed : r.error ≠ none →
    r.after = { v with selected := some index, notice := some .copyFailed }

theorem exists_copyOf {index : Nat} {t : CopyTimer} (htarget : v.copyTarget? = some index)
    (ht : v.timers[index]? = some t) :
    ∃ r, v.copyTo write now clipboard = some r ∧ CopyOf v write now clipboard index t.text r := by
  refine ⟨_, copyTo_of_target write now clipboard htarget ht, t.error_copyTo write now clipboard,
    t.clipboard_copyTo write now clipboard, fun herror => ?_, fun herror => ?_⟩
  · simp only at herror ⊢
    rw [CopyTimer.after_copyTo, if_pos herror, herror, modify_of_getElem? ht]
    rfl
  · simp only at herror ⊢
    have hsame : v.timers.set index t = v.timers := by
      rw [show t = id t from rfl, ← modify_of_getElem? ht id, List.modify_id]
    have hnotice : (t.copyTo write now clipboard).error.isNone = false := by
      rw [Option.isNone_eq_false_iff, Option.isSome_iff_ne_none]
      exact herror
    rw [CopyTimer.after_copyTo, if_neg herror, hsame, hnotice]
    rfl

end

/-- A copy without a snippet on screen leaves the clipboard alone and says so.  Otherwise the chosen
snippet, or the first one on screen, is the one to be copied, and an error on the way changes nothing but
the choice and the notice, whatever the clipboard is. -/
theorem copyTo_all_or_nothing {source : String} {settings : Settings}
    (h : (Page.parse source).navigation settings.navDepth ≠ []) :
    ∃ v, Viewer.start (Page.parse source) settings = .ok v ∧
      ∀ (actions : List Action) (now : Nat), let w := v.run actions
        (∀ (c : Clipboard) (log : List String),
          w.copyTo c.write now log = some
            { error := (w.copyOutcome c).error
              after := w.copy c now
              clipboard := log ++ (w.copyOutcome c).offered.toList }) ∧
        ∀ {σ : Type} (write : Write σ) (clipboard : σ),
          (w.visibleSnippets = [] →
            w.copyTo write now clipboard = some
              { error := none, after := { w with notice := some .noSnippet }, clipboard }) ∧
          (w.visibleSnippets ≠ [] →
            ∃ index s t r, IsCopyTarget w index ∧
              (Page.parse source).snippets[index]? = some s ∧
              w.timers[index]? = some t ∧ t.text = s.text ∧ t.hold = settings.copiedFor ∧
              w.copyTo write now clipboard = some r ∧
              CopyOf w write now clipboard index s.text r) := by
  obtain ⟨v, hstart, htracks⟩ := exists_start_tracks h
  refine ⟨v, hstart, fun actions now => ?_⟩
  intro w
  have hpage : w.page = Page.parse source := (htracks.run actions).page
  have hfit : TimersFit (Page.parse source) settings w := (TimersFit.of_start hstart).run actions
  have htimer : ∀ index, w.copyTarget? = some index → ∃ s t,
      (Page.parse source).snippets[index]? = some s ∧ w.timers[index]? = some t ∧
        t.text = s.text ∧ t.hold = settings.copiedFor := by
    intro index htarget
    obtain ⟨s, hs, -⟩ := mem_visibleSnippets.mp (mem_visibleSnippets_of_copyTarget htarget)
    rw [hpage] at hs
    obtain ⟨t, ht, hfits⟩ := hfit.getElem? hs
    exact ⟨s, t, hs, ht, hfits⟩
  refine ⟨copyTo_write now fun index htarget => ?_, fun write clipboard => ⟨fun hnone => ?_, fun hsome => ?_⟩⟩
  · obtain ⟨_, t, -, ht, -⟩ := htimer index htarget
    exact ⟨t, ht⟩
  · rw [copyTo, copyTarget?_eq_none hnone]
  · obtain ⟨index, htarget, hindex⟩ := exists_copyTarget hsome
    obtain ⟨s, t, hs, ht, htext, hhold⟩ := htimer index htarget
    obtain ⟨r, hr, hcopy⟩ := exists_copyOf write now clipboard htarget ht
    exact ⟨index, s, t, r, hindex, hs, ht, htext, hhold, hr, htext ▸ hcopy⟩

/-- The clipboard takes one text only and has one. -/
theorem copyTo_all_or_nothing_full :
    let p := Page.parse "# A\n\x60\x60\x60\nx\n\x60\x60\x60\n"
    let single : Write (List String) := fun text log =>
      if log = [] then (none, [text]) else (some (.unavailable "full"), log)
    p.navigation Settings.standard.navDepth ≠ [] ∧
      ∃ v r, Viewer.start p .standard = .ok v ∧ (v.run [.resize 4]).visibleSnippets ≠ [] ∧
        (v.run [.resize 4]).copyTo single 5 ["y"] = some r ∧
        r.error = some (.unavailable "full") ∧ r.clipboard = ["y"] ∧
        r.after = { v.run [.resize 4] with selected := some 0, notice := some .copyFailed } := by
  intro p single
  have hnav : p.navigation Settings.standard.navDepth ≠ [] := by decide
  obtain ⟨v, hstart, hcopies⟩ := copyTo_all_or_nothing hnav
  have hshown : ∃ w, Viewer.start p .standard = .ok w ∧ (w.run [.resize 4]).visibleSnippets = [0] :=
    ⟨_, rfl, by decide⟩
  obtain ⟨w, hw, hvisible⟩ := hshown
  obtain rfl : w = v := Except.ok.inj (hw.symm.trans hstart)
  have hsome : (w.run [.resize 4]).visibleSnippets ≠ [] := by
    rw [hvisible]
    exact List.cons_ne_nil 0 []
  obtain ⟨index, s, t, r, htarget, hs, -, -, -, hr, hcopy⟩ :=
    ((hcopies [.resize 4] 5).2 single ["y"]).2 hsome
  obtain rfl : index = 0 := by
    have hmem := htarget.visible
    rw [hvisible] at hmem
    exact List.mem_singleton.mp hmem
  obtain rfl : s = ⟨none, "x", 1, 3⟩ := Option.some.inj (hs.symm.trans (by decide))
  have herror : r.error = some (.unavailable "full") := hcopy.error
  exact ⟨hnav, w, r, hstart, hsome, hr, herror, hcopy.given, hcopy.failed (by simp [herror])⟩

end Viewer
end DocPager
