import DocPager.Proofs.Viewer.Run
import Mathlib.Data.List.Basic
import Mathlib.Data.List.Induction

/-!
Which snippets show as copied after a run.  Each has a timer of its own, and an action does one
thing to each timer that depends on no other.  So the timer of a snippet tells when that snippet was
copied last, until a tick finds the time over.
-/

namespace DocPager.Viewer

/-! ## One timer -/

/-- What an action does to the timer of a snippet. -/
def actOnTimer (v : Viewer) (index : Nat) (t : CopyTimer) : Action → CopyTimer
  | .copy clipboard now => if v.copyTarget? = some index then t.copy clipboard now else t
  | .tick now => t.tick now
  | .shutdown => t.cancel
  | _ => t

theorem actOnTimer_of_isMove {a : Action} (h : a.isMove = true) (v : Viewer) (index : Nat)
    (t : CopyTimer) : v.actOnTimer index t a = t := by
  cases a with
  | copy _ _ | tick _ | shutdown => cases h
  | _ => rfl

theorem modify_of_getElem? {timers : List CopyTimer} {index : Nat} {t : CopyTimer}
    (ht : timers[index]? = some t) (f : CopyTimer → CopyTimer) :
    timers.modify index f = timers.set index (f t) := by
  rw [List.modify_eq_set_getElem?, ht]
  rfl

theorem timers_copy (v : Viewer) (clipboard : Clipboard) (now index : Nat) :
    (v.copy clipboard now).timers[index]? =
      (v.timers[index]?).map fun t =>
        if v.copyTarget? = some index then t.copy clipboard now else t := by
  unfold copy
  split
  · next hnone => simp [hnone]
  · next target htarget =>
    rw [List.getElem?_modify]
    by_cases heq : target = index
    · simp [htarget, heq]
    · simp [htarget, heq]

theorem timers_act (v : Viewer) (a : Action) (index : Nat) :
    (v.act a).timers[index]? = (v.timers[index]?).map fun t => v.actOnTimer index t a := by
  by_cases h : a.isMove = true
  · rw [(moves_act h v).timers]
    simp [actOnTimer_of_isMove h]
  · cases a with
    | flush =>
      show v.timers[index]? = (v.timers[index]?).map fun t => t
      simp
    | copy clipboard now => exact timers_copy v clipboard now index
    | tick now => exact List.getElem?_map
    | shutdown => exact List.getElem?_map
    | _ => exact absurd rfl h

theorem text_actOnTimer (v : Viewer) (index : Nat) (t : CopyTimer) (a : Action) :
    (v.actOnTimer index t a).text = t.text := by
  unfold actOnTimer
  split
  · split
    · unfold CopyTimer.copy
      split <;> rfl
    · rfl
  · unfold CopyTimer.tick
    split <;> rfl
  · rfl
  · rfl

theorem hold_actOnTimer (v : Viewer) (index : Nat) (t : CopyTimer) (a : Action) :
    (v.actOnTimer index t a).hold = t.hold := by
  unfold actOnTimer
  split
  · split
    · unfold CopyTimer.copy
      split <;> rfl
    · rfl
  · unfold CopyTimer.tick
    split <;> rfl
  · rfl
  · rfl

/-- The timers are those of the snippets of the page, in the same order, and all hold equally long. -/
def TimersFit (p : Page) (settings : Settings) (v : Viewer) : Prop :=
  v.timers.map (fun t => (t.text, t.hold)) = p.snippets.map fun s => (s.text, settings.copiedFor)

namespace TimersFit

variable {p : Page} {settings : Settings} {v : Viewer}

theorem act (h : TimersFit p settings v) (a : Action) : TimersFit p settings (v.act a) := by
  rw [TimersFit, ← h]
  apply List.ext_getElem?
  intro index
  rw [List.getElem?_map, List.getElem?_map, timers_act, Option.map_map]
  simp only [Function.comp_def, text_actOnTimer, hold_actOnTimer]

theorem run (h : TimersFit p settings v) (actions : List Action) :
    TimersFit p settings (v.run actions) := run_induction (fun _ a h => h.act a) h actions

theorem of_start (h : Viewer.start p settings = .ok v) : TimersFit p settings v := by
  obtain ⟨t, -, rfl⟩ := eq_of_start h
  show (p.snippets.map fun s => CopyTimer.dark s.text settings.copiedFor).map _ = _
  rw [List.map_map]
  rfl

theorem getElem? (h : TimersFit p settings v) {index : Nat} {s : Snippet}
    (hs : p.snippets[index]? = some s) :
    ∃ t, v.timers[index]? = some t ∧ t.text = s.text ∧ t.hold = settings.copiedFor := by
  have heq := congrArg (·[index]?) h
  simp only [List.getElem?_map, hs, Option.map_some] at heq
  obtain ⟨t, ht, hfit⟩ := Option.map_eq_some_iff.mp heq
  exact ⟨t, ht, congrArg Prod.fst hfit, congrArg Prod.snd hfit⟩

theorem snippet (h : TimersFit p settings v) {index : Nat} {t : CopyTimer}
    (ht : v.timers[index]? = some t) :
    ∃ s, p.snippets[index]? = some s ∧ t.text = s.text ∧ t.hold = settings.copiedFor := by
  have heq := congrArg (·[index]?) h
  simp only [List.getElem?_map, ht, Option.map_some] at heq
  obtain ⟨s, hs, hfit⟩ := Option.map_eq_some_iff.mp heq.symm
  exact ⟨s, hs, (congrArg Prod.fst hfit).symm, (congrArg Prod.snd hfit).symm⟩

end TimersFit

/-! ## The last copy of a snippet -/

namespace Action

def time? : Action → Option Nat
  | .copy _ now | .tick now => some now
  | _ => none

end Action

/-- The action puts snippet `index` into the clipboard at time `now`. -/
def Copies (v : Viewer) (index now : Nat) (a : Action) : Prop :=
  a = .copy .accepts now ∧ v.copyTarget? = some index ∧
    ∃ s, v.page.snippets[index]? = some s ∧ s.text ≠ ""

/-- The last time that a run from `v` copies snippet `index` is `now`, and it does not shut the
viewer down after that. -/
def LastCopy (v : Viewer) (actions : List Action) (index now : Nat) : Prop :=
  ∃ before a after, actions = before ++ a :: after ∧ Copies (v.run before) index now a ∧
    .shutdown ∉ after ∧
    ∀ mid b rest, after = mid ++ b :: rest →
      ∀ later, ¬ Copies (v.run (before ++ a :: mid)) index later b

theorem not_lastCopy_nil (v : Viewer) (index now : Nat) : ¬ LastCopy v [] index now := by
  intro h
  obtain ⟨before, a, after, heq, -⟩ := h
  simp at heq

/-- One more action is the last copy itself, or it leaves the one before it in its place. -/
theorem lastCopy_concat {v : Viewer} {actions : List Action} {a : Action} {index now : Nat} :
    LastCopy v (actions ++ [a]) index now ↔
      Copies (v.run actions) index now a ∨
        LastCopy v actions index now ∧ a ≠ .shutdown ∧
          ∀ later, ¬ Copies (v.run actions) index later a := by
  constructor
  · intro h
    obtain ⟨before, b, after, heq, hcopy, hopen, hlast⟩ := h
    rcases List.eq_nil_or_concat after with rfl | ⟨after, c, rfl⟩
    · obtain ⟨rfl, hab⟩ := List.append_inj' heq rfl
      cases hab
      exact .inl hcopy
    · rw [List.concat_eq_append, ← List.cons_append, ← List.append_assoc] at heq
      obtain ⟨rfl, hac⟩ := List.append_inj' heq rfl
      cases hac
      rw [List.concat_eq_append] at hopen hlast
      refine .inr ⟨⟨before, b, after, rfl, hcopy, ?_, ?_⟩, ?_, ?_⟩
      · exact fun hmem => hopen (List.mem_append_left _ hmem)
      · intro mid d rest hsplit
        exact hlast mid d (rest ++ [a]) (by rw [hsplit]; simp)
      · intro hshut
        subst hshut
        exact hopen (List.mem_append_right _ List.mem_cons_self)
      · exact hlast after a [] rfl
  · intro h
    rcases h with hcopy | ⟨⟨before, b, after, rfl, hcopy, hopen, hlast⟩, hne, hnone⟩
    · refine ⟨actions, a, [], rfl, hcopy, List.not_mem_nil, ?_⟩
      intro mid b rest hsplit
      simp at hsplit
    · refine ⟨before, b, after ++ [a], by simp, hcopy, ?_, ?_⟩
      · intro hmem
        rcases List.mem_append.mp hmem with hmem | hmem
        · exact hopen hmem
        · exact hne (List.mem_singleton.mp hmem).symm
      · intro mid c rest hsplit
        rcases List.eq_nil_or_concat rest with rfl | ⟨rest, d, rfl⟩
        · obtain ⟨rfl, hac⟩ := List.append_inj' hsplit rfl
          cases hac
          exact hnone
        · rw [List.concat_eq_append, ← List.cons_append, ← List.append_assoc] at hsplit
          obtain ⟨hsplit, -⟩ := List.append_inj' hsplit rfl
          exact hlast mid c rest hsplit

/-! ## What a timer remembers -/

/-- The timer of snippet `index` after a run knows the last copy of the snippet, unless the run has
reached the end of its time since. -/
structure Remembers (v : Viewer) (actions : List Action) (index : Nat) (t : CopyTimer) : Prop where
  copied : ∀ now, t.armedAt = some now → LastCopy v actions index now
  armed : ∀ now, LastCopy v actions index now →
    t.armedAt = some now ∨ ∃ later ∈ actions.filterMap Action.time?, now + t.hold ≤ later

/-- A copy that the clipboard accepts arms the timer anew. -/
theorem armedAt_of_copies {v : Viewer} {index now : Nat} {a : Action} {t : CopyTimer}
    (h : Copies v index now a) (htext : t.text ≠ "") :
    (v.actOnTimer index t a).armedAt = some now := by
  obtain ⟨rfl, htarget, -⟩ := h
  simp [actOnTimer, htarget, CopyTimer.copy, CopyTimer.outcome, htext]

/-- Without a copy an open viewer changes a timer only by a tick that finds its time over. -/
theorem armedAt_of_not_copies {v : Viewer} {index : Nat} {a : Action} {t : CopyTimer}
    (ht : ∃ s, v.page.snippets[index]? = some s ∧ t.text = s.text)
    (hnone : ∀ now, ¬ Copies v index now a) (hne : a ≠ .shutdown) :
    (v.actOnTimer index t a).armedAt = t.armedAt ∨
      (v.actOnTimer index t a).armedAt = none ∧
        ∃ later, a.time? = some later ∧ ∀ now, t.armedAt = some now → now + t.hold ≤ later := by
  by_cases hmove : a.isMove = true
  · rw [actOnTimer_of_isMove hmove]
    exact .inl rfl
  · cases a with
    | flush => exact .inl rfl
    | shutdown => exact absurd rfl hne
    | copy clipboard now =>
      refine .inl ?_
      simp only [actOnTimer]
      split
      · next htarget =>
        obtain ⟨s, hs, htext⟩ := ht
        by_cases hempty : t.text = ""
        · simp [CopyTimer.copy, CopyTimer.outcome, hempty]
        · cases clipboard with
          | accepts => exact absurd ⟨rfl, htarget, s, hs, htext ▸ hempty⟩ (hnone now)
          | refuses reason => simp [CopyTimer.copy, CopyTimer.outcome, hempty]
      · rfl
    | tick now =>
      show (t.tick now).armedAt = _ ∨ (t.tick now).armedAt = none ∧ _
      rw [CopyTimer.tick]
      split
      · next hover =>
        refine .inr ⟨rfl, now, rfl, fun copied harmed => ?_⟩
        simpa [CopyTimer.isExpired, CopyTimer.deadline?, harmed] using hover
      · exact .inl rfl
    | _ => exact absurd rfl hmove

theorem Remembers.concat {v : Viewer} {actions : List Action} {index : Nat} {t : CopyTimer}
    (h : Remembers v actions index t) (a : Action)
    (ht : ∃ s, (v.run actions).page.snippets[index]? = some s ∧ t.text = s.text) :
    Remembers v (actions ++ [a]) index ((v.run actions).actOnTimer index t a) := by
  by_cases hcopy : ∃ now, Copies (v.run actions) index now a
  · obtain ⟨now, hcopy⟩ := hcopy
    have htext : t.text ≠ "" := by
      obtain ⟨s, hs, htext⟩ := ht
      obtain ⟨-, -, s', hs', hne⟩ := hcopy
      rw [hs] at hs'
      cases hs'
      rwa [htext]
    have harmed := armedAt_of_copies hcopy htext
    constructor
    · intro n hn
      rw [harmed] at hn
      cases hn
      exact lastCopy_concat.mpr (.inl hcopy)
    · intro n hn
      rcases lastCopy_concat.mp hn with hagain | ⟨-, -, hnone⟩
      · have heq : a = .copy .accepts n := hagain.1
        rw [hcopy.1] at heq
        cases heq
        exact .inl harmed
      · exact absurd hcopy (hnone now)
  · have hnone : ∀ now, ¬ Copies (v.run actions) index now a := fun now hc => hcopy ⟨now, hc⟩
    by_cases hne : a = .shutdown
    · subst hne
      constructor
      · intro n hn
        cases hn
      · intro n hn
        rcases lastCopy_concat.mp hn with hc | ⟨-, hopen, -⟩
        · exact absurd hc (hnone n)
        · exact absurd rfl hopen
    · have hkeep := armedAt_of_not_copies ht hnone hne
      constructor
      · intro n hn
        rcases hkeep with hsame | ⟨hdark, -⟩
        · exact lastCopy_concat.mpr (.inr ⟨h.copied n (hsame ▸ hn), hne, hnone⟩)
        · rw [hdark] at hn
          cases hn
      · intro n hn
        rcases lastCopy_concat.mp hn with hc | ⟨hbefore, -, -⟩
        · exact absurd hc (hnone n)
        · rw [hold_actOnTimer, List.filterMap_append]
          rcases h.armed n hbefore with harmed | ⟨later, hmem, hle⟩
          · rcases hkeep with hsame | ⟨-, later, htime, hover⟩
            · exact .inl (hsame.trans harmed)
            · refine .inr ⟨later, List.mem_append_right _ ?_, hover n harmed⟩
              simp [htime]
          · exact .inr ⟨later, List.mem_append_left _ hmem, hle⟩

/-- Along a run from a start, the timer of every snippet remembers its last copy. -/
theorem remembers_run {p : Page} {settings : Settings} {v : Viewer}
    (h : Viewer.start p settings = .ok v) {actions : List Action} {index : Nat} {t : CopyTimer}
    (ht : (v.run actions).timers[index]? = some t) : Remembers v actions index t := by
  have hfit := TimersFit.of_start h
  obtain ⟨tracker, -, hv⟩ := eq_of_start h
  have hpage : v.page = p := by rw [hv]; rfl
  induction actions using List.reverseRecOn generalizing t with
  | nil =>
    have hdark : t.armedAt = none := by
      rw [run_nil, hv] at ht
      obtain ⟨s, -, rfl⟩ := Option.map_eq_some_iff.mp (List.getElem?_map ▸ ht)
      rfl
    constructor
    · intro now hnow
      rw [hdark] at hnow
      cases hnow
    · intro now hnow
      exact absurd hnow (not_lastCopy_nil v index now)
  | append_singleton actions a ih =>
    rw [run_append, run_singleton, timers_act] at ht
    obtain ⟨t, hbefore, rfl⟩ := Option.map_eq_some_iff.mp ht
    obtain ⟨s, hs, htext, -⟩ := (hfit.run actions).snippet hbefore
    exact (ih hbefore).concat a ⟨s, by rw [page_run, hpage]; exact hs, htext⟩

/-- A snippet shows as copied exactly for the hold after its last copy: a copy that went to it, that
had a text and that the clipboard accepted.  Nothing else has any influence, and closing the viewer
ends it. -/
theorem isCopied_run_iff {p : Page} {settings : Settings} {v : Viewer}
    (h : Viewer.start p settings = .ok v) (actions : List Action) (index t : Nat)
    (hpast : ∀ time ∈ actions.filterMap Action.time?, time ≤ t) :
    (v.run actions).isCopied index t = true ↔
      ∃ now, LastCopy v actions index now ∧ t < now + settings.copiedFor := by
  have hfit := (TimersFit.of_start h).run actions
  have hpage : (v.run actions).page = p := by
    obtain ⟨tracker, -, rfl⟩ := eq_of_start h
    exact page_run _ actions
  constructor
  · intro hlit
    obtain ⟨timer, htimer, hlit⟩ := (Option.any_eq_true _ _).mp hlit
    obtain ⟨s, -, -, hhold⟩ := hfit.snippet htimer
    obtain ⟨deadline, hdeadline, hlt⟩ := (Option.any_eq_true _ _).mp hlit
    obtain ⟨now, harmed, rfl⟩ := Option.map_eq_some_iff.mp hdeadline
    refine ⟨now, (remembers_run h htimer).copied now harmed, ?_⟩
    rw [← hhold]
    simpa using hlt
  · intro h
    obtain ⟨now, hcopy, hlt⟩ := h
    have hsnippet : ∃ s, p.snippets[index]? = some s := by
      obtain ⟨before, a, after, -, ⟨-, -, s, hs, -⟩, -⟩ := hcopy
      exact ⟨s, by rw [← hpage, page_run]; rwa [page_run] at hs⟩
    obtain ⟨s, hs⟩ := hsnippet
    obtain ⟨timer, htimer, -, hhold⟩ := hfit.getElem? hs
    rw [← hhold] at hlt
    rcases (remembers_run h htimer).armed now hcopy with harmed | ⟨later, hmem, hle⟩
    · simp [isCopied, htimer, CopyTimer.isLit, CopyTimer.deadline?, harmed, hlt]
    · have := hpast later hmem
      omega

theorem isCopied_run_iff_second_copy :
    ∃ v, Viewer.start (Page.parse "# A\n```\nx\n```\n") .standard = .ok v ∧
      (∀ time ∈ [5, 9, 2005], time ≤ 2008) ∧
      ((v.run [.resize 4, .copy .accepts 5, .copy .accepts 9, .tick 2005]).isCopied 0 2008 = true ↔
        ∃ now, LastCopy v [.resize 4, .copy .accepts 5, .copy .accepts 9, .tick 2005] 0 now ∧
          2008 < now + 2000) := by
  obtain ⟨v, hstart⟩ : ∃ v, Viewer.start (Page.parse "# A\n```\nx\n```\n") .standard = .ok v :=
    ⟨_, rfl⟩
  exact ⟨v, hstart, by decide, isCopied_run_iff hstart _ 0 2008 (by decide)⟩

end DocPager.Viewer
