import DocPager.Proofs.Viewer.Copying
import DocPager.Proofs.Viewer.Deadline
import DocPager.Proofs.Viewer.Sound
import DocPager.Session.Start

/-!
What the viewer says of the last copy.  There is one notice for all snippets and an indicator for each of
them, so the notice has to go with the last indicator and not with the first.  It does: as long as it says
that something was copied, an indicator is armed.
-/

namespace DocPager

/-- Of all notices only one claims that something was copied. -/
theorem Notice.text_eq_copied_iff {n : Notice} : n.text = "Copied to clipboard" ↔ n = .copied := by
  constructor
  · intro htext
    cases n with
    | copied => rfl
    | noSnippet => exact absurd htext (by decide)
    | copyFailed => exact absurd htext (by decide)
    | unknownSection id =>
      have hfirst : ("Unknown section: ".toList ++ id.toList).head? =
          "Copied to clipboard".toList.head? := by
        rw [← String.toList_append, ← htext]
        rfl
      rw [List.head?_append_of_ne_nil _ (by decide)] at hfirst
      exact absurd hfirst (by decide)
  · rintro rfl
    rfl

namespace CopyTimer

variable {t : CopyTimer} {now : Nat}

theorem deadline?_eq_none_iff : t.deadline? = none ↔ t.armedAt = none := Option.map_eq_none_iff

/-- A tick leaves no deadline but those that were there before. -/
theorem deadline?_of_tick {d : Nat} (h : (t.tick now).deadline? = some d) : t.deadline? = some d := by
  unfold tick at h
  split at h
  · cases h
  · exact h

theorem isExpired_of_tick (hbefore : t.deadline? ≠ none) (hafter : (t.tick now).deadline? = none) :
    t.isExpired now = true := by
  by_cases hexpired : t.isExpired now = true
  · exact hexpired
  · rw [tick, if_neg hexpired] at hafter
    exact absurd hafter hbefore

end CopyTimer

namespace Viewer

/-- Some indicator is armed. -/
def Armed (v : Viewer) : Prop := ∃ t ∈ v.timers, ∃ d, t.deadline? = some d

/-- A tick at time `now` puts out an indicator. -/
def PutsOut (v : Viewer) (now : Nat) : Prop :=
  ∃ (index : Nat) (t u : CopyTimer), v.timers[index]? = some t ∧
    (v.tick now).timers[index]? = some u ∧ t.deadline? ≠ none ∧ u.deadline? = none

variable {v : Viewer} {now : Nat}

/-! ## Ticks -/

theorem getElem?_timers_tick (v : Viewer) (now index : Nat) :
    (v.tick now).timers[index]? = (v.timers[index]?).map (·.tick now) := List.getElem?_map

theorem expires_iff_putsOut : v.expires now = true ↔ v.PutsOut now := by
  constructor
  · intro hexpires
    obtain ⟨t, ht, hover⟩ := List.any_eq_true.mp hexpires
    obtain ⟨index, hindex⟩ := List.mem_iff_getElem?.mp ht
    refine ⟨index, t, t.tick now, hindex, ?_, ?_, ?_⟩
    · rw [getElem?_timers_tick, hindex, Option.map_some]
    · obtain ⟨d, hd, -⟩ := CopyTimer.isExpired_iff.mp hover
      rw [hd]
      exact Option.some_ne_none d
    · rw [CopyTimer.tick, if_pos hover]
      rfl
  · intro hputs
    obtain ⟨index, t, u, ht, hu, hbefore, hafter⟩ := hputs
    rw [getElem?_timers_tick, ht, Option.map_some] at hu
    obtain rfl := Option.some.inj hu
    exact List.any_eq_true.mpr
      ⟨t, List.mem_of_getElem? ht, CopyTimer.isExpired_of_tick hbefore hafter⟩

theorem all_dark_iff : (v.timers.all (·.armedAt.isNone)) = true ↔ ¬v.Armed := by
  rw [List.all_eq_true, Armed]
  constructor
  · rintro hdark ⟨t, ht, d, hd⟩
    have hnone := CopyTimer.deadline?_eq_none_iff.mpr (Option.isNone_iff_eq_none.mp (hdark t ht))
    rw [hnone] at hd
    cases hd
  · intro hdark t ht
    rw [Option.isNone_iff_eq_none, ← CopyTimer.deadline?_eq_none_iff]
    cases hd : t.deadline? with
    | none => rfl
    | some d => exact absurd ⟨t, ht, d, hd⟩ hdark

/-- The notice goes with the last indicator that is put out. -/
theorem notice_tick_of_last (h : v.PutsOut now) (hdark : ¬(v.tick now).Armed) :
    (v.tick now).notice = none := by
  have hall : (v.timers.map (·.tick now)).all (·.armedAt.isNone) = true := all_dark_iff.mpr hdark
  show (if (v.expires now && _) = true then none else v.notice) = none
  rw [expires_iff_putsOut.mpr h, hall]
  rfl

theorem notice_tick_of_not_last (h : ¬(v.PutsOut now ∧ ¬(v.tick now).Armed)) :
    (v.tick now).notice = v.notice := by
  refine if_neg fun hclears => h ?_
  obtain ⟨hexpires, hall⟩ := Bool.and_eq_true_iff.mp hclears
  exact ⟨expires_iff_putsOut.mp hexpires, all_dark_iff.mp hall⟩

theorem not_armed_tick (h : ∀ t ∈ v.timers, ∀ d, t.deadline? = some d → d ≤ now) :
    ¬(v.tick now).Armed := by
  rintro ⟨u, hu, d, hd⟩
  obtain ⟨t, ht, rfl⟩ := List.mem_map.mp hu
  have hover := h t ht d (CopyTimer.deadline?_of_tick hd)
  have hwaits := t.waits_tick now d hd
  omega

theorem armed_tick (h : v.notice = some .copied → v.Armed)
    (hnotice : (v.tick now).notice = some .copied) : (v.tick now).Armed := by
  by_cases hputs : v.PutsOut now
  · by_cases hdark : (v.tick now).Armed
    · exact hdark
    · rw [notice_tick_of_last hputs hdark] at hnotice
      cases hnotice
  · rw [notice_tick_of_not_last fun hlast => hputs hlast.1] at hnotice
    rw [← expires_iff_putsOut, Bool.not_eq_true, expires_eq_false_iff] at hputs
    rw [tick_of_waits hputs]
    exact h hnotice

/-! ## Copies -/

theorem armed_copy {clipboard : Clipboard}
    (htimer : ∀ index, v.copyTarget? = some index → ∃ t, v.timers[index]? = some t)
    (hnotice : (v.copy clipboard now).notice = some .copied) : (v.copy clipboard now).Armed := by
  cases htarget : v.copyTarget? with
  | none => simp [copy, htarget] at hnotice
  | some index =>
    obtain ⟨t, ht⟩ := htimer index htarget
    have hdone : (t.outcome clipboard).error.isNone = true := by
      by_contra herror
      simp [copy_of_target now htarget ht, herror] at hnotice
    have hcopied := timers_copy v clipboard now index
    rw [ht, Option.map_some, if_pos htarget, CopyTimer.copy, if_pos hdone] at hcopied
    exact ⟨_, List.mem_of_getElem? hcopied, now + t.hold, rfl⟩

/-! ## Runs -/

theorem notice_act {a : Action} (h : a.isMove = true) (v : Viewer) : (v.act a).notice = v.notice := by
  cases a with
  | scrollTo row => exact notice_scrollTo v row
  | scrollBy delta => exact notice_scrollTo v _
  | pageDown => exact notice_scrollTo v _
  | pageUp => exact notice_scrollTo v _
  | resize height => rw [act, resize_eq]
  | jump link => exact (scrolls_jump v link).notice
  | jumpToNav index => exact (scrolls_jumpToNav v index).notice
  | nextNav => exact (scrolls_jumpToNav v _).notice
  | prevNav => exact (scrolls_prevNav v).notice
  | toggleNav => rfl
  | selectNext => exact (selects_selectNext v).notice
  | selectPrevious => exact (selects_selectPrevious v).notice
  | flush | copy _ _ | tick _ | shutdown => cases h

/-- The viewer has a timer for each snippet of its page, and if its notice claims a copy then one of them
is armed. -/
structure Backed (p : Page) (settings : Settings) (v : Viewer) : Prop where
  page : v.page = p
  timers : TimersFit p settings v
  copied : v.notice = some .copied → v.Armed

namespace Backed

variable {p : Page} {settings : Settings} {v : Viewer} (h : Backed p settings v)
include h

theorem exists_timer {index : Nat} (htarget : v.copyTarget? = some index) :
    ∃ t, v.timers[index]? = some t :=
  h.timers.exists_timer h.page (mem_visibleSnippets_of_copyTarget htarget)

theorem armed_of_text (htext : v.notice.map (·.text) = some "Copied to clipboard") : v.Armed := by
  obtain ⟨n, hnotice, htext⟩ := Option.map_eq_some_iff.mp htext
  rw [Notice.text_eq_copied_iff.mp htext] at hnotice
  exact h.copied hnotice

/-- Closing the viewer puts out the indicators and leaves the notice. -/
theorem act {a : Action} (hopen : a ≠ .shutdown) : Backed p settings (v.act a) := by
  refine ⟨(page_act v a).trans h.page, h.timers.act a, fun hnotice => ?_⟩
  by_cases hmove : a.isMove = true
  · rw [notice_act hmove] at hnotice
    rw [Armed, (moves_act hmove v).timers]
    exact h.copied hnotice
  · cases a with
    | flush => exact h.copied hnotice
    | copy clipboard now => exact armed_copy (fun _ => h.exists_timer) hnotice
    | tick now => exact armed_tick h.copied hnotice
    | shutdown => exact absurd rfl hopen
    | _ => exact absurd rfl hmove

theorem run {actions : List Action} (hopen : .shutdown ∉ actions) :
    Backed p settings (v.run actions) := by
  induction actions generalizing v with
  | nil => exact h
  | cons a rest ih =>
    rw [List.mem_cons, not_or] at hopen
    exact ih (h.act (Ne.symm hopen.1)) hopen.2

theorem atAnchor (anchor : Option String) : Backed p settings (Session.atAnchor v anchor) := by
  cases anchor with
  | none => exact h
  | some link =>
    rw [Session.atAnchor]
    cases hjump : v.jump? link with
    | none =>
      refine ⟨h.page, h.timers, fun hnotice => ?_⟩
      cases hnotice
    | some w =>
      have hw : v.act (.jump link) = w := by rw [Viewer.act, hjump, Option.getD_some]
      have hopen : Action.jump link ≠ .shutdown := by simp
      rw [Option.getD_some, ← hw]
      exact h.act hopen

end Backed

theorem Backed.of_start {p : Page} {settings : Settings} {v : Viewer}
    (h : Viewer.start p settings = .ok v) : Backed p settings v := by
  have htimers := TimersFit.of_start h
  obtain ⟨t, -, rfl⟩ := eq_of_start h
  exact ⟨rfl, htimers, nofun⟩

/-- Until the viewer is closed its notice claims a copy only as long as an indicator is armed, also if it
was opened with a notice that there is no such section.  A tick takes the notice away exactly if it puts
out an indicator and leaves none armed; so after a tick that no deadline outlasts nothing claims a copy.
All this holds of any clipboard. -/
theorem armed_of_copied_notice {p : Page} {settings : Settings} {v : Viewer}
    (h : Viewer.start p settings = .ok v) (anchor : Option String) {actions : List Action}
    (hopen : .shutdown ∉ actions) :
    let w := (Session.atAnchor v anchor).run actions
    (w.notice.map (·.text) = some "Copied to clipboard" → w.Armed) ∧
      ∀ now : Nat,
        (w.PutsOut now ∧ ¬(w.tick now).Armed → (w.tick now).notice = none) ∧
        (¬(w.PutsOut now ∧ ¬(w.tick now).Armed) → (w.tick now).notice = w.notice) ∧
        ((∀ t ∈ w.timers, ∀ d, t.deadline? = some d → d ≤ now) →
          ¬(w.tick now).Armed ∧
            (w.tick now).notice.map (·.text) ≠ some "Copied to clipboard") ∧
        ∀ {σ : Type} (write : Write σ) (clipboard : σ),
          ∃ c r, w.copyTo write now clipboard = some r ∧ r.after = w.copy c now := by
  intro w
  have hw : Backed p settings w := ((Backed.of_start h).atAnchor anchor).run hopen
  refine ⟨hw.armed_of_text, fun now => ⟨fun hlast => notice_tick_of_last hlast.1 hlast.2,
    notice_tick_of_not_last, fun hover => ?_, fun write clipboard => ?_⟩⟩
  · have hdark := not_armed_tick hover
    have htick : Backed p settings (w.tick now) := hw.act (a := .tick now) nofun
    exact ⟨hdark, fun htext => hdark (htick.armed_of_text htext)⟩
  · exact exists_copy_eq_copyTo write now clipboard fun _ => hw.exists_timer

/-- The second copy fails, the third one is of another snippet, and the time of the first one is over. -/
theorem armed_of_copied_notice_overlapping :
    let p := Page.parse "# A\n\x60\x60\x60\nx\n\x60\x60\x60\n\x60\x60\x60\ny\n\x60\x60\x60\n"
    let actions : List Action := [.resize 8, .copy .accepts 5, .copy (.refuses "busy") 6, .selectNext,
      .copy .accepts 9, .tick 2005]
    .shutdown ∉ actions ∧ ∃ v, Viewer.start p .standard = .ok v ∧
      let w := (Session.atAnchor v (some "b")).run actions
      w.notice = some .copied ∧ w.Armed ∧ ¬(w.tick 2009).Armed ∧ (w.tick 2009).notice = none := by
  intro p actions
  have hopen : .shutdown ∉ actions := by decide
  have hrun : ∃ v, Viewer.start p .standard = .ok v ∧
      ((Session.atAnchor v (some "b")).run actions).notice = some .copied ∧
      (∀ t ∈ ((Session.atAnchor v (some "b")).run actions).timers,
        ∀ d ∈ t.deadline?, d ≤ 2009) ∧
      ((Session.atAnchor v (some "b")).run actions).expires 2009 = true :=
    ⟨_, rfl, by decide, by decide, by decide⟩
  obtain ⟨v, hstart, hnotice, hover, hexpires⟩ := hrun
  obtain ⟨hcopied, hticks⟩ := armed_of_copied_notice hstart (some "b") hopen
  have harmed := hcopied (by rw [hnotice]; rfl)
  have hdark := ((hticks 2009).2.2.1 hover).1
  exact ⟨hopen, v, hstart, hnotice, harmed, hdark,
    (hticks 2009).1 ⟨expires_iff_putsOut.mp hexpires, hdark⟩⟩

end Viewer
end DocPager
