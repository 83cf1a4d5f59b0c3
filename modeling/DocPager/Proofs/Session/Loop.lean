import DocPager.Proofs.Screen.Lines
import DocPager.Proofs.Viewer.Deadline
import DocPager.Proofs.Viewer.Run
import DocPager.Session.Display
import Mathlib.Logic.Relation

/-!
The loop of an open viewer: rounds, a poll for events, and rounds again.  A frame that is drawn may
itself scroll the viewer up, with the header painted already; the frame of the next round then shows
what is on screen, and it scrolls no more.  `upToDate_of_polls` says that the loop polls after two
frames at most, and that it never waits with an old one on screen.
-/

namespace DocPager

namespace Viewer

open Highlight (CodeRow)

/-! ## Fitting a viewer to a screen -/

/-- The viewer has the height that a screen leaves for the page, and its scroll is within that. -/
def Fits (v : Viewer) (screenHeight : Nat) : Prop :=
  v.height = max (Screen.Layout.ofHeight screenHeight).page 1 ∧ v.scroll ≤ v.maxScroll

theorem fits_fit (v : Viewer) (screenHeight : Nat) : (v.fit screenHeight).Fits screenHeight := by
  simp only [fit, resize]
  split
  · refine ⟨height_scrollTo _ _, ?_⟩
    rw [scroll_scrollTo, maxScroll_scrollTo]
    exact Nat.min_le_right _ _
  · next hfits => exact ⟨rfl, Nat.le_of_not_lt hfits⟩

theorem fit_of_fits {v : Viewer} {screenHeight : Nat} (h : v.Fits screenHeight) :
    v.fit screenHeight = v := by
  obtain ⟨hheight, hscroll⟩ := h
  have hsame : { v with height := max (Screen.Layout.ofHeight screenHeight).page 1 } = v := by
    rw [← hheight]
  simp only [fit, resize, hsame]
  exact if_neg (Nat.not_lt.mpr hscroll)

theorem timers_fit (v : Viewer) (screenHeight : Nat) :
    (v.fit screenHeight).timers = v.timers := by
  simp only [fit, resize]
  split
  · exact timers_scrollTo _ _
  · rfl

/-- Fitting leaves alone what is painted before it. -/
theorem header_fit (v : Viewer) (screenHeight : Nat) :
    (v.fit screenHeight).tracker.scrolled = v.tracker.scrolled ∧
      Screen.Frame.linksOf (v.fit screenHeight).tracker = Screen.Frame.linksOf v.tracker ∧
      (v.fit screenHeight).navOpen = v.navOpen := by
  simp only [fit, resize]
  split
  · simp only [scrollTo]
    split <;> exact ⟨rfl, rfl, rfl⟩
  · exact ⟨rfl, rfl, rfl⟩

/-- A viewer that is drawn again as it was left shows the same. -/
theorem draw_fit (v : Viewer) (code : List CodeRow) (width height now : Nat) :
    (v.fit height).draw code width height now = v.draw code width height now := by
  obtain ⟨hscrolled, hlinks, hopen⟩ := v.header_fit height
  simp only [draw, frame, fit_of_fits (v.fits_fit height), hscrolled, hlinks, hopen]

/-- Only the indicators of a frame go by the time. -/
theorem draw_congr {v : Viewer} {now later : Nat}
    (h : ∀ index, v.isCopied index now = v.isCopied index later) (code : List CodeRow)
    (width height : Nat) : v.draw code width height now = v.draw code width height later := by
  have hfit : ∀ index, (v.fit height).isCopied index now = (v.fit height).isCopied index later := by
    intro index
    rw [isCopied, isCopied, timers_fit]
    exact h index
  simp only [draw, frame, Screen.Frame.ofViewer, Screen.Frame.pageRowsOf, Screen.Frame.rowSpans,
    Screen.Frame.snippetSpans, hfit]

end Viewer

namespace Session

/-! ## The loop -/

structure Loop where
  display : Display
  surface : Surface
  /-- The time of the last frame. -/
  drawnAt : Nat
  /-- The frames drawn since the last poll. -/
  frames : Nat
  /-- Whether the loop polls now.  If not, a round is next. -/
  polls : Bool

namespace Loop

open Screen (lineText)

def start (v : Viewer) (s : Surface) : Loop :=
  { display := .ofViewer v, surface := s, drawnAt := 0, frames := 0, polls := false }

/-- A round at time `now`, with its frame at time `drawn`.  Another one follows if it leaves a scroll
to evaluate. -/
def round (l : Loop) (now drawn : Nat) : Loop where
  display := l.display.round l.surface now drawn
  surface := l.surface
  drawnAt := if l.display.draws now then drawn else l.drawnAt
  frames := l.frames + (l.display.draws now).toNat
  polls := !(l.display.round l.surface now drawn).viewer.tracker.isDirty

/-- The size of the terminal changes during a poll only, and that is an event. -/
inductive Step : Loop → Loop → Prop where
  | round {l : Loop} (now drawn : Nat) : l.polls = false → Step l (l.round now drawn)
  | timeout {l : Loop} : l.polls = true → Step l { l with frames := 0, polls := false }
  | events {l : Loop} {d : Display} (arrivals : List Arrival) (s : Surface) :
    l.polls = true → l.display.receive arrivals = some d →
      Step l { l with display := d, surface := s, frames := 0, polls := false }

/-- Nothing is left to evaluate, and drawing the viewer again changes neither it nor the screen, as
long as no indicator goes out. -/
structure UpToDate (l : Loop) : Prop where
  clean : l.display.viewer.tracker.isDirty = false
  fit : l.display.viewer.fit l.surface.height = l.display.viewer
  screen : l.display.viewer.draw l.surface.code l.surface.width l.surface.height l.drawnAt =
    l.display.screen
  lasting : l.display.viewer.Waits l.drawnAt → ∀ now, l.display.viewer.Waits now →
    l.display.viewer.draw l.surface.code l.surface.width l.surface.height now = l.display.screen

/-- What the loop does next does not count. -/
theorem UpToDate.of_display {l : Loop} (h : UpToDate l) (frames : Nat) (polls : Bool) :
    UpToDate { l with frames, polls } := ⟨h.clean, h.fit, h.screen, h.lasting⟩

/-! ## What a round leaves -/

theorem polls_round (l : Loop) (now drawn : Nat) :
    (l.round now drawn).polls = !(l.round now drawn).display.viewer.tracker.isDirty := rfl

theorem display_round {l : Loop} {now : Nat} (h : l.display.draws now = true) (drawn : Nat) :
    (l.round now drawn).display =
      { viewer := (l.display.viewer.tick now).flush.fit l.surface.height
        screen := (l.display.viewer.tick now).flush.draw l.surface.code l.surface.width
          l.surface.height drawn
        stale := false } := by
  show l.display.round l.surface now drawn = _
  rw [Display.round, if_pos h]

theorem frames_round {l : Loop} {now : Nat} (h : l.display.draws now = true) (drawn : Nat) :
    (l.round now drawn).frames = l.frames + 1 := by
  show l.frames + (l.display.draws now).toNat = _
  rw [h, Bool.toNat_true]

theorem fits_round {l : Loop} {now : Nat} (h : l.display.draws now = true) (drawn : Nat) :
    (l.round now drawn).display.viewer.Fits l.surface.height := by
  rw [display_round h]
  exact Viewer.fits_fit _ _

/-- A frame that leaves nothing to evaluate is up to date. -/
theorem upToDate_round {l : Loop} {now drawn : Nat} (hdraws : l.display.draws now = true)
    (hpolls : (l.round now drawn).polls = true) : UpToDate (l.round now drawn) := by
  have hdrawn : (l.round now drawn).drawnAt = drawn := if_pos hdraws
  have hscreen : (l.round now drawn).display.viewer.draw l.surface.code l.surface.width
      l.surface.height drawn = (l.round now drawn).display.screen := by
    rw [display_round hdraws]
    exact Viewer.draw_fit _ _ _ _ _
  refine ⟨?_, Viewer.fit_of_fits (fits_round hdraws drawn), ?_, ?_⟩
  · rwa [polls_round, Bool.not_eq_true'] at hpolls
  · rw [hdrawn]
    exact hscreen
  · intro hwaits later hlater
    rw [hdrawn] at hwaits
    rw [← hscreen]
    refine Viewer.draw_congr (fun index => ?_) _ _ _
    rw [Viewer.isCopied_of_waits hlater, Viewer.isCopied_of_waits hwaits]

/-- A round without a frame changes nothing. -/
theorem round_of_not_draws {l : Loop} {now : Nat} (h : l.display.draws now = false)
    (drawn : Nat) : l.round now drawn = { l with polls := true } := by
  have hframe := h
  simp only [Display.draws, Bool.or_eq_false_iff] at hframe
  obtain ⟨⟨-, hexpires⟩, hdirty⟩ := hframe
  have htick := Viewer.tick_of_waits (Viewer.expires_eq_false_iff.mp hexpires)
  rw [htick] at hdirty
  have hflush := Viewer.flush_of_clean (Tracker.isDirty_eq_false_iff.mp hdirty)
  have hdisplay : l.display.round l.surface now drawn = l.display := by
    simp only [Display.round, h, htick, hflush]
    rfl
  simp only [round, h, hdisplay, hdirty]
  rfl

/-- Once the viewer fits the screen, a round leaves nothing to evaluate. -/
theorem polls_round_of_fits {l : Loop} (hfits : l.display.viewer.Fits l.surface.height)
    (now drawn : Nat) : (l.round now drawn).polls = true := by
  cases hdraws : l.display.draws now with
  | false => rw [round_of_not_draws hdraws]
  | true =>
    -- Neither a tick nor a flush changes how the viewer fits.
    have hstill : (l.display.viewer.tick now).flush.Fits l.surface.height := hfits
    rw [polls_round, display_round hdraws, Viewer.fit_of_fits hstill]
    exact congrArg not (Tracker.isDirty_flush _ _)

/-- A second round is the last one before a poll. -/
theorem polls_round_round (l : Loop) (now drawn now' drawn' : Nat) :
    (l.round now drawn).polls = true ∨
      ((l.round now drawn).round now' drawn').polls = true := by
  cases hdraws : l.display.draws now with
  | false => exact .inl (by rw [round_of_not_draws hdraws])
  | true => exact .inr (polls_round_of_fits (fits_round hdraws drawn) now' drawn')

/-- Where the loop is. -/
inductive Stage (l : Loop) : Prop where
  /-- It polls, with the last frame up to date. -/
  | polling : l.polls = true → l.frames ≤ 2 → UpToDate l → Stage l
  /-- It has drawn nothing since the last poll. -/
  | waking : l.polls = false → l.frames = 0 → l.display.stale = true ∨ UpToDate l → Stage l
  /-- It has drawn one frame, which has scrolled the viewer. -/
  | scrolled : l.polls = false → l.frames = 1 → l.display.viewer.tracker.isDirty = true →
    l.display.viewer.Fits l.surface.height → Stage l

theorem Stage.round {l : Loop} (h : Stage l) (hpolls : l.polls = false) (now drawn : Nat) :
    Stage (l.round now drawn) := by
  cases h with
  | polling htrue =>
    rw [hpolls] at htrue
    cases htrue
  | waking _ hframes hready =>
    cases hdraws : l.display.draws now with
    | false =>
      have hcurrent : UpToDate l := by
        rcases hready with hstale | hcurrent
        · simp [Display.draws, hstale] at hdraws
        · exact hcurrent
      rw [round_of_not_draws hdraws]
      exact .polling rfl (by simp [hframes]) (hcurrent.of_display l.frames true)
    | true =>
      have hone : (l.round now drawn).frames = 1 := by rw [frames_round hdraws, hframes]
      cases hnext : (l.round now drawn).polls with
      | true => exact .polling hnext (by omega) (upToDate_round hdraws hnext)
      | false =>
        refine .scrolled hnext hone ?_ (fits_round hdraws drawn)
        rwa [polls_round, Bool.not_eq_false'] at hnext
  | scrolled _ hframes hdirty hfits =>
    have hdraws : l.display.draws now = true := by
      have htick : (l.display.viewer.tick now).tracker.isDirty = true := hdirty
      rw [Display.draws, htick, Bool.or_true]
    have hnext := polls_round_of_fits hfits now drawn
    have htwo : (l.round now drawn).frames = 2 := by rw [frames_round hdraws, hframes]
    exact .polling hnext (by omega) (upToDate_round hdraws hnext)

theorem Stage.step {l l' : Loop} (h : Stage l) (hstep : Step l l') : Stage l' := by
  cases hstep with
  | round now drawn hpolls => exact h.round hpolls now drawn
  | timeout hpolls =>
    cases h with
    | polling _ _ hcurrent => exact .waking rfl rfl (.inr (hcurrent.of_display 0 false))
    | waking hfalse | scrolled hfalse =>
      rw [hpolls] at hfalse
      cases hfalse
  | events arrivals s hpolls hreceive =>
    obtain ⟨v, -, rfl⟩ := Option.map_eq_some_iff.mp hreceive
    exact .waking rfl rfl (.inl rfl)

/-- Where time stands still, the rounds up to the next poll are those that settle the display. -/
theorem exists_steps_settle {l : Loop} (hpolls : l.polls = false) (now : Nat) :
    ∃ l', Relation.ReflTransGen Step l l' ∧ l'.polls = true ∧
      l'.display = l.display.settle l.surface now := by
  induction hscroll : l.display.viewer.scroll using Nat.strongRecOn generalizing l with
  | ind n ih =>
    have hstep : Step l (l.round now now) := .round now now hpolls
    rw [Display.settle]
    by_cases hdirty : (l.display.round l.surface now now).viewer.tracker.isDirty = true
    · have hnext : (l.round now now).polls = false := by
        rw [polls_round, Bool.not_eq_false']
        exact hdirty
      obtain ⟨l', hsteps, hpolls', hdisplay⟩ :=
        ih _ (hscroll ▸ Display.scroll_lt_of_isDirty_round hdirty) hnext rfl
      refine ⟨l', .head hstep hsteps, hpolls', ?_⟩
      rw [dif_pos hdirty]
      exact hdisplay
    · refine ⟨l.round now now, .single hstep, ?_, ?_⟩
      · rw [polls_round, Bool.not_eq_true', ← Bool.not_eq_true]
        exact hdirty
      · rw [dif_neg hdirty]
        rfl

/-- From one poll to the next the loop draws two frames at most, and it does come to the next one.
When it polls, nothing is left to evaluate and the last frame shows the viewer as it is. -/
theorem upToDate_of_polls {v : Viewer} {s : Surface} {l : Loop}
    (h : Relation.ReflTransGen Step (start v s) l) :
    l.frames ≤ 2 ∧ (l.polls = true → UpToDate l) ∧
      (∀ now drawn now' drawn', (l.round now drawn).polls = true ∨
        ((l.round now drawn).round now' drawn').polls = true) ∧
      (l.polls = false → ∀ now, ∃ l', Relation.ReflTransGen Step l l' ∧ l'.polls = true ∧
        l'.display = l.display.settle l.surface now) := by
  have hstage : Stage l := by
    induction h with
    | refl => exact .waking rfl rfl (.inl rfl)
    | tail _ hstep ih => exact ih.step hstep
  refine ⟨?_, fun hpolls => ?_, l.polls_round_round, exists_steps_settle⟩
  · cases hstage <;> omega
  · cases hstage with
    | polling _ _ hcurrent => exact hcurrent
    | waking hfalse | scrolled hfalse =>
      rw [hpolls] at hfalse
      cases hfalse

/-- On the first frame the last row goes to the bottom of the screen, and a second frame shows what is
active there. -/
theorem upToDate_of_polls_opened_at_end :
    let s : Surface := { width := 20, height := 12, code := [] }
    ∃ v l, Viewer.start (Page.parse "# A\n\n\n\n\n\n\n## B\nx\n") .standard = .ok v ∧
      Relation.ReflTransGen Step (start (v.scrollTo 8) s) l ∧ l.frames = 2 ∧ l.polls = true ∧
      l.display.viewer.scroll = 3 ∧ UpToDate l ∧
      (l.display.screen[1]?).map (fun line => lineText (line.filter (·.style.reversed))) = some " A " ∧
      (l.display.screen[9]?).map lineText = some "┌ 4/4 ─────────────┐" := by
  have hview : let s : Surface := { width := 20, height := 12, code := [] }
      ∃ v, Viewer.start (Page.parse "# A\n\n\n\n\n\n\n## B\nx\n") .standard = .ok v ∧
        ((start (v.scrollTo 8) s).round 0 1).polls = false ∧
        let l := ((start (v.scrollTo 8) s).round 0 1).round 2 3
        l.polls = true ∧ l.frames = 2 ∧ l.display.viewer.scroll = 3 ∧
          (l.display.screen[1]?).map (fun line => lineText (line.filter (·.style.reversed))) =
            some " A " ∧
          (l.display.screen[9]?).map lineText = some "┌ 4/4 ─────────────┐" :=
    ⟨_, rfl, by decide, by decide, by decide, by decide, by decide +kernel, by decide +kernel⟩
  intro s
  obtain ⟨v, hstart, hfirst, hpolls, hframes, hscroll, hheader, hposition⟩ := hview
  have hsteps : Relation.ReflTransGen Step (start (v.scrollTo 8) s)
      (((start (v.scrollTo 8) s).round 0 1).round 2 3) :=
    .tail (.single (.round 0 1 rfl)) (.round 2 3 hfirst)
  exact ⟨v, _, hstart, hsteps, hframes, hpolls, hscroll, (upToDate_of_polls hsteps).2.1 hpolls,
    hheader, hposition⟩

end Loop
end Session
end DocPager
