import DocPager.Proofs.Machine.Bounded

/-!
The viewer on a machine.  Every sum and difference is one of words, and every index is looked up; each
operation either ends in a fault or gives what the machine makes of it.  For a bounded viewer there is
no fault, and the outcome is that of exact numbers.
-/

namespace DocPager.Machine

open Viewer (Action linkTarget)

/-! ## The operations -/

/-- A scroll that is too large for a signed word is noted as the largest one. -/
def scrollTo (v : Viewer) (row : Nat) : Viewer :=
  let row := min row v.maxScroll
  if row = v.scroll then v
  else { v with scroll := row, tracker := v.tracker.noteScroll ((signed? row).getD (2 ^ 63 - 1)) }

def scrollBy (v : Viewer) (delta : Int) : Viewer :=
  scrollTo v (saturate ((v.scroll : Int) + delta).toNat)

def pageDown (v : Viewer) : Viewer := scrollTo v (saturate (v.scroll + v.height))

def pageUp (v : Viewer) : Viewer := scrollTo v (v.scroll - v.height)

def resize (v : Viewer) (height : Nat) : Viewer :=
  let v := { v with height := max height 1 }
  if v.maxScroll < v.scroll then scrollTo v v.maxScroll else v

/-- A heading cannot be measured if its row or the scroll is too large for a signed word. -/
def anchorTop (page : Page) (scroll : Nat) (id : String) : Checked (Option Int) :=
  match page.section? id with
  | none => pure none
  | some s =>
    match signed? s.row, signed? scroll with
    | some row, some scroll => do
      let top ← sub row scroll
      return some top
    | _, _ => pure none

def arrived? (t : Tracker) (anchors : String → Checked (Option Int)) : Checked (Option Section) :=
  t.sections.reverse.findM? fun s => do
    let top ← anchors s.id
    return top.any fun top => top ≤ t.limits.threshold

def flush (v : Viewer) : Checked Viewer :=
  match v.tracker.pending with
  | some offset => do
    let arrived ← arrived? v.tracker (anchorTop v.page v.scroll)
    let tracker : Tracker :=
      { v.tracker with
        scrolled := v.tracker.limits.scrolledOffset < offset
        current := (arrived.map (·.id)).getD v.tracker.current
        pending := none }
    return { v with tracker }
  | none => pure v

/-- The outer result is the machine's, the inner one tells whether the page can be viewed. -/
def start (page : Page) (settings : Settings) : Checked (Except TrackerError Viewer) :=
  match Tracker.start (page.navigation settings.navDepth) settings.limits with
  | .error e => pure (.error e)
  | .ok tracker => do
    let v ← flush
      { page
        tracker := tracker.noteScroll 0
        timers := page.snippets.map fun s => .dark s.text settings.copiedFor
        scroll := 0
        height := 1
        selected := none
        navOpen := false
        notice := none }
    return .ok v

def jump? (v : Viewer) (link : String) : Option Viewer :=
  (v.page.section? (linkTarget link)).map fun s => scrollTo v s.row

def jumpToNav? (v : Viewer) (index : Nat) : Option Viewer :=
  v.tracker.sections[index]?.bind fun s => jump? v s.id

def nextNav? (v : Viewer) : Checked (Option Viewer) := do
  let next ← add v.tracker.currentIndex 1
  return jumpToNav? v next

def prevNav? (v : Viewer) : Checked (Option Viewer) := do
  let index := v.tracker.currentIndex
  let current ← get v.tracker.sections index
  if current.row < v.scroll then return jumpToNav? v index
  else if index = 0 then return none
  else return jumpToNav? v (index - 1)

def visibleSnippets (v : Viewer) : Checked (List Nat) := do
  let bottom ← add v.scroll v.height
  return (List.range v.page.snippets.length).filter fun i =>
    (v.page.snippets[i]?).any fun s => v.scroll ≤ s.lastRow && s.firstRow < bottom

def reveal (v : Viewer) (index : Nat) : Checked Viewer := do
  let s ← get v.page.snippets index
  if s.firstRow < v.scroll then return scrollTo v s.firstRow
  else
    let bottom ← add v.scroll v.height
    if bottom ≤ s.lastRow then
      let below ← add s.lastRow 1
      return scrollTo v (min (below - v.height) s.firstRow)
    else return v

def select (v : Viewer) (index : Nat) : Checked Viewer :=
  reveal { v with selected := some index } index

def selectFirstBelowTop (v : Viewer) : Checked Viewer :=
  match v.firstBelowTop? with
  | some index => select v index
  | none => pure v

def selectNext (v : Viewer) : Checked Viewer :=
  match v.selected with
  | some i => do
    let next ← add i 1
    select v (if next < v.page.snippets.length then next else i)
  | none => selectFirstBelowTop v

def selectPrevious (v : Viewer) : Checked Viewer :=
  match v.selected with
  | some i => select v (i - 1)
  | none => selectFirstBelowTop v

def copyTarget? (v : Viewer) : Checked (Option Nat) := do
  let visible ← visibleSnippets v
  return (v.selected.filter visible.contains).or visible.head?

def copy (v : Viewer) (clipboard : Clipboard) (now : Nat) : Checked Viewer := do
  match ← copyTarget? v with
  | none => return { v with notice := some .noSnippet }
  | some index =>
    let timer ← get v.timers index
    return { v with
      selected := some index
      timers := v.timers.set index (timer.copy clipboard now)
      notice := some (if (timer.outcome clipboard).error.isNone then .copied else .copyFailed) }

def deadline? (t : CopyTimer) : Checked (Option Nat) :=
  match t.armedAt with
  | none => pure none
  | some time => do
    let deadline ← later time t.hold
    return some deadline

def isCopied (v : Viewer) (index now : Nat) : Checked Bool :=
  match v.timers[index]? with
  | none => pure false
  | some t => do
    let deadline ← deadline? t
    return deadline.any fun d => now < d

/-- A timer after a tick, and whether it went out. -/
def tickTimer (t : CopyTimer) (now : Nat) : Checked (CopyTimer × Bool) := do
  let deadline ← deadline? t
  return if deadline.any fun d => d ≤ now then (t.cancel, true) else (t, false)

def tick (v : Viewer) (now : Nat) : Checked Viewer := do
  let ticked ← v.timers.mapM fun t => tickTimer t now
  let timers := ticked.map (·.1)
  if ticked.any (·.2) then
    let allDark ← timers.allM fun t => do
      let deadline ← deadline? t
      return deadline.isNone
    return { v with timers, notice := if allDark then none else v.notice }
  else return { v with timers }

def nextDeadline? (v : Viewer) : Checked (Option Nat) := do
  let deadlines ← v.timers.mapM deadline?
  return (deadlines.filterMap id).min?

def act (v : Viewer) : Action → Checked Viewer
  | .scrollTo row => pure (scrollTo v row)
  | .scrollBy delta => pure (scrollBy v delta)
  | .pageDown => pure (pageDown v)
  | .pageUp => pure (pageUp v)
  | .resize height => pure (resize v height)
  | .flush => flush v
  | .jump link => pure ((jump? v link).getD v)
  | .jumpToNav index => pure ((jumpToNav? v index).getD v)
  | .nextNav => do
    let next ← nextNav? v
    return next.getD v
  | .prevNav => do
    let previous ← prevNav? v
    return previous.getD v
  | .toggleNav => pure v.toggleNav
  | .selectNext => selectNext v
  | .selectPrevious => selectPrevious v
  | .copy clipboard now => copy v clipboard now
  | .tick now => tick v now
  | .shutdown => pure v.shutdown

/-! ## Scrolling -/

section

variable {v : Viewer}

theorem scrollTo_eq (hpage : v.page.height < 2 ^ 63) (row : Nat) : scrollTo v row = v.scrollTo row := by
  have hrow : min row v.maxScroll < 2 ^ 63 :=
    Nat.lt_of_le_of_lt (Nat.le_trans (Nat.min_le_right _ _) (Nat.sub_le _ _)) hpage
  simp only [scrollTo, Viewer.scrollTo, signed?_eq_some hrow, Option.getD_some]

/-- A row that is cut down to a word is below the page still. -/
theorem scrollTo_saturate (hpage : v.page.height < 2 ^ 63) (row : Nat) :
    scrollTo v (saturate row) = v.scrollTo row := by
  have hmax : v.maxScroll ≤ v.page.height := Nat.sub_le _ _
  have hrow : min (saturate row) v.maxScroll = min row v.maxScroll := by
    unfold saturate
    omega
  rw [scrollTo_eq hpage, Viewer.scrollTo_eq, Viewer.scrollTo_eq, hrow]

theorem resize_eq (hpage : v.page.height < 2 ^ 63) (height : Nat) :
    resize v height = v.resize height := by
  have hsized : ({ v with height := max height 1 } : Viewer).page.height < 2 ^ 63 := hpage
  simp only [resize, Viewer.resize]
  split
  · exact scrollTo_eq hsized _
  · rfl

theorem jump?_eq (hpage : v.page.height < 2 ^ 63) (link : String) : jump? v link = v.jump? link := by
  simp only [jump?, Viewer.jump?, scrollTo_eq hpage]

theorem jumpToNav?_eq (hpage : v.page.height < 2 ^ 63) (index : Nat) :
    jumpToNav? v index = v.jumpToNav? index := by
  simp only [jumpToNav?, Viewer.jumpToNav?, jump?_eq hpage]

/-! ## Measuring -/

theorem anchorTop_eq {page : Page} {scroll : Nat} (hrows : ∀ s ∈ page.sections, s.row < 2 ^ 63)
    (hscroll : scroll < 2 ^ 63) (id : String) :
    anchorTop page scroll id = pure (Viewer.anchorTop page scroll id) := by
  rw [anchorTop, Viewer.anchorTop]
  cases hs : page.section? id with
  | none => rfl
  | some s =>
    have hrow := hrows s (List.mem_of_find?_eq_some hs)
    simp only [signed?_eq_some hrow, signed?_eq_some hscroll, sub_eq_pure hrow hscroll, pure_bind,
      Option.map_some]

theorem flush_eq (hrows : ∀ s ∈ v.page.sections, s.row < 2 ^ 63) (hscroll : v.scroll < 2 ^ 63) :
    flush v = pure v.flush := by
  have harrived : arrived? v.tracker (anchorTop v.page v.scroll) =
      pure (v.tracker.arrived? v.anchors) := by
    refine findM?_eq_pure fun s _ => ?_
    rw [anchorTop_eq hrows hscroll, pure_bind]
    rfl
  cases hpending : v.tracker.pending with
  | none =>
    rw [Viewer.flush_of_clean hpending, flush, hpending]
  | some offset =>
    rw [Viewer.flush, Tracker.flush_of_pending hpending, flush, hpending]
    simp only [harrived, pure_bind]
    rfl

theorem start_eq {source : String} (hheight : (Page.parse source).height < 2 ^ 63)
    (settings : Settings) :
    start (Page.parse source) settings = pure (Viewer.start (Page.parse source) settings) := by
  have hrows : ∀ s ∈ (Page.parse source).sections, s.row < 2 ^ 63 :=
    fun s hs => Nat.lt_trans (Page.level_row_of_mem_sections hs).2 hheight
  rw [start, Viewer.start]
  cases Tracker.start ((Page.parse source).navigation settings.navDepth) settings.limits with
  | error e => rfl
  | ok t =>
    simp only
    rw [flush_eq hrows (Nat.two_pow_pos 63), pure_bind]
    rfl

end

/-! ## Bounded viewers -/

section

variable {source : String} {settings : Settings} {v : Viewer} (h : Bounded source settings v)
include h

theorem nextNav?_eq : nextNav? v = pure v.nextNav? := by
  obtain ⟨s, hs⟩ := h.exists_current
  have hindex := (List.getElem?_eq_some_iff.mp hs).1
  have hnext : v.tracker.currentIndex + 1 < 2 ^ 64 := Nat.lt_of_le_of_lt hindex h.tracked_lt
  rw [nextNav?, add_eq_pure hnext, pure_bind, jumpToNav?_eq h.height_page_lt, Viewer.nextNav?]

theorem prevNav?_eq : prevNav? v = pure v.prevNav? := by
  obtain ⟨s, hs⟩ := h.exists_current
  simp only [prevNav?, Viewer.prevNav?, get_eq_pure hs, hs, pure_bind, Option.any_some,
    decide_eq_true_eq, jumpToNav?_eq h.height_page_lt]
  split
  · rfl
  · split <;> rfl

theorem visibleSnippets_eq : visibleSnippets v = pure v.visibleSnippets := by
  rw [visibleSnippets, add_eq_pure h.bottom_lt, pure_bind]
  rfl

theorem reveal_eq {index : Nat} (hindex : index < v.page.snippets.length) :
    reveal v index = pure (v.reveal index) := by
  have hs : v.page.snippets[index]? = some v.page.snippets[index] := List.getElem?_eq_getElem hindex
  have hlast : v.page.snippets[index].lastRow + 1 < 2 ^ 64 := by
    have := h.lastRow_lt (List.mem_of_getElem? hs)
    omega
  simp only [reveal, Viewer.reveal, hs, get_eq_pure hs, pure_bind, add_eq_pure h.bottom_lt,
    add_eq_pure hlast, scrollTo_eq h.height_page_lt]
  split
  · rfl
  · split <;> rfl

theorem select_eq {index : Nat} (hindex : index < v.page.snippets.length) :
    select v index = pure (v.select index) := reveal_eq (h.chosen hindex) hindex

theorem selectFirstBelowTop_eq :
    selectFirstBelowTop v = pure ((v.firstBelowTop?.map v.select).getD v) := by
  rw [selectFirstBelowTop]
  cases hfirst : v.firstBelowTop? with
  | none => rfl
  | some index => exact select_eq h (Viewer.lt_of_firstBelowTop hfirst)

theorem selectNext_eq : selectNext v = pure v.selectNext := by
  rw [selectNext, Viewer.selectNext]
  cases hselected : v.selected with
  | none => exact selectFirstBelowTop_eq h
  | some i =>
    have hi : i < v.page.snippets.length := h.selected i hselected
    have hcount := h.snippets_lt
    simp only
    rw [add_eq_pure (by omega), pure_bind]
    refine select_eq h ?_
    split <;> omega

theorem selectPrevious_eq : selectPrevious v = pure v.selectPrevious := by
  rw [selectPrevious, Viewer.selectPrevious]
  cases hselected : v.selected with
  | none => exact selectFirstBelowTop_eq h
  | some i =>
    have hi : i < v.page.snippets.length := h.selected i hselected
    exact select_eq h (by omega)

theorem copyTarget?_eq : copyTarget? v = pure v.copyTarget? := by
  rw [copyTarget?, visibleSnippets_eq h, pure_bind]
  rfl

theorem copy_eq (clipboard : Clipboard) (now : Nat) :
    copy v clipboard now = pure (v.copy clipboard now) := by
  rw [copy, copyTarget?_eq h, pure_bind, Viewer.copy]
  cases htarget : v.copyTarget? with
  | none => rfl
  | some index =>
    have hvisible := Viewer.mem_visibleSnippets_of_copyTarget htarget
    obtain ⟨t, ht⟩ := h.timers.exists_timer h.page hvisible
    have houtcome : v.copyOutcome clipboard = t.outcome clipboard := by
      rw [Viewer.copyOutcome, htarget, Option.bind_some, ht]
    simp only [get_eq_pure ht, pure_bind, houtcome, Viewer.modify_of_getElem? ht]

end

/-- Not every viewer is bounded: this one is scrolled beyond its page, and has a row below it that no
word counts. -/
example :
    visibleSnippets
      { page := Page.parse "# A\n"
        tracker :=
          { sections := [], limits := .standard, current := "", scrolled := false, pending := none }
        timers := []
        scroll := 1
        height := 2 ^ 64 - 1
        selected := none
        navOpen := false
        notice := none } = .error .overflow := by rfl

/-! ## Times -/

section

variable {t : CopyTimer} {v : Viewer}

theorem deadline?_eq (h : Timely t) : deadline? t = pure t.deadline? := by
  rw [deadline?, CopyTimer.deadline?]
  cases harmed : t.armedAt with
  | none => rfl
  | some time =>
    simp only [later_eq_pure (h.armed time harmed) h.hold, pure_bind, Option.map_some]

theorem tickTimer_eq (h : Timely t) (now : Nat) :
    tickTimer t now = pure (t.tick now, t.isExpired now) := by
  rw [tickTimer, deadline?_eq h, pure_bind, CopyTimer.tick, CopyTimer.isExpired]
  cases t.deadline?.any fun d => d ≤ now <;> rfl

variable (h : ∀ t ∈ v.timers, Timely t)
include h

theorem isCopied_eq (index now : Nat) : isCopied v index now = pure (v.isCopied index now) := by
  rw [isCopied, Viewer.isCopied]
  cases ht : v.timers[index]? with
  | none => rfl
  | some t =>
    simp only [deadline?_eq (h t (List.mem_of_getElem? ht)), pure_bind, Option.any_some]
    rfl

theorem nextDeadline?_eq : nextDeadline? v = pure v.nextDeadline? := by
  rw [nextDeadline?, mapM_eq_pure fun t ht => deadline?_eq (h t ht), pure_bind,
    Viewer.nextDeadline?, List.filterMap_map]
  rfl

theorem tick_eq (now : Nat) : tick v now = pure (v.tick now) := by
  have hticked : v.timers.mapM (fun t => tickTimer t now) =
      pure (v.timers.map fun t => (t.tick now, t.isExpired now)) :=
    mapM_eq_pure fun t ht => tickTimer_eq (h t ht) now
  have hdark : (v.timers.map fun t => t.tick now).allM (fun t => do
      let deadline ← deadline? t
      return deadline.isNone) =
      pure ((v.timers.map fun t => t.tick now).all (·.armedAt.isNone)) := by
    refine allM_eq_pure fun t ht => ?_
    obtain ⟨u, hu, rfl⟩ := List.mem_map.mp ht
    rw [deadline?_eq ((h u hu).tick now), pure_bind, CopyTimer.deadline?, Option.isNone_map]
  rw [tick, hticked, pure_bind]
  simp only [List.map_map, Function.comp_def, List.any_map, hdark, pure_bind]
  rw [Viewer.tick, Viewer.expires]
  cases v.timers.any (·.isExpired now) <;> rfl

end

/-! ## Actions -/

/-- Whatever a machine is asked for, it does what exact numbers would make of it. -/
theorem act_eq {source : String} {settings : Settings} {v : Viewer}
    (h : Bounded source settings v) (a : Action) : act v a = pure (v.act a) := by
  have hpage := h.height_page_lt
  have hrows : ∀ s ∈ v.page.sections, s.row < 2 ^ 63 := fun s hs => (h.section_within hs).2
  cases a with
  | scrollTo row => exact congrArg pure (scrollTo_eq hpage row)
  | scrollBy delta => exact congrArg pure (scrollTo_saturate hpage _)
  | pageDown => exact congrArg pure (scrollTo_saturate hpage _)
  | pageUp => exact congrArg pure (scrollTo_eq hpage _)
  | resize height => exact congrArg pure (resize_eq hpage height)
  | flush => exact flush_eq hrows h.scroll_lt
  | jump link => rw [act, jump?_eq hpage, Viewer.act]
  | jumpToNav index => rw [act, jumpToNav?_eq hpage, Viewer.act]
  | nextNav => rw [act, nextNav?_eq h, pure_bind, Viewer.act]
  | prevNav => rw [act, prevNav?_eq h, pure_bind, Viewer.act]
  | selectNext => exact selectNext_eq h
  | selectPrevious => exact selectPrevious_eq h
  | copy clipboard now => exact copy_eq h clipboard now
  | tick now => exact tick_eq h.timely now
  | toggleNav | shutdown => rfl

end DocPager.Machine
