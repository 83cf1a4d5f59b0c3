import DocPager.Proofs.Machine.Viewer
import DocPager.Proofs.Screen.Lines

/-!
Drawing on a machine.  A draw writes out the lines of the navigation panel, fits the viewer to the
screen, looks up the rows of the page one by one and counts them for the help bar.  Of a bounded viewer
it draws, without a fault, the frame that exact numbers give.
-/

namespace DocPager.Machine

open Highlight (CodeRow)
open Screen (Frame PageRow Span Style)

/-! ## The operations -/

def panelLabel (index : Nat) (s : Section) : Checked String := do
  let key ←
    if index < 9 then do
      let number ← add index 1
      pure (toString number ++ " ")
    else pure "  "
  let indent ← fill (2 * (s.level - 1)) ' '
  return key ++ indent ++ s.title

/-- The lines of the panel, none if it is closed. -/
def panelLines (v : Viewer) : Checked (List String) :=
  if v.navOpen then v.tracker.sections.zipIdx.mapM fun (s, index) => panelLabel index s
  else pure []

def headingSpans (s : Section) (active : Bool) : Checked (List Span) := do
  let marks ← fill s.level '#'
  let style := { Style.colored (if active then .green else .cyan) with bold := true }
  return [{ text := marks, style := { style with dim := true } }, .plain " ",
    { text := s.title, style }]

/-- Only the first row of a snippet tells whether it is copied, and that alone needs the timers. -/
def snippetSpans (v : Viewer) (code : List CodeRow) (index row : Nat) (text : String) (now : Nat) :
    Checked (List Span) := do
  let s ← get v.page.snippets index
  if row = s.firstRow then
    let copied ← isCopied v index now
    return [{ text, style := .colored .darkGray }, .plain " ",
      Frame.copyMark copied (v.selected = some index)]
  else return Frame.snippetSpans v code index s row text now

def rowSpans (v : Viewer) (code : List CodeRow) (row : Nat) (text : String) (now : Nat) :
    Checked (List Span) :=
  match v.page.sections.find? (·.row == row) with
  | some s =>
    let activeRow := (v.page.section? v.tracker.current).map (·.row)
    headingSpans s (activeRow = some row)
  | none =>
    match v.page.snippetAt? row with
    | some index => snippetSpans v code index row text now
    | none => pure [.plain text]

def pageRows (v : Viewer) (code : List CodeRow) (height now : Nat) : Checked (List PageRow) :=
  (List.range' v.scroll (min height (v.page.height - v.scroll))).mapM fun row => do
    let text ← get v.page.rows row
    let spans ← rowSpans v code row text now
    return { row, spans }

/-- Rows are numbered from one for the reader. -/
def position (v : Viewer) : Checked String := do
  let first ← add v.scroll 1
  let last ← add v.maxScroll 1
  return " " ++ toString first ++ "/" ++ toString last ++ " "

/-- What a draw makes of a viewer: the viewer fitted to the screen, the lines of the panel if it is
open, and the frame. -/
structure Drawing where
  viewer : Viewer
  panel : List String
  frame : Frame
  deriving DecidableEq, Repr

def Drawing.ofViewer (v : Viewer) (code : List CodeRow) (screenHeight now : Nat) : Drawing where
  viewer := v.fit screenHeight
  panel := if v.navOpen then v.tracker.sections.mapIdx Screen.panelLabel else []
  frame := v.frame code screenHeight now

def draw (v : Viewer) (code : List CodeRow) (screenHeight now : Nat) : Checked Drawing := do
  let panel ← panelLines v
  let height := (Screen.Layout.ofHeight screenHeight).page
  let fitted := resize v height
  let rows ← pageRows fitted code height now
  let position ← position fitted
  let frame : Frame :=
    { title := (v.page.path.bind fun p => (Path.ofString p).fileName?).getD "docscroll"
      scrolled := v.tracker.scrolled
      links := Frame.linksOf v.tracker
      panelOpen := v.navOpen
      pageRows := rows
      help := (fitted.notice.map (·.text)).getD Screen.helpText
      position }
  return { viewer := fitted, panel, frame }

/-! ## The parts of a frame -/

theorem panelLabel_eq {s : Section} (h : s.level ≤ 6) (index : Nat) :
    panelLabel index s = pure (Screen.panelLabel index s) := by
  have hindent : 2 * (s.level - 1) < 2 ^ 63 := by omega
  rw [panelLabel, Screen.panelLabel, fill_eq_pure hindent]
  split
  · next hindex =>
    have hnumber : index + 1 < 2 ^ 64 := by omega
    rw [add_eq_pure hnumber]
    rfl
  · rfl

theorem headingSpans_eq {s : Section} (h : s.level ≤ 6) (active : Bool) :
    headingSpans s active = pure (Frame.headingSpans s active) := by
  have hlevel : s.level < 2 ^ 63 := by omega
  rw [headingSpans, fill_eq_pure hlevel]
  rfl

section

variable {source : String} {settings : Settings} {v : Viewer} (h : Bounded source settings v)
include h

theorem Bounded.fit {screenHeight : Nat} (hscreen : screenHeight < 2 ^ 64) :
    Bounded source settings (v.fit screenHeight) := by
  have hpage : (Screen.Layout.ofHeight screenHeight).page < 2 ^ 64 := by
    show screenHeight - _ - _ < 2 ^ 64
    omega
  exact h.act (a := .resize _) hpage

theorem panelLines_eq :
    panelLines v = pure (if v.navOpen then v.tracker.sections.mapIdx Screen.panelLabel else []) := by
  rw [panelLines]
  split
  · rw [List.mapIdx_eq_zipIdx_map]
    refine mapM_eq_pure fun entry hentry => ?_
    have hs := h.mem_sections_of_tracked (List.fst_mem_of_mem_zipIdx hentry)
    exact panelLabel_eq (h.section_within hs).1 _
  · rfl

theorem snippetSpans_eq (code : List CodeRow) {index : Nat} {s : Snippet}
    (hs : v.page.snippets[index]? = some s) (row : Nat) (text : String) (now : Nat) :
    snippetSpans v code index row text now =
      pure (Frame.snippetSpans v code index s row text now) := by
  rw [snippetSpans, get_eq_pure hs, pure_bind]
  split
  · next hfirst =>
    rw [isCopied_eq h.timely, pure_bind, Frame.snippetSpans, if_pos hfirst]
  · rfl

theorem rowSpans_eq (code : List CodeRow) (row : Nat) (text : String) (now : Nat) :
    rowSpans v code row text now = pure (Frame.rowSpans v code row text now) := by
  rw [rowSpans, Frame.rowSpans]
  cases hsection : v.page.sections.find? (·.row == row) with
  | some s => exact headingSpans_eq (h.section_within (List.mem_of_find?_eq_some hsection)).1 _
  | none =>
    cases hsnippet : v.page.snippetAt? row with
    | none => rfl
    | some index =>
      obtain ⟨hindex, -⟩ := List.findIdx?_eq_some_iff_getElem.mp hsnippet
      have hs : v.page.snippets[index]? = some v.page.snippets[index] :=
        List.getElem?_eq_getElem hindex
      simp only [hs]
      exact snippetSpans_eq h code hs row text now

theorem pageRows_eq (code : List CodeRow) (height now : Nat) :
    pageRows v code height now = pure (Frame.pageRowsOf v code height now) := by
  have hnumbers : List.range' v.scroll (min height (v.page.height - v.scroll)) =
      (((v.page.rows.drop v.scroll).take height).zipIdx v.scroll).map Prod.snd := by
    rw [Frame.map_snd_rows, Page.height]
  rw [pageRows, hnumbers, List.mapM_map, Frame.pageRowsOf]
  refine mapM_eq_pure fun entry hentry => ?_
  obtain ⟨text, row⟩ := entry
  have hpage := Frame.getElem?_of_mem_rows hentry
  simp only [Function.comp_apply, get_eq_pure hpage, pure_bind, rowSpans_eq h]

theorem position_eq :
    position v = pure (" " ++ toString (v.scroll + 1) ++ "/" ++ toString (v.maxScroll + 1) ++ " ") := by
  have hfirst : v.scroll + 1 < 2 ^ 64 := by
    have := h.scroll_lt
    omega
  have hlast : v.maxScroll + 1 < 2 ^ 64 := by
    have := h.maxScroll_lt
    omega
  rw [position, add_eq_pure hfirst, add_eq_pure hlast]
  rfl

theorem draw_eq (code : List CodeRow) {screenHeight : Nat} (hscreen : screenHeight < 2 ^ 64)
    (now : Nat) : draw v code screenHeight now = pure (.ofViewer v code screenHeight now) := by
  have hfitted := h.fit hscreen
  have hfit : resize v (Screen.Layout.ofHeight screenHeight).page = v.fit screenHeight :=
    resize_eq h.height_page_lt _
  have hpath : (v.fit screenHeight).page = v.page := Viewer.page_act v (.resize _)
  rw [draw, panelLines_eq h, pure_bind]
  simp only [hfit, pageRows_eq hfitted, position_eq hfitted, pure_bind]
  rw [Drawing.ofViewer, Viewer.frame, Frame.ofViewer, hpath]

end

end DocPager.Machine
