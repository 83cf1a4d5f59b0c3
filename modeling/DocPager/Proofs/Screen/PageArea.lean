import DocPager.Proofs.Page.Snippets
import DocPager.Proofs.Screen.Lines
import DocPager.Proofs.Viewer.Copying
import DocPager.Proofs.Viewer.Sound

/-!
The page on the screen.  Its rows are drawn from the scroll on, one on each line between the header and
the help bar, and the snippets that can be copied are those of which a row is drawn.  Both go by the height
of the screen, since drawing fits the viewer to it first.  What is read on a line is the text of its row:
a heading by its title, and the rows of a snippet with a bar before them or the copy mark behind them.
-/

namespace DocPager

namespace Screen

/-! ## The lines of the page -/

/-- The bar at either side of the page. -/
def bar : Cell := Cell.blank.write ['│'] .plain

/-- A line of the page on a screen that leaves it `width` cells. -/
def pageLine (width : Nat) (spans : List Span) : CellRow := bar :: textRow (width - 2) spans ++ [bar]

theorem between_pageBlock (height y : Nat) : pageBlock.Between height y := ⟨nofun, nofun⟩

/-- What is said of the page on line `y`, nothing below its last row. -/
def Frame.spansAt (f : Frame) (y : Nat) : List Span := (f.pageRows[y]?).elim [] (·.spans)

theorem content_pageBlock (f : Frame) (width y : Nat) :
    pageBlock.content width
        (f.pageRows.map fun r => textRow (pageBlock.innerWidth width) r.spans) y =
      textRow (width - 2) (f.spansAt y) := by
  have hroom : pageBlock.innerWidth width = width - 2 := Nat.sub_sub width 1 1
  have hlines : ∀ line ∈ f.pageRows.map fun r => textRow (pageBlock.innerWidth width) r.spans,
      line.length = pageBlock.innerWidth width := by
    rw [List.forall_mem_map]
    exact fun r _ => length_textRow _ _
  rw [Block.content_eq hlines (Nat.zero_le y), List.getElem?_map, hroom, Frame.spansAt]
  show ((f.pageRows[y]?).map _).getD _ = _
  cases f.pageRows[y]? with
  | none => rfl
  | some r => rfl

theorem getElem?_pageAreaRows (f : Frame) {width height y : Nat} (hwidth : 2 ≤ width)
    (hy : y < height) : (pageAreaRows f width height)[y]? = some (pageLine width (f.spansAt y)) := by
  obtain ⟨room, rfl⟩ := Nat.exists_eq_add_of_le' hwidth
  rw [pageAreaRows, Block.getElem?_rows _ _ _ _ hy, Block.row_eq]
  show some (pageBlock.bordered _ _ _ _) = _
  rw [(between_pageBlock height y).bordered_sides rfl rfl, content_pageBlock]
  rfl

/-- The cells of a line that the panel takes. -/
def panelCells (f : Frame) (width : Nat) : Nat := if f.panelOpen then min panelWidth width else 0

/-- The lines between the header and the help bar. -/
def middleRows (f : Frame) (width height : Nat) : List CellRow :=
  if f.panelOpen then
    (panelRows f (panelCells f width) height).zipWith (· ++ ·)
      (pageAreaRows f (width - panelCells f width) height)
  else pageAreaRows f (width - panelCells f width) height

theorem paint_eq (f : Frame) (width height : Nat) :
    paint f width height =
      headerRows f width (Layout.ofHeight height).header ++
        middleRows f width (Layout.ofHeight height).page ++
        helpRows f width (Layout.ofHeight height).help := rfl

theorem length_middleRows (f : Frame) (width height : Nat) :
    (middleRows f width height).length = height := by
  rw [middleRows]
  split
  · rw [List.length_zipWith, panelRows, Block.length_rows, pageAreaRows, Block.length_rows,
      Nat.min_self]
  · exact Block.length_rows _ _ _ _

/-- The page stands behind the cells of the panel. -/
theorem drop_middleRows (f : Frame) {width height y : Nat} (hwidth : panelCells f width + 2 ≤ width)
    (hy : y < height) :
    ((middleRows f width height)[y]?).map (List.drop (panelCells f width)) =
      some (pageLine (width - panelCells f width) (f.spansAt y)) := by
  have hroom : 2 ≤ width - panelCells f width := by omega
  have hline := getElem?_pageAreaRows f hroom hy
  rw [middleRows]
  split
  · rw [List.getElem?_zipWith, hline, panelRows, Block.getElem?_rows _ _ _ _ hy]
    exact congrArg some (List.drop_left' (Block.length_row _ _ _ _ _))
  · next hclosed =>
    have hnone : panelCells f width = 0 := if_neg hclosed
    rw [hline, hnone, Option.map_some, List.drop_zero]

/-- The lines below the header show the page. -/
theorem drop_paint (f : Frame) {width height y : Nat} (hwidth : panelCells f width + 2 ≤ width)
    (hy : y < (Layout.ofHeight height).page) :
    ((paint f width height)[(Layout.ofHeight height).header + y]?).map
        (List.drop (panelCells f width)) =
      some (pageLine (width - panelCells f width) (f.spansAt y)) := by
  have hheader : (headerRows f width (Layout.ofHeight height).header).length =
      (Layout.ofHeight height).header := Block.length_rows _ _ _ _
  have hmiddle : y < (middleRows f width (Layout.ofHeight height).page).length := by
    rw [length_middleRows]
    exact hy
  rw [paint_eq, List.append_assoc, List.getElem?_append_right (by omega), hheader,
    Nat.add_sub_cancel_left, List.getElem?_append_left hmiddle, drop_middleRows f hwidth hy]

end Screen

namespace Viewer

open Highlight (CodeRow)
open Screen (Frame Layout ShowsText bar lineText panelCells)

/-! ## What is read on a line -/

/-- The first of some items that has a property, and its place among them. -/
structure First {α : Type} (items : List α) (property : α → Prop) (place : Nat) (a : α) : Prop where
  item : items[place]? = some a
  has : property a
  before : ∀ i b, i < place → items[i]? = some b → ¬property b

theorem first_getElem {α : Type} {items : List α} {property : α → Prop} {place : Nat}
    (hplace : place < items.length) (has : property items[place])
    (hbefore : ∀ i (hi : i < place), ¬property items[i]) : First items property place items[place] := by
  refine ⟨List.getElem?_eq_getElem hplace, has, fun i b hi hb => ?_⟩
  obtain ⟨_, rfl⟩ := List.getElem?_eq_some_iff.mp hb
  exact hbefore i hi

theorem exists_first_of_findIdx? {α : Type} {items : List α} {p : α → Bool} {place : Nat}
    (h : items.findIdx? p = some place) : ∃ a, First items (p · = true) place a := by
  obtain ⟨hplace, hp, hbefore⟩ := List.findIdx?_eq_some_iff_getElem.mp h
  exact ⟨_, first_getElem hplace hp hbefore⟩

theorem exists_first_row {α : Type} {items : List α} {rowOf : α → Nat} {row : Nat} {a : α}
    (h : items.find? (rowOf · == row) = some a) : ∃ place, First items (rowOf · = row) place a := by
  obtain ⟨hp, place, hplace, rfl, hbefore⟩ := List.find?_eq_some_iff_getElem.mp h
  exact ⟨place, first_getElem hplace (eq_of_beq hp) (by simpa using hbefore)⟩

theorem row_ne_of_find?_eq_none {α : Type} {items : List α} {rowOf : α → Nat} {row : Nat}
    (h : items.find? (rowOf · == row) = none) : ∀ a ∈ items, rowOf a ≠ row := by
  simpa using h

/-- The bar before the rows of a snippet. -/
def barText (u : Viewer) (index : Nat) : String := if u.selected = some index then "▌" else "│"

/-- The mark behind the first row of a snippet. -/
def markText (u : Viewer) (index now : Nat) : String :=
  if u.isCopied index now then " ✓ copied " else " [c] copy "

/-- What is read on the line of a row with the given text, part by part.  A row of a heading has the number
signs of its level and its title.  The first row of a snippet has the copy mark behind it and the others a
bar before them, and those may be in colours.  Any other row is as it is. -/
inductive Reads (u : Viewer) (code : List CodeRow) (now row : Nat) (text : String) :
    List String → Prop where
  | heading {place : Nat} {s : Section} (h : First u.page.sections (·.row = row) place s) :
      Reads u code now row text [String.ofList (List.replicate s.level '#'), " ", s.title]
  | fence {index : Nat} {s : Snippet} (hheadings : ∀ t ∈ u.page.sections, t.row ≠ row)
      (h : First u.page.snippets (·.covers row) index s) (hrow : row = s.firstRow) :
      Reads u code now row text [text, " ", markText u index now]
  | colored {index place : Nat} {s : Snippet} {c : CodeRow}
      (hheadings : ∀ t ∈ u.page.sections, t.row ≠ row)
      (h : First u.page.snippets (·.covers row) index s) (hrow : row ≠ s.firstRow)
      (hcode : First code (·.row = row) place c) :
      Reads u code now row text (barText u index :: c.spans.map (·.text))
  | code {index : Nat} {s : Snippet} (hheadings : ∀ t ∈ u.page.sections, t.row ≠ row)
      (h : First u.page.snippets (·.covers row) index s) (hrow : row ≠ s.firstRow)
      (hcode : ∀ c ∈ code, c.row ≠ row) :
      Reads u code now row text [barText u index, text]
  | plain (hheadings : ∀ t ∈ u.page.sections, t.row ≠ row)
      (hsnippets : ∀ s ∈ u.page.snippets, ¬s.covers row) :
      Reads u code now row text [text]

theorem text_copyMark (copied selected : Bool) :
    (Frame.copyMark copied selected).text = if copied then " ✓ copied " else " [c] copy " := by
  cases copied <;> cases selected <;> rfl

theorem reads_snippetSpans {u : Viewer} (code : List CodeRow) (now : Nat) {row index : Nat}
    (text : String) {s : Snippet} (hheadings : ∀ t ∈ u.page.sections, t.row ≠ row)
    (h : First u.page.snippets (·.covers row) index s) :
    Reads u code now row text
      ((Frame.snippetSpans u code index s row text now).map (·.text)) := by
  unfold Frame.snippetSpans
  by_cases hrow : row = s.firstRow
  · rw [if_pos hrow, List.map_cons, List.map_cons, List.map_cons, text_copyMark]
    exact .fence hheadings h hrow
  · have hbar : (if u.selected = some index then
          { text := "▌", style := .colored .green : Screen.Span }
        else { text := "│", style := .colored .darkGray }).text = barText u index := by
      rw [barText]
      split <;> rfl
    rw [if_neg hrow]
    cases hfound : code.find? (·.row == row) with
    | some c =>
      obtain ⟨place, hplace⟩ := exists_first_row hfound
      rw [List.map_cons, hbar]
      exact .colored hheadings h hrow hplace
    | none =>
      rw [List.map_cons, hbar]
      exact .code hheadings h hrow (row_ne_of_find?_eq_none hfound)

theorem reads_rowSpans (u : Viewer) (code : List CodeRow) (now row : Nat) (text : String) :
    Reads u code now row text ((Frame.rowSpans u code row text now).map (·.text)) := by
  unfold Frame.rowSpans
  cases hheading : u.page.sections.find? (·.row == row) with
  | some s =>
    obtain ⟨place, hplace⟩ := exists_first_row hheading
    exact .heading hplace
  | none =>
    have hheadings := row_ne_of_find?_eq_none hheading
    cases hsnippet : u.page.snippetAt? row with
    | some index =>
      obtain ⟨s, hs⟩ := exists_first_of_findIdx? hsnippet
      dsimp only
      rw [hs.item]
      exact reads_snippetSpans code now text hheadings hs
    | none =>
      exact .plain hheadings fun s hs => ne_true_of_eq_false (List.findIdx?_eq_none_iff.mp hsnippet s hs)

/-- Where what is in colours is a row of the page, all but the headings can be read as they are. -/
theorem Reads.exists_around {u : Viewer} {code : List CodeRow} {now row : Nat} {text : String}
    {parts : List String} (h : Reads u code now row text parts)
    (hheadings : ∀ t ∈ u.page.sections, t.row ≠ row)
    (hcode : ∀ c ∈ code, c.row = row → c.text = text) :
    ∃ before behind, parts.flatMap String.toList = before ++ text.toList ++ behind := by
  cases h with
  | heading hfirst => exact absurd hfirst.has (hheadings _ (List.mem_of_getElem? hfirst.item))
  | @fence index _ _ _ _ => exact ⟨[], [' '] ++ (markText u index now).toList, by simp⟩
  | @colored index _ _ c _ _ _ hc =>
    have htext := hcode c (List.mem_of_getElem? hc.item) hc.has
    refine ⟨(barText u index).toList, [], ?_⟩
    rw [← htext, CodeRow.text, String.toList_join, List.flatMap_cons, List.append_nil]
  | @code index _ _ _ _ _ => exact ⟨(barText u index).toList, [], by simp⟩
  | plain _ _ => exact ⟨[], [], by simp⟩

/-! ## The rows of a frame -/

theorem map_row_pageRowsOf (v : Viewer) (code : List CodeRow) (height now : Nat) :
    (Frame.pageRowsOf v code height now).map (·.row) =
      List.range' v.scroll (min (v.scroll + height) v.page.height - v.scroll) := by
  have hcount : min height (v.page.rows.length - v.scroll) =
      min (v.scroll + height) v.page.height - v.scroll := by
    rw [Page.height]
    omega
  rw [Frame.pageRowsOf, List.map_map]
  show List.map Prod.snd _ = _
  rw [Frame.map_snd_rows, hcount]

theorem exists_text_of_mem_pageRowsOf {v : Viewer} {code : List CodeRow} {height now : Nat}
    {r : Screen.PageRow} (h : r ∈ Frame.pageRowsOf v code height now) :
    ∃ text, v.page.rows[r.row]? = some text ∧ r.spans = Frame.rowSpans v code r.row text now ∧
      Reads v code now r.row text (r.spans.map (·.text)) := by
  obtain ⟨⟨text, row⟩, hentry, rfl⟩ := List.mem_map.mp h
  exact ⟨text, Frame.getElem?_of_mem_rows hentry, rfl, reads_rowSpans v code now row text⟩

/-- The frame `f` has the rows of the page that fit on `height` lines from the scroll of `u` on, in each
line there is its row to read, and the snippets that are visible in `u` are those with a row among them. -/
structure PaintsPage (u : Viewer) (code : List CodeRow) (height now : Nat) (f : Frame) : Prop where
  rows : f.pageRows.map (·.row) =
    List.range' u.scroll (min (u.scroll + height) u.page.height - u.scroll)
  text : ∀ r ∈ f.pageRows, ∃ text, u.page.rows[r.row]? = some text ∧
    r.spans = Frame.rowSpans u code r.row text now ∧
    Reads u code now r.row text (r.spans.map (·.text))
  /-- Where what is in colours are rows of the page, all rows but headings are there as they are. -/
  whole : (∀ c ∈ code, u.page.rows[c.row]? = some c.text) → ∀ r ∈ f.pageRows,
    (∀ s ∈ u.page.sections, s.row ≠ r.row) → ∃ text before behind,
      u.page.rows[r.row]? = some text ∧
        r.spans.flatMap (·.text.toList) = before ++ text.toList ++ behind
  nonempty : u.page.rows ≠ [] → f.pageRows ≠ []
  ascending : u.visibleSnippets.Pairwise (· < ·)
  visible : ∀ index, index ∈ u.visibleSnippets ↔
    ∃ s, u.page.snippets[index]? = some s ∧ ∃ r ∈ f.pageRows, s.covers r.row

theorem exists_pageRowsOf_iff {v : Viewer} {code : List CodeRow} {height now row : Nat} :
    (∃ r ∈ Frame.pageRowsOf v code height now, r.row = row) ↔
      v.scroll ≤ row ∧ row < v.scroll + height ∧ row < v.page.height := by
  rw [← List.mem_map, map_row_pageRowsOf, List.mem_range'_1]
  omega

/-- A snippet is visible if it covers a row that is drawn. -/
theorem InRange.shows_iff {v : Viewer} (h : InRange v) {s : Snippet} (hrows : s.firstRow ≤ s.lastRow)
    (hlast : s.lastRow < v.page.height) :
    v.shows s = true ↔
      ∃ row, (v.scroll ≤ row ∧ row < v.scroll + v.height ∧ row < v.page.height) ∧ s.covers row := by
  have hone := h.height
  simp only [shows, Bool.and_eq_true, decide_eq_true_eq, Page.covers_iff]
  constructor
  · intro hshows
    exact ⟨max v.scroll s.firstRow, by omega, by omega⟩
  · rintro ⟨row, hdrawn, hcovers⟩
    omega

theorem Sound.paintsPage {source : String} {settings : Settings} {v : Viewer}
    (h : Sound (Page.parse source) settings v) (code : List CodeRow) {screenHeight : Nat} (now : Nat)
    (hlines : 1 ≤ (Layout.ofHeight screenHeight).page) :
    PaintsPage (v.fit screenHeight) code (Layout.ofHeight screenHeight).page now
      (v.frame code screenHeight now) := by
  have hfitted : Sound (Page.parse source) settings (v.fit screenHeight) := h.act (.resize _)
  have hheight : (v.fit screenHeight).height = (Layout.ofHeight screenHeight).page := by
    rw [fit, height_resize, Nat.max_eq_left hlines]
  have hrows : (v.frame code screenHeight now).pageRows =
      Frame.pageRowsOf (v.fit screenHeight) code (Layout.ofHeight screenHeight).page now := rfl
  constructor
  case rows =>
    rw [hrows]
    exact map_row_pageRowsOf _ _ _ _
  case text =>
    rw [hrows]
    exact fun r hr => exists_text_of_mem_pageRowsOf hr
  case whole =>
    rw [hrows]
    intro hcode r hr hheadings
    obtain ⟨text, htext, -, hreads⟩ := exists_text_of_mem_pageRowsOf hr
    have hcolored : ∀ c ∈ code, c.row = r.row → c.text = text := by
      intro c hc hrow
      have hshown := hcode c hc
      rw [hrow, htext] at hshown
      exact (Option.some.inj hshown).symm
    obtain ⟨before, behind, hwhole⟩ := hreads.exists_around hheadings hcolored
    rw [List.flatMap_map] at hwhole
    exact ⟨text, before, behind, htext, hwhole⟩
  case nonempty =>
    intro hpage hnone
    have htop : ∃ r ∈ (v.frame code screenHeight now).pageRows, r.row = (v.fit screenHeight).scroll := by
      have hlen : 0 < (v.fit screenHeight).page.height := List.length_pos_iff.mpr hpage
      have hscroll : (v.fit screenHeight).scroll ≤
          (v.fit screenHeight).page.height - (v.fit screenHeight).height := hfitted.scroll
      rw [hrows, exists_pageRowsOf_iff]
      omega
    rw [hnone] at htop
    simp at htop
  case ascending => exact pairwise_visibleSnippets _
  case visible =>
    intro index
    rw [mem_visibleSnippets]
    refine exists_congr fun s => and_congr_right fun hs => ?_
    have hmem : s ∈ (Page.parse source).snippets := hfitted.page ▸ List.mem_of_getElem? hs
    have hlast : s.lastRow < (v.fit screenHeight).page.height := by
      rw [hfitted.page]
      exact Page.lastRow_lt_height hmem
    rw [hfitted.shows_iff ((Page.inOrder_parse source).within s hmem) hlast, hheight, hrows]
    constructor
    · rintro ⟨row, hdrawn, hcovers⟩
      obtain ⟨r, hr, rfl⟩ := exists_pageRowsOf_iff.mpr hdrawn
      exact ⟨r, hr, hcovers⟩
    · rintro ⟨r, hr, hcovers⟩
      exact ⟨r.row, exists_pageRowsOf_iff.mp ⟨r, hr, rfl⟩, hcovers⟩

/-- At any time a draw on a screen that leaves the page a line paints the rows from the scroll on, as many
as there are lines or rows left, one on each line and from its start, and what can be copied after it are
the snippets with a row among them. -/
theorem painted_rows_are_visible {source : String} {settings : Settings}
    (h : (Page.parse source).navigation settings.navDepth ≠ []) :
    ∃ v, Viewer.start (Page.parse source) settings = .ok v ∧
      ∀ (actions : List Action) (code : List CodeRow) (screenHeight now : Nat),
        let w := v.run actions
        let layout := Layout.ofHeight screenHeight
        let f := w.frame code screenHeight now
        1 ≤ layout.page →
          PaintsPage (w.fit screenHeight) code layout.page now f ∧
          ∀ width y, panelCells f width + 2 ≤ width → y < layout.page → ∃ line,
            ((w.draw code width screenHeight now)[layout.header + y]?).map
                (List.drop (panelCells f width)) = some (bar :: line ++ [bar]) ∧
              ShowsText (width - panelCells f width - 2) (f.spansAt y) line := by
  obtain ⟨v, hstart, htracks⟩ := exists_start_tracks h
  refine ⟨v, hstart, fun actions code screenHeight now => ?_⟩
  intro w layout f hlines
  have hw : Sound (Page.parse source) settings w := sound_run hstart htracks actions
  exact ⟨hw.paintsPage code now hlines, fun width y hwidth hy =>
    ⟨_, Screen.drop_paint f hwidth hy, Screen.showsText_textRow _ _⟩⟩

/-- Of either block one fence is drawn, and that is enough for it to be visible. -/
theorem painted_rows_are_visible_fences :
    let p := Page.parse "# A\n\x60\x60\x60\nx\n\x60\x60\x60\nb\n\x60\x60\x60\ny\n\x60\x60\x60\n"
    p.navigation Settings.standard.navDepth ≠ [] ∧ 1 ≤ (Layout.ofHeight 9).page ∧
      ∃ v, Viewer.start p .standard = .ok v ∧ let w := v.run [.scrollTo 3]
        PaintsPage (w.fit 9) [] 3 0 (w.frame [] 9 0) ∧
        (w.frame [] 9 0).pageRows.map (·.row) = [3, 4, 5] ∧ (w.fit 9).visibleSnippets = [0, 1] ∧
        (((w.draw [] 20 9 0).drop 3).take 3).map lineText =
          ["││\x60\x60\x60              │", "│b                 │", "│\x60\x60\x60  [c] copy     │"] ∧
        ∃ line, ((w.draw [] 20 9 0)[4]?).map (List.drop 0) = some (bar :: line ++ [bar]) ∧
          ShowsText 18 [.plain "b"] line := by
  intro p
  have hnav : p.navigation Settings.standard.navDepth ≠ [] := by decide
  have hlines : 1 ≤ (Layout.ofHeight 9).page := by decide
  obtain ⟨v, hstart, hpaints⟩ := painted_rows_are_visible hnav
  have hview : ∃ u, Viewer.start p .standard = .ok u ∧ let w := u.run [.scrollTo 3]
      (w.frame [] 9 0).pageRows.map (·.row) = [3, 4, 5] ∧ (w.fit 9).visibleSnippets = [0, 1] ∧
        (((w.draw [] 20 9 0).drop 3).take 3).map lineText =
          ["││\x60\x60\x60              │", "│b                 │", "│\x60\x60\x60  [c] copy     │"] ∧
        panelCells (w.frame [] 9 0) 20 = 0 ∧ (w.frame [] 9 0).spansAt 1 = [.plain "b"] :=
    ⟨_, rfl, by decide, by decide, by decide +kernel, by decide, by decide⟩
  obtain ⟨u, hu, hrows, hvisible, htexts, hpanel, hspans⟩ := hview
  obtain rfl : u = v := Except.ok.inj (hu.symm.trans hstart)
  obtain ⟨hpage, hscreen⟩ := hpaints [.scrollTo 3] [] 9 0 hlines
  have hline := hscreen 20 1 (by omega) (by decide)
  rw [hpanel, hspans] at hline
  exact ⟨hnav, hlines, u, hstart, hpage, hrows, hvisible, htexts, hline⟩

end Viewer
end DocPager
