import DocPager.Proofs.Page.Sections
import DocPager.Proofs.Screen.PageArea
import DocPager.Proofs.Viewer.Input

/-!
The links to the sections.  The header and the navigation panel list the navigation of the page, each in
a form of its own, and both go by ids to find the active section.  No two sections share an id, so either
list shows one entry as active, and it is the same in both.
-/

namespace DocPager

namespace Screen

/-! ## The two lists -/

/-- The style of the link to the active section in the header. -/
def activeLink : Style := { Style.colored .green with bold := true, reversed := true }

/-- The style of the line of the active section in the panel. -/
def activeItem : Style := { Style.colored .green with bold := true }

def headerLink (s : Section) (active : Bool) : Span where
  text := " " ++ s.title ++ " "
  style := if active then activeLink else .colored .gray

/-- What stands between two links of the header. -/
def linkBar : Span := { text := " │ ", style := .colored .darkGray }

/-- An item of the panel: the digit that jumps to the section if there is one, two blanks for each level
below the first, and the title. -/
def panelItem (index : Nat) (s : Section) (active : Bool) : Span where
  text := (if index < 9 then toString (index + 1) ++ " " else "  ") ++
    String.ofList (List.replicate (2 * (s.level - 1)) ' ') ++ s.title
  style := if active then activeItem else .plain

/-- The lines of the panel, as many as there are links. -/
def panelItems (f : Frame) : List Span := f.links.mapIdx fun i l => panelItem i l.target l.active

theorem headerSpans_eq (links : List Link) :
    headerSpans links = (links.map fun l => headerLink l.target l.active).intersperse linkBar := by
  fun_induction headerSpans links with
  | case1 => rfl
  | case2 l => rfl
  | case3 l rest hne ih =>
    obtain ⟨next, more, rfl⟩ := List.exists_cons_of_ne_nil hne
    rw [ih]
    rfl

theorem filter_intersperse {α : Type} {p : α → Bool} {bar : α} (hbar : p bar = false)
    (items : List α) : (items.intersperse bar).filter p = items.filter p := by
  induction items with
  | nil => rfl
  | cons a rest ih =>
    cases rest with
    | nil => rfl
    | cons b more =>
      rw [List.intersperse_cons_cons, List.filter_cons, List.filter_cons_of_neg (by simp [hbar]), ih,
        List.filter_cons (x := a)]

/-- Of items that are told apart by their places, the one at place `k`. -/
theorem filter_mapIdx {α β : Type} {items : List α} {f : Nat → α → β} {p : β → Bool} {k : Nat} {a : α}
    (hp : ∀ i b, p (f i b) = decide (i = k)) (hk : items[k]? = some a) :
    (items.mapIdx f).filter p = [f k a] := by
  induction items generalizing f k with
  | nil => cases hk
  | cons b rest ih =>
    rw [List.mapIdx_cons, List.filter_cons, hp]
    cases k with
    | zero =>
      obtain rfl : b = a := Option.some.inj hk
      have hnone : (rest.mapIdx fun i => f (i + 1)).filter p = [] := by
        refine List.filter_eq_nil_iff.mpr fun item hitem => ?_
        obtain ⟨i, hi, rfl⟩ := List.mem_mapIdx.mp hitem
        simp [hp]
      rw [hnone]
      rfl
    | succ k =>
      rw [if_neg (by simp)]
      exact ih (fun i c => by simp [hp]) hk

/-! ## The active section in them -/

/-- The header and the panel list `sections`, and in either the one at place `index` is the only one
that is shown as active. -/
structure MarksOne (sections : List Section) (index : Nat) (f : Frame) : Prop where
  header : headerSpans f.links =
    (sections.mapIdx fun i s => headerLink s (i = index)).intersperse linkBar
  panel : panelItems f = sections.mapIdx fun i s => panelItem i s (i = index)
  one : ∃ s, sections[index]? = some s ∧
    (headerSpans f.links).filter (·.style = activeLink) = [headerLink s true] ∧
    (panelItems f).filter (·.style = activeItem) = [panelItem index s true]

theorem style_headerLink (s : Section) (active : Bool) :
    decide ((headerLink s active).style = activeLink) = active := by
  cases active <;> rfl

theorem style_panelItem (index : Nat) (s : Section) (active : Bool) :
    decide ((panelItem index s active).style = activeItem) = active := by
  cases active <;> rfl

/-- The links of a tracker in which ids tell the sections apart. -/
theorem linksOf_eq {t : Tracker} (hids : (t.sections.map (·.id)).Nodup)
    (hcurrent : t.contains t.current = true) :
    Frame.linksOf t =
      t.sections.mapIdx fun i s => { target := s, active := decide (i = t.currentIndex) } := by
  refine List.ext_getElem? fun i => ?_
  rw [Frame.linksOf, List.getElem?_map, List.getElem?_mapIdx]
  cases hs : t.sections[i]? with
  | none => rfl
  | some s =>
    obtain ⟨u, hu, hid⟩ := Tracker.getElem?_currentIndex hcurrent
    have hactive : (s.id == t.current) = decide (i = t.currentIndex) := by
      rw [Bool.eq_iff_iff, beq_iff_eq, decide_eq_true_iff]
      constructor
      · intro hsame
        have hfound := Page.findIdx?_id_of_getElem? hids hs
        rw [Tracker.currentIndex, ← hsame, hfound]
        rfl
      · intro hindex
        rw [hindex, hu] at hs
        rw [← Option.some.inj hs, hid]
    rw [Option.map_some, Option.map_some, hactive]

theorem marksOne {f : Frame} {sections : List Section} {index : Nat} {s : Section}
    (hlinks : f.links = sections.mapIdx fun i s => { target := s, active := decide (i = index) })
    (hs : sections[index]? = some s) : MarksOne sections index f := by
  have hheader : headerSpans f.links =
      (sections.mapIdx fun i s => headerLink s (i = index)).intersperse linkBar := by
    rw [headerSpans_eq, hlinks, List.mapIdx_eq_zipIdx_map, List.mapIdx_eq_zipIdx_map, List.map_map]
    rfl
  have hpanel : panelItems f = sections.mapIdx fun i s => panelItem i s (i = index) := by
    rw [panelItems, hlinks, List.mapIdx_mapIdx]
    rfl
  refine ⟨hheader, hpanel, s, hs, ?_, ?_⟩
  · rw [hheader, filter_intersperse rfl, filter_mapIdx (fun i s => style_headerLink s _) hs,
      decide_eq_true rfl]
  · rw [hpanel, filter_mapIdx (fun i s => style_panelItem i s _) hs, decide_eq_true rfl]

/-! ## The lists on the screen -/

/-- The line of the header that has the links.  Once the page is scrolled it is in a frame. -/
def headerLine (f : Frame) (width : Nat) : CellRow :=
  if f.scrolled then
    (headerBlock f).side :: textRow (width - 2) (headerSpans f.links) ++ [(headerBlock f).side]
  else textRow width (headerSpans f.links)

/-- An item of the panel in the style of its line. -/
def itemRow (width : Nat) (item : Span) : CellRow :=
  overwrite (List.replicate width { Cell.blank with style := item.style }) (.plain item.text)

/-- A line of the panel.  Below the last item it is blank. -/
def panelLine (width : Nat) (item? : Option Span) : CellRow :=
  bar :: (item?.map (itemRow (width - 2))).getD (blankRow (width - 2)) ++ [bar]

theorem length_itemRow (width : Nat) (item : Span) : (itemRow width item).length = width := by
  rw [itemRow, length_overwrite, List.length_replicate]

theorem length_panelLine {width : Nat} (hwidth : 2 ≤ width) (item? : Option Span) :
    (panelLine width item?).length = width := by
  have hinside : ((item?.map (itemRow (width - 2))).getD (blankRow (width - 2))).length = width - 2 := by
    cases item? with
    | none => exact length_blankRow _
    | some item => exact length_itemRow _ item
  rw [panelLine, List.length_append, List.length_cons, hinside, List.length_singleton]
  omega

theorem sides_headerBlock (f : Frame) :
    (headerBlock f).left = f.scrolled ∧ (headerBlock f).right = f.scrolled := by
  unfold headerBlock
  split
  · next hscrolled => exact ⟨hscrolled.symm, hscrolled.symm⟩
  · next hscrolled =>
    exact ⟨(eq_false_of_ne_true hscrolled).symm, (eq_false_of_ne_true hscrolled).symm⟩

theorem above_headerBlock (f : Frame) : (headerBlock f).above = 1 := by
  unfold headerBlock
  split <;> rfl

theorem content_headerBlock (f : Frame) (width : Nat) :
    (headerBlock f).content width
        [textRow ((headerBlock f).innerWidth width) (headerSpans f.links)] 1 =
      textRow ((headerBlock f).innerWidth width) (headerSpans f.links) := by
  have hline : ∀ line ∈ [textRow ((headerBlock f).innerWidth width) (headerSpans f.links)],
      line.length = (headerBlock f).innerWidth width := by
    rw [List.forall_mem_singleton]
    exact length_textRow _ _
  rw [Block.content_eq hline (Nat.le_of_eq (above_headerBlock f)), above_headerBlock]
  rfl

/-- The links are on the second line of a header that is not cut. -/
theorem getElem?_headerRows (f : Frame) {width : Nat} (hwidth : 2 ≤ width) :
    (headerRows f width 3)[1]? = some (headerLine f width) := by
  have hbetween : (headerBlock f).Between 3 1 := ⟨fun _ => by omega, fun _ => by omega⟩
  obtain ⟨hleft, hright⟩ := sides_headerBlock f
  obtain ⟨room, rfl⟩ := Nat.exists_eq_add_of_le' hwidth
  rw [headerRows, Block.getElem?_rows _ _ _ _ (by omega), Block.row_of_ne_zero _ _ _ _ (by omega),
    headerLine]
  split
  · next hscrolled =>
    rw [hscrolled] at hleft hright
    rw [hbetween.bordered_sides hleft hright, content_headerBlock, Block.innerWidth, hleft, hright]
    rfl
  · next hscrolled =>
    rw [eq_false_of_ne_true hscrolled] at hleft hright
    rw [hbetween.bordered_no_sides hleft hright, content_headerBlock, Block.innerWidth, hleft, hright]
    rfl

/-- The block of the panel. -/
def panelBlock : Block := Block.framed (some (.plain "Sections"))

theorem panelRows_eq (f : Frame) (width height : Nat) :
    panelRows f width height =
      panelBlock.rows width height
        (((panelItems f).take (height - 2)).map (itemRow (width - 2))) := by
  show panelBlock.rows width height ((f.links.take (height - 1 - 1)).mapIdx (panelRow (width - 1 - 1))) = _
  congr 1
  refine List.ext_getElem? fun i => ?_
  rw [List.getElem?_mapIdx, List.getElem?_map, List.getElem?_take, List.getElem?_take, panelItems,
    List.getElem?_mapIdx, Nat.sub_sub, Nat.sub_sub]
  split
  · rw [Option.map_map]
    rfl
  · rfl

theorem getElem?_panelRows (f : Frame) {width height y : Nat} (hwidth : 2 ≤ width)
    (hy : y + 2 < height) :
    (panelRows f width height)[y + 1]? = some (panelLine width (panelItems f)[y]?) := by
  have hbetween : panelBlock.Between height (y + 1) := ⟨fun _ => by omega, fun _ => by omega⟩
  obtain ⟨room, rfl⟩ := Nat.exists_eq_add_of_le' hwidth
  have hlines : ∀ line ∈ ((panelItems f).take (height - 2)).map (itemRow (room + 2 - 2)),
      line.length = panelBlock.innerWidth (room + 2) := by
    rw [List.forall_mem_map]
    exact fun item _ => length_itemRow _ item
  have habove : panelBlock.above = 1 := rfl
  rw [panelRows_eq, Block.getElem?_rows _ _ _ _ (by omega), Block.row_of_ne_zero _ _ _ _ (by omega),
    hbetween.bordered_sides rfl rfl, Block.content_eq hlines (by omega), habove, Nat.add_sub_cancel,
    List.getElem?_map, List.getElem?_take_of_lt (by omega), panelLine]
  rfl

/-- On a screen of the given size, the links stand below the title, and the items of the panel one below
the other beside the page. -/
structure PaintsLinks (f : Frame) (width height : Nat) (lines : List CellRow) : Prop where
  header : (Layout.ofHeight height).header = 3 → lines[1]? = some (headerLine f width)
  panel : f.panelOpen = true → ∀ i, i + 2 < (Layout.ofHeight height).page →
    (lines[(Layout.ofHeight height).header + (i + 1)]?).map (List.take (panelCells f width)) =
      some (panelLine (panelCells f width) (panelItems f)[i]?)

theorem paintsLinks (f : Frame) {width : Nat} (hwidth : 2 ≤ width) (height : Nat) :
    PaintsLinks f width height (paint f width height) := by
  have hlength : (headerRows f width (Layout.ofHeight height).header).length =
      (Layout.ofHeight height).header := Block.length_rows _ _ _ _
  constructor
  case header =>
    intro hheader
    rw [paint_eq, List.append_assoc, List.getElem?_append_left (by omega), hheader,
      getElem?_headerRows f hwidth]
  case panel =>
    intro hopen i hi
    have hcells : 2 ≤ panelCells f width := by
      rw [panelCells, if_pos hopen, panelWidth]
      omega
    have hmiddle : i + 1 < (middleRows f width (Layout.ofHeight height).page).length := by
      rw [length_middleRows]
      omega
    have hpage : (pageAreaRows f (width - panelCells f width) (Layout.ofHeight height).page)[i + 1]? =
        some _ := Block.getElem?_rows _ _ _ _ (by omega)
    have hitem := getElem?_panelRows f hcells hi
    rw [paint_eq, List.append_assoc, List.getElem?_append_right (by omega), hlength,
      Nat.add_sub_cancel_left, List.getElem?_append_left hmiddle, middleRows, if_pos hopen,
      List.getElem?_zipWith, hitem, hpage, Option.map_some]
    exact congrArg some (List.take_left' (length_panelLine hcells _))

end Screen

namespace Viewer

open Highlight (CodeRow)
open Screen (MarksOne PaintsLinks lineText panelItems)

/-- Whatever has come to a viewer, the header and the panel of the next frame list the navigation of the
page, and the active section, found at its index, is the one that either shows as active. -/
theorem links_mark_current_section {source : String} {settings : Settings}
    (h : (Page.parse source).navigation settings.navDepth ≠ []) :
    ∃ v, Viewer.start (Page.parse source) settings = .ok v ∧
      ∀ (inputs : List Input) (code : List CodeRow) (screenHeight now : Nat),
        let w := v.takeAll inputs
        let f := w.frame code screenHeight now
        MarksOne ((Page.parse source).navigation settings.navDepth) w.tracker.currentIndex f ∧
          f.panelOpen = w.navOpen ∧ ∀ width, 2 ≤ width →
            PaintsLinks f width screenHeight (w.draw code width screenHeight now) := by
  obtain ⟨v, hstart, htracks⟩ := exists_start_tracks h
  refine ⟨v, hstart, fun inputs code screenHeight now => ?_⟩
  intro w f
  obtain ⟨actions, hrun⟩ := exists_run_takeAll v inputs
  have hsound : Sound (Page.parse source) settings w := by
    show Sound _ _ (v.takeAll inputs)
    rw [hrun]
    exact sound_run hstart htracks actions
  obtain ⟨s, hs⟩ := hsound.exists_current
  have hids : (w.tracker.sections.map (·.id)).Nodup := by
    rw [hsound.sections]
    exact Page.nodup_id_navigation source _
  have hlinks : f.links = _ := Screen.linksOf_eq hids hsound.contains_current
  rw [hsound.sections] at hlinks hs
  exact ⟨Screen.marksOne hlinks hs, rfl, fun width hwidth => Screen.paintsLinks f hwidth screenHeight⟩

/-- Three headings with one title: at the end of the page it is the last of them. -/
theorem links_mark_current_section_same_titles :
    let p := Page.parse "# A\n\n\n\n## A\n\n\n\n## A\n"
    p.navigation Settings.standard.navDepth ≠ [] ∧ 2 ≤ 40 ∧
      ∃ v, Viewer.start p .standard = .ok v ∧
        let w := v.takeAll [.event (.key (.plain (.char 'm'))) .accepts 0,
          .event (.key (.plain .endOfPage)) .accepts 0, .flush]
        let f := w.frame [] 14 0
        w.navOpen = true ∧ w.tracker.currentIndex = 2 ∧
          MarksOne (p.navigation Settings.standard.navDepth) w.tracker.currentIndex f ∧
          (panelItems f).map (·.text) = ["1 A", "2   A", "3   A"] ∧
          PaintsLinks f 40 14 (w.draw [] 40 14 0) ∧
          ((w.draw [] 40 14 0)[1]?).map lineText = some "│ A  │  A  │  A                        │" ∧
          ((w.draw [] 40 14 0)[6]?).map (fun line => lineText (line.take 28)) =
            some "│3   A                     │" := by
  intro p
  have hnav : p.navigation Settings.standard.navDepth ≠ [] := by decide
  obtain ⟨v, hstart, hmarks⟩ := links_mark_current_section hnav
  have hview : ∃ u, Viewer.start p .standard = .ok u ∧
      let w := u.takeAll [.event (.key (.plain (.char 'm'))) .accepts 0,
        .event (.key (.plain .endOfPage)) .accepts 0, .flush]
      w.navOpen = true ∧ w.tracker.currentIndex = 2 ∧
        (panelItems (w.frame [] 14 0)).map (·.text) = ["1 A", "2   A", "3   A"] ∧
        ((w.draw [] 40 14 0)[1]?).map lineText = some "│ A  │  A  │  A                        │" ∧
        ((w.draw [] 40 14 0)[6]?).map (fun line => lineText (line.take 28)) =
          some "│3   A                     │" :=
    ⟨_, rfl, by decide, by decide, by decide, by decide +kernel, by decide +kernel⟩
  obtain ⟨u, hu, hopen, hindex, hitems, hheader, hpanel⟩ := hview
  obtain rfl : u = v := Except.ok.inj (hu.symm.trans hstart)
  obtain ⟨hone, -, hpaints⟩ := hmarks [.event (.key (.plain (.char 'm'))) .accepts 0,
    .event (.key (.plain .endOfPage)) .accepts 0, .flush] [] 14 0
  exact ⟨hnav, by omega, u, hstart, hopen, hindex, hone, hitems, hpaints 40 (by omega), hheader, hpanel⟩

end Viewer
end DocPager
