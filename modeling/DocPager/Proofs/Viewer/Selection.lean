import DocPager.Proofs.Page.Snippets
import DocPager.Proofs.Viewer.Tracking
import DocPager.Proofs.Viewer.Range

/-!
Choosing snippets one after another.  The snippet that is chosen is scrolled into view: its first row is
on screen, and all of it if there is room.  That the view cannot go beyond the end of the page is no
hindrance, since the snippet does not reach beyond it either.
-/

namespace DocPager.Viewer

/-! ## Scrolling into view -/

theorem scroll_reveal {v : Viewer} (hscroll : v.scroll ≤ v.maxScroll) {index : Nat} {s : Snippet}
    (hs : v.page.snippets[index]? = some s) (hlast : s.lastRow < v.page.height) :
    (v.reveal index).scroll =
      if s.firstRow < v.scroll then s.firstRow
      else if v.scroll + v.height ≤ s.lastRow then min (s.lastRow + 1 - v.height) s.firstRow
      else v.scroll := by
  rw [maxScroll] at hscroll
  rw [reveal, hs]
  simp only
  split
  · rw [scroll_scrollTo, maxScroll]
    omega
  · split
    · rw [scroll_scrollTo, maxScroll]
      omega
    · rfl

/-- `w` is `v` after snippet `index` was chosen, which is `s`. -/
structure Chosen (v w : Viewer) (index : Nat) (s : Snippet) : Prop where
  snippet : v.page.snippets[index]? = some s
  selected : w.selected = some index
  height : w.height = v.height
  /-- The first row is on screen. -/
  first : w.scroll ≤ s.firstRow ∧ s.firstRow < w.scroll + w.height
  /-- So is the last one, if there is room for all of them. -/
  whole : s.lastRow + 1 - s.firstRow ≤ w.height → s.lastRow < w.scroll + w.height
  /-- What is on screen already stays where it is. -/
  still : v.scroll ≤ s.firstRow → s.lastRow < v.scroll + v.height → w.scroll = v.scroll
  target : w.copyTarget? = some index

theorem copyTarget?_of_selected {v : Viewer} {index : Nat} {s : Snippet}
    (hselected : v.selected = some index) (hs : v.page.snippets[index]? = some s)
    (hshows : v.shows s = true) : v.copyTarget? = some index := by
  have hvisible : index ∈ v.visibleSnippets := mem_visibleSnippets.mpr ⟨s, hs, hshows⟩
  rw [copyTarget?, hselected, Option.filter_some]
  simp [hvisible]

theorem InRange.chosen {v : Viewer} (h : InRange v) {index : Nat} {s : Snippet}
    (hs : v.page.snippets[index]? = some s) (hrows : s.firstRow ≤ s.lastRow)
    (hlast : s.lastRow < v.page.height) : Chosen v (v.select index) index s := by
  have hone := h.height
  have hheight := height_select v index
  have hselected := selected_select v index
  have hpage : (v.select index).page = v.page := (moves_select v index).page
  have hscroll : (v.select index).scroll = _ :=
    scroll_reveal (v := { v with selected := some index }) h.scroll hs hlast
  simp only at hscroll
  have hfirst : (v.select index).scroll ≤ s.firstRow ∧
      s.firstRow < (v.select index).scroll + (v.select index).height := by
    rw [hheight, hscroll]
    split
    · omega
    · split <;> omega
  refine ⟨hs, hselected, hheight, hfirst, ?_, ?_, ?_⟩
  · intro hroom
    rw [hheight] at hroom
    rw [hheight, hscroll]
    split
    · omega
    · split <;> omega
  · intro habove hbelow
    rw [hscroll, if_neg (by omega), if_neg (by omega)]
  · apply copyTarget?_of_selected hselected (hpage ▸ hs)
    simp only [shows, Bool.and_eq_true, decide_eq_true_eq]
    omega

/-! ## Pressing the keys -/

/-- The first snippet that is not above the screen, or the last of all if every one is above it. -/
structure FirstBelowTop (v : Viewer) (index : Nat) : Prop where
  lt : index < v.page.snippets.length
  above : ∀ j t, j < index → v.page.snippets[j]? = some t → t.lastRow < v.scroll
  below : ∀ s, v.page.snippets[index]? = some s →
    v.scroll ≤ s.lastRow ∨ index + 1 = v.page.snippets.length

theorem exists_firstBelowTop {v : Viewer} (h : v.page.snippets ≠ []) :
    ∃ index, v.firstBelowTop? = some index ∧ FirstBelowTop v index := by
  cases hfound : v.page.snippets.findIdx? fun s => v.scroll ≤ s.lastRow with
  | some index =>
    obtain ⟨hlt, hbelow, habove⟩ := List.findIdx?_eq_some_iff_getElem.mp hfound
    refine ⟨index, by rw [firstBelowTop?, hfound, Option.some_or], hlt, ?_, ?_⟩
    · intro j t hj ht
      obtain ⟨_, rfl⟩ := List.getElem?_eq_some_iff.mp ht
      simpa using habove j hj
    · intro s hs
      rw [List.getElem?_eq_getElem hlt] at hs
      obtain rfl := Option.some.inj hs
      exact .inl (of_decide_eq_true hbelow)
  | none =>
    have hpos : 0 < v.page.snippets.length := List.length_pos_iff.mpr h
    have habove := List.findIdx?_eq_none_iff.mp hfound
    refine ⟨v.page.snippets.length - 1, ?_, by omega, ?_, fun _ _ => .inr (by omega)⟩
    · rw [firstBelowTop?, hfound, Option.none_or, if_neg (by simpa using h)]
    · intro j t _ ht
      simpa using habove t (List.mem_of_getElem? ht)

theorem selectNext_of_selected {v : Viewer} {k : Nat} (h : v.selected = some k)
    (hk : k < v.page.snippets.length) :
    v.selectNext = v.select (min (k + 1) (v.page.snippets.length - 1)) := by
  have hnext : (if k + 1 < v.page.snippets.length then k + 1 else k) =
      min (k + 1) (v.page.snippets.length - 1) := by
    split <;> omega
  rw [selectNext, h]
  show v.select _ = _
  rw [hnext]

theorem selectPrevious_of_selected {v : Viewer} {k : Nat} (h : v.selected = some k) :
    v.selectPrevious = v.select (k - 1) := by rw [selectPrevious, h]

theorem select_of_unselected {v : Viewer} (h : v.selected = none) {index : Nat}
    (hfirst : v.firstBelowTop? = some index) :
    v.selectNext = v.select index ∧ v.selectPrevious = v.select index := by
  constructor
  · rw [selectNext, h]
    show (v.firstBelowTop?.map v.select).getD v = _
    rw [hfirst, Option.map_some, Option.getD_some]
  · rw [selectPrevious, h]
    show (v.firstBelowTop?.map v.select).getD v = _
    rw [hfirst, Option.map_some, Option.getD_some]

/-- Each press of the key goes one snippet further, and not beyond the last one. -/
theorem selected_run_selectNext {v : Viewer} {k : Nat} (h : v.selected = some k)
    (hk : k < v.page.snippets.length) (n : Nat) :
    (v.run (List.replicate n .selectNext)).selected =
      some (min (k + n) (v.page.snippets.length - 1)) := by
  induction n generalizing v k with
  | zero =>
    rw [List.replicate_zero, run_nil, h, Nat.min_eq_left (by omega), Nat.add_zero]
  | succ n ih =>
    have hstep : (v.act .selectNext).selected = some (min (k + 1) (v.page.snippets.length - 1)) := by
      show v.selectNext.selected = _
      rw [selectNext_of_selected h hk, selected_select]
    have hpage := page_act v .selectNext
    rw [List.replicate_succ, run_cons, ih hstep (by rw [hpage]; omega), hpage]
    congr 1
    omega

theorem selected_run_selectPrevious {v : Viewer} {k : Nat} (h : v.selected = some k) (n : Nat) :
    (v.run (List.replicate n .selectPrevious)).selected = some (k - n) := by
  induction n generalizing v k with
  | zero => rw [List.replicate_zero, run_nil, h, Nat.sub_zero]
  | succ n ih =>
    have hstep : (v.act .selectPrevious).selected = some (k - 1) := by
      show v.selectPrevious.selected = _
      rw [selectPrevious_of_selected h, selected_select]
    rw [List.replicate_succ, run_cons, ih hstep, Nat.sub_sub, Nat.add_comm 1 n]

/-- What either key does is to choose one snippet. -/
theorem InRange.exists_select {v : Viewer} (h : InRange v) (hsnippets : v.page.snippets ≠ [])
    {key : Action} (hkey : key = .selectNext ∨ key = .selectPrevious) :
    ∃ index < v.page.snippets.length, v.act key = v.select index ∧
      (v.selected = none → FirstBelowTop v index) ∧
      ∀ k, v.selected = some k → index =
        if key = .selectNext then min (k + 1) (v.page.snippets.length - 1) else k - 1 := by
  cases hselected : v.selected with
  | none =>
    obtain ⟨index, hfirst, hindex⟩ := exists_firstBelowTop hsnippets
    obtain ⟨hnext, hprevious⟩ := select_of_unselected hselected hfirst
    refine ⟨index, hindex.lt, ?_, fun _ => hindex, fun k hk => by cases hk⟩
    rcases hkey with rfl | rfl
    · exact hnext
    · exact hprevious
  | some k =>
    have hk := h.selected k hselected
    rcases hkey with rfl | rfl
    · refine ⟨min (k + 1) (v.page.snippets.length - 1), by omega, ?_, nofun, fun j hj => ?_⟩
      · exact selectNext_of_selected hselected hk
      · obtain rfl := Option.some.inj hj
        rw [if_pos rfl]
    · refine ⟨k - 1, by omega, selectPrevious_of_selected hselected, nofun, fun j hj => ?_⟩
      obtain rfl := Option.some.inj hj
      rw [if_neg nofun]

/-- Either key chooses a snippet and shows it, and a copy goes to it then.  The first press chooses the
first snippet that is not above the screen; from a chosen snippet each press goes one further in its
direction, up to the end. -/
theorem select_shows_snippet {source : String} {settings : Settings}
    (h : (Page.parse source).navigation settings.navDepth ≠ [])
    (hsnippets : (Page.parse source).snippets ≠ []) :
    ∃ v, Viewer.start (Page.parse source) settings = .ok v ∧
      ∀ (actions : List Action) (key : Action), key = .selectNext ∨ key = .selectPrevious →
        let w := v.run actions
        let count := (Page.parse source).snippets.length
        ∃ index s, Chosen w (w.act key) index s ∧
          (w.selected = none → FirstBelowTop w index) ∧
          (∀ k, w.selected = some k → k < count ∧
            index = if key = .selectNext then min (k + 1) (count - 1) else k - 1) ∧
          ∀ n,
            ((w.act key).run (List.replicate n .selectNext)).selected =
              some (min (index + n) (count - 1)) ∧
            ((w.act key).run (List.replicate n .selectPrevious)).selected = some (index - n) := by
  obtain ⟨v, hstart, htracks⟩ := exists_start_tracks h
  refine ⟨v, hstart, fun actions key hkey => ?_⟩
  intro w count
  have hpage : w.page = Page.parse source := (htracks.run actions).page
  have hrange : InRange w := (InRange.of_start hstart).run actions
  rw [← hpage] at hsnippets
  have hcount : w.page.snippets.length = count := by rw [hpage]
  obtain ⟨index, hlt, hact, hfirst, hnext⟩ := hrange.exists_select hsnippets hkey
  obtain ⟨s, hs⟩ : ∃ s, w.page.snippets[index]? = some s := ⟨_, List.getElem?_eq_getElem hlt⟩
  have hmem := List.mem_of_getElem? hs
  rw [hpage] at hmem
  have hlast : s.lastRow < w.page.height := hpage ▸ Page.lastRow_lt_height hmem
  have hchosen := hrange.chosen hs ((Page.inOrder_parse source).within s hmem) hlast
  rw [← hact] at hchosen
  have hlt' : index < (w.act key).page.snippets.length := by
    rw [page_act]
    exact hlt
  refine ⟨index, _, hchosen, hfirst, fun k hk => ⟨hcount ▸ hrange.selected k hk, ?_⟩, fun n => ⟨?_, ?_⟩⟩
  · rw [hnext k hk, hcount]
  · rw [selected_run_selectNext hchosen.selected hlt', page_act, hcount]
  · exact selected_run_selectPrevious hchosen.selected n

/-- The second block has more rows than the screen, so its first row is on top and its last row is not
on screen. -/
theorem select_shows_snippet_higher_than_screen :
    let p := Page.parse "# A\n\x60\x60\x60\nx\n\x60\x60\x60\n\n\x60\x60\x60\ny\nz\n\x60\x60\x60\n"
    p.navigation Settings.standard.navDepth ≠ [] ∧ p.snippets ≠ [] ∧
      ∃ v, Viewer.start p .standard = .ok v ∧
        let w := v.run [.resize 3, .selectNext]
        w.selected = some 0 ∧ ∃ s, Chosen w (w.act .selectNext) 1 s ∧ s.firstRow = 5 ∧ s.lastRow = 8 ∧
          (w.act .selectNext).scroll = 5 := by
  intro p
  have hnav : p.navigation Settings.standard.navDepth ≠ [] := by decide
  have hsnippets : p.snippets ≠ [] := by decide
  obtain ⟨v, hstart, hkeys⟩ := select_shows_snippet hnav hsnippets
  have hruns : ∃ w, Viewer.start p .standard = .ok w ∧ w.page.snippets[1]? = some ⟨none, "y\nz", 5, 8⟩ ∧
      (w.run [.resize 3, .selectNext]).selected = some 0 ∧
      ((w.run [.resize 3, .selectNext]).act .selectNext).scroll = 5 :=
    ⟨_, rfl, by decide, by decide, by decide⟩
  obtain ⟨w, hw, hs, hselected, hscroll⟩ := hruns
  obtain rfl : w = v := Except.ok.inj (hw.symm.trans hstart)
  obtain ⟨index, s, hchosen, -, hnext, -⟩ := hkeys [.resize 3, .selectNext] .selectNext (.inl rfl)
  obtain rfl : index = 1 := (hnext 0 hselected).2
  have hsame := hchosen.snippet
  rw [page_run, hs] at hsame
  obtain rfl := Option.some.inj hsame
  exact ⟨hnav, hsnippets, w, hstart, hselected, _, hchosen, rfl, rfl, hscroll⟩

end DocPager.Viewer
