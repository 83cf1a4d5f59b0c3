import DocPager.Proofs.Viewer.Tracking

/-!
Where the links of the navigation lead.  A link of the navigation is followed as any other link is, by
the id of its section, and a number sign at the beginning of a link is not taken for a part of the id.
So an id that begins with a number sign of its own is not found again.
-/

namespace DocPager.Viewer

theorem linkTarget_eq_self_iff {id : String} : linkTarget id = id ↔ id.toList.head? ≠ some '#' := by
  cases hchars : id.toList with
  | nil => simp [linkTarget, hchars]
  | cons c rest =>
    by_cases hc : c = '#'
    · subst hc
      have htarget : linkTarget id = String.ofList rest := by
        simp only [linkTarget, hchars]
      rw [htarget, List.head?_cons]
      refine ⟨fun heq => ?_, fun hne => absurd rfl hne⟩
      have hlength := congrArg (·.toList.length) heq
      simp [hchars] at hlength
    · have htarget : linkTarget id = id := by
        rw [linkTarget, hchars]
        split
        · next heq => exact absurd (List.cons.inj heq).1 hc
        · rfl
      simp [htarget, hc]

/-- The link to a section leads to it unless its id begins with a number sign. -/
theorem section?_linkTarget_iff {source : String} {s : Section}
    (hs : s ∈ (Page.parse source).sections) :
    (Page.parse source).section? (linkTarget s.id) = some s ↔ s.id.toList.head? ≠ some '#' := by
  rw [← linkTarget_eq_self_iff]
  constructor
  · intro hfound
    rw [Page.section?] at hfound
    have hid := List.find?_some (p := fun t : Section => t.id == linkTarget s.id) hfound
    exact (eq_of_beq hid).symm
  · intro htarget
    rw [htarget]
    exact Page.section?_of_mem hs

theorem jumpToNav?_eq {p : Page} {v : Viewer} (hpage : v.page = p) {index : Nat} {s : Section}
    (hs : v.tracker.sections[index]? = some s) :
    v.jumpToNav? index = (p.section? (linkTarget s.id)).map fun t => v.scrollTo t.row := by
  rw [jumpToNav?, hs, Option.bind_some, jump?, hpage]

theorem Tracks.mem_navigation {p : Page} {settings : Settings} {v : Viewer} (h : Tracks p settings v)
    {index : Nat} {s : Section} (hs : v.tracker.sections[index]? = some s) :
    s ∈ p.navigation settings.navDepth := by
  rw [← h.sections]
  exact List.mem_of_getElem? hs

theorem Tracks.mem_sections {source : String} {settings : Settings} {v : Viewer}
    (h : Tracks (Page.parse source) settings v) {index : Nat} {s : Section}
    (hs : v.tracker.sections[index]? = some s) : s ∈ (Page.parse source).sections :=
  Page.mem_sections_of_mem_navigation (h.mem_navigation hs)

theorem Tracks.jumpToNav?_eq_some {source : String} {settings : Settings} {v : Viewer}
    (h : Tracks (Page.parse source) settings v) {index : Nat} {s : Section}
    (hs : v.tracker.sections[index]? = some s) (hsign : s.id.toList.head? ≠ some '#') :
    v.jumpToNav? index = some (v.scrollTo s.row) := by
  have hfound := (section?_linkTarget_iff (h.mem_sections hs)).mpr hsign
  rw [jumpToNav?_eq h.page hs, hfound, Option.map_some]

/-- At any time a place of the navigation leads to the section that has the target of the link to it,
and a place beyond the navigation leads nowhere.  The section so found is the one at that place exactly
if its id does not begin with a number sign, and then the jump puts its row on top, or as near to the
top as the end of the page lets it come. -/
theorem jumpToNav_leads_home_iff {source : String} {settings : Settings}
    (h : (Page.parse source).navigation settings.navDepth ≠ []) :
    ∃ v, Viewer.start (Page.parse source) settings = .ok v ∧
      ∀ (actions : List Action) (index : Nat), let w := v.run actions
        (w.tracker.sections.length ≤ index →
          w.jumpToNav? index = none ∧ w.act (.jumpToNav index) = w) ∧
        ∀ s, w.tracker.sections[index]? = some s →
          w.jumpToNav? index =
            ((Page.parse source).section? (linkTarget s.id)).map (fun t => w.scrollTo t.row) ∧
          ((Page.parse source).section? (linkTarget s.id) = some s ↔
            s.id.toList.head? ≠ some '#') ∧
          (s.id.toList.head? ≠ some '#' →
            w.jumpToNav? index = some (w.scrollTo s.row) ∧
              (w.scrollTo s.row).scroll = min s.row (w.scrollTo s.row).maxScroll) := by
  obtain ⟨v, hstart, htracks⟩ := exists_start_tracks h
  refine ⟨v, hstart, fun actions index => ?_⟩
  intro w
  have hw : Tracks (Page.parse source) settings w := htracks.run actions
  refine ⟨fun hbeyond => ?_, fun s hs => ?_⟩
  · have hnone : w.jumpToNav? index = none := by
      rw [jumpToNav?, List.getElem?_eq_none hbeyond, Option.bind_none]
    exact ⟨hnone, by rw [act, hnone, Option.getD_none]⟩
  · refine ⟨jumpToNav?_eq hw.page hs, section?_linkTarget_iff (hw.mem_sections hs), fun hsign => ?_⟩
    refine ⟨hw.jumpToNav?_eq_some hs hsign, ?_⟩
    rw [scroll_scrollTo, maxScroll_scrollTo]

theorem jumpToNav_leads_home_iff_two_headings :
    let p := Page.parse "# A\n\n\n## B\n"
    p.navigation Settings.standard.navDepth ≠ [] ∧
      ∃ v, Viewer.start p .standard = .ok v ∧
        v.tracker.sections[1]? = some ⟨"b", "B", 2, 1, 3⟩ ∧
        ∃ w, v.jumpToNav? 1 = some w ∧ w.scroll = 3 := by
  intro p
  have hnav : p.navigation Settings.standard.navDepth ≠ [] := by decide
  obtain ⟨v, hstart, hjumps⟩ := jumpToNav_leads_home_iff hnav
  have hv : ∃ u, Viewer.start p .standard = .ok u ∧
      u.tracker.sections[1]? = some ⟨"b", "B", 2, 1, 3⟩ ∧ (u.scrollTo 3).scroll = 3 :=
    ⟨_, rfl, by decide, by decide⟩
  obtain ⟨u, hu, hs, hscroll⟩ := hv
  obtain rfl : u = v := Except.ok.inj (hu.symm.trans hstart)
  obtain ⟨hjump, -⟩ := ((hjumps [] 1).2 _ hs).2.2 (by decide)
  exact ⟨hnav, u, hstart, hs, _, hjump, hscroll⟩

/-- The second link is to the id `b`, which no section has. -/
theorem not_jumpToNav_leads_home_signed :
    let p := Page.parse "# A\n\n\n## B \x7b##b\x7d\n"
    ∃ v, Viewer.start p .standard = .ok v ∧
      v.tracker.sections[1]? = some ⟨"#b", "B", 2, 1, 3⟩ ∧ v.maxScroll = 3 ∧
      v.jumpToNav? 1 = none ∧
      ¬∃ w, v.jumpToNav? 1 = some w ∧ w.scroll = min 3 v.maxScroll := by
  intro p
  have hv : ∃ v, Viewer.start p .standard = .ok v ∧
      v.tracker.sections[1]? = some ⟨"#b", "B", 2, 1, 3⟩ ∧ v.maxScroll = 3 ∧
      v.jumpToNav? 1 = none := ⟨_, rfl, by decide, by decide, by decide⟩
  obtain ⟨v, hstart, hs, hmax, hnone⟩ := hv
  refine ⟨v, hstart, hs, hmax, hnone, ?_⟩
  rintro ⟨w, hw, -⟩
  rw [hnone] at hw
  cases hw

end DocPager.Viewer
