import DocPager.Proofs.Machine.Viewer
import DocPager.Proofs.Viewer.Sound
import Mathlib.Algebra.Order.Floor.Div
import Mathlib.Logic.Function.Iterate

/-!
Reading a page screen by screen.  A move goes as many rows as are on screen, and the end of the page cuts
the last one short.  No row is passed over: between the first view and the last each of them is on screen
after one of the moves.
-/

namespace DocPager.Viewer

/-! ## The same action over and over -/

theorem run_replicate_succ (v : Viewer) (a : Action) (k : Nat) :
    v.run (List.replicate (k + 1) a) = (v.run (List.replicate k a)).act a := by
  rw [List.replicate_succ', run_append, run_singleton]

/-- An action that has come to change nothing changes nothing from then on. -/
theorem run_replicate_of_le {v : Viewer} {a : Action} {n k : Nat}
    (hrest : (v.run (List.replicate n a)).act a = v.run (List.replicate n a)) (hk : n ≤ k) :
    v.run (List.replicate k a) = v.run (List.replicate n a) := by
  induction k, hk using Nat.le_induction with
  | base => rfl
  | succ k _ ih => rw [run_replicate_succ, ih, hrest]

theorem iterate_eq_run {f : Viewer → Viewer} {a : Action} {p : Page}
    (h : ∀ v : Viewer, v.page = p → f v = v.act a) {v : Viewer} (hpage : v.page = p) (k : Nat) :
    f^[k] v = v.run (List.replicate k a) := by
  induction k with
  | zero => rfl
  | succ k ih =>
    rw [Function.iterate_succ_apply', ih, run_replicate_succ]
    exact h _ ((page_run v _).trans hpage)

/-- The row is one of those that fit on the screen. -/
def OnScreen (v : Viewer) (row : Nat) : Prop := v.scroll ≤ row ∧ row < v.scroll + v.height

/-- The action `a` over and over scrolls the viewer `n` times, comes to a scroll of `last` with that and
changes nothing from then on.  The rows from `top` on and above `bottom` are on screen at the start or
after one of the `n` times. -/
structure LeafsThrough (v : Viewer) (a : Action) (n last top bottom : Nat) : Prop where
  moves : ∀ k < n, (v.run (List.replicate (k + 1) a)).scroll ≠ (v.run (List.replicate k a)).scroll
  stays : ∀ k, n ≤ k → v.run (List.replicate k a) = v.run (List.replicate n a)
  last : (v.run (List.replicate n a)).scroll = last
  shown : ∀ row, top ≤ row → row < bottom → ∃ k ≤ n, (v.run (List.replicate k a)).OnScreen row

theorem scrollTo_of_min_eq {v : Viewer} {row : Nat} (h : min row v.maxScroll = v.scroll) :
    v.scrollTo row = v := by
  simp only [scrollTo, if_pos h]

/-! ## How many screens some rows take -/

theorem le_ceilDiv_mul {height : Nat} (h : 0 < height) (rows : Nat) :
    rows ≤ rows ⌈/⌉ height * height := by
  rw [Nat.mul_comm]
  exact le_smul_ceilDiv h

theorem ceilDiv_mul_lt {height : Nat} (h : 0 < height) (rows : Nat) :
    rows ⌈/⌉ height * height < rows + height := by
  have hle := Nat.div_mul_le_self (rows + height - 1) height
  rw [Nat.ceilDiv_eq_add_pred_div]
  omega

theorem mul_lt_of_lt_ceilDiv {rows height k : Nat} (h : 0 < height) (hk : k < rows ⌈/⌉ height) :
    k * height < rows := by
  rw [← not_le, ceilDiv_le_iff_le_mul h, not_le] at hk
  rw [Nat.mul_comm]
  exact hk

/-! ## Moving by a screen -/

section

variable {a : Action} (h : ∀ v : Viewer, Scrolls v (v.act a)) (v : Viewer) (k : Nat)
include h

theorem height_run_replicate : (v.run (List.replicate k a)).height = v.height := by
  induction k with
  | zero => rfl
  | succ k ih => rw [run_replicate_succ, (h _).height, ih]

theorem maxScroll_run_replicate : (v.run (List.replicate k a)).maxScroll = v.maxScroll := by
  rw [maxScroll, page_run, height_run_replicate h, maxScroll]

end

theorem scrolls_pageDown (v : Viewer) : Scrolls v (v.act .pageDown) := scrolls_scrollTo v _

theorem scrolls_pageUp (v : Viewer) : Scrolls v (v.act .pageUp) := scrolls_scrollTo v _

theorem scroll_run_pageDown {v : Viewer} (hscroll : v.scroll ≤ v.maxScroll) (k : Nat) :
    (v.run (List.replicate k .pageDown)).scroll = min (v.scroll + k * v.height) v.maxScroll := by
  induction k with
  | zero => rw [List.replicate_zero, run_nil, Nat.zero_mul, Nat.add_zero, Nat.min_eq_left hscroll]
  | succ k ih =>
    rw [run_replicate_succ, act, pageDown, scroll_scrollTo, ih,
      height_run_replicate scrolls_pageDown, maxScroll_run_replicate scrolls_pageDown, Nat.succ_mul]
    omega

theorem scroll_run_pageUp {v : Viewer} (hscroll : v.scroll ≤ v.maxScroll) (k : Nat) :
    (v.run (List.replicate k .pageUp)).scroll = v.scroll - k * v.height := by
  induction k with
  | zero => rw [List.replicate_zero, run_nil, Nat.zero_mul, Nat.sub_zero]
  | succ k ih =>
    rw [run_replicate_succ, act, pageUp, scroll_scrollTo, ih, height_run_replicate scrolls_pageUp,
      maxScroll_run_replicate scrolls_pageUp, Nat.succ_mul]
    omega

theorem InRange.leafsThrough_pageDown {v : Viewer} (h : InRange v) :
    LeafsThrough v .pageDown ((v.maxScroll - v.scroll) ⌈/⌉ v.height) v.maxScroll v.scroll
      v.page.height := by
  have hscroll := h.scroll
  have hat := scroll_run_pageDown hscroll
  have hfar := le_ceilDiv_mul h.height (v.maxScroll - v.scroll)
  have hlast : (v.run (List.replicate ((v.maxScroll - v.scroll) ⌈/⌉ v.height) .pageDown)).scroll =
      v.maxScroll := by
    rw [hat]
    omega
  refine ⟨fun k hk => ?_, fun k hk => run_replicate_of_le (scrollTo_of_min_eq ?_) hk, hlast, ?_⟩
  · have hnear := mul_lt_of_lt_ceilDiv h.height hk
    have hone := h.height
    rw [hat, hat, Nat.succ_mul]
    omega
  · rw [hlast, maxScroll_run_replicate scrolls_pageDown]
    omega
  · intro row htop hbottom
    have hend : v.page.height ≤ v.maxScroll + v.height := by
      rw [maxScroll]
      omega
    by_cases hrow : row < v.maxScroll
    · -- The row is on the screen that as many moves lead to as whole screens are above it.
      have hbelow := Nat.div_mul_le_self (row - v.scroll) v.height
      have habove := Nat.lt_mul_div_succ (row - v.scroll) h.height
      rw [Nat.mul_add_one, Nat.mul_comm] at habove
      rw [Nat.mul_comm] at hfar
      have hmoves : (row - v.scroll) / v.height ≤ (v.maxScroll - v.scroll) ⌈/⌉ v.height :=
        Nat.le_of_lt (Nat.div_lt_of_lt_mul (by omega))
      refine ⟨_, hmoves, ?_, ?_⟩
      · rw [hat]
        omega
      · rw [hat, height_run_replicate scrolls_pageDown]
        omega
    · refine ⟨_, Nat.le_refl _, ?_, ?_⟩
      · omega
      · rw [height_run_replicate scrolls_pageDown]
        omega

theorem InRange.leafsThrough_pageUp {v : Viewer} (h : InRange v) :
    LeafsThrough v .pageUp (v.scroll ⌈/⌉ v.height) 0 0 (v.scroll + v.height) := by
  have hat := scroll_run_pageUp h.scroll
  have hfar := le_ceilDiv_mul h.height v.scroll
  have hlast : (v.run (List.replicate (v.scroll ⌈/⌉ v.height) .pageUp)).scroll = 0 := by
    rw [hat]
    omega
  refine ⟨fun k hk => ?_, fun k hk => run_replicate_of_le (scrollTo_of_min_eq ?_) hk, hlast, ?_⟩
  · have hnear := mul_lt_of_lt_ceilDiv h.height hk
    have hone := h.height
    rw [hat, hat, Nat.succ_mul]
    omega
  · rw [hlast]
    omega
  · intro row _ hbottom
    by_cases hrow : row < v.scroll
    · -- The row is on the screen that as many moves lead to as screens are needed to reach up to it.
      have hbelow := le_ceilDiv_mul h.height (v.scroll - row)
      have habove := ceilDiv_mul_lt h.height (v.scroll - row)
      have hmoves : (v.scroll - row) ⌈/⌉ v.height ≤ v.scroll ⌈/⌉ v.height := by
        rw [ceilDiv_le_iff_le_mul h.height, Nat.mul_comm]
        omega
      refine ⟨_, hmoves, ?_, ?_⟩
      · rw [hat]
        omega
      · rw [hat, height_run_replicate scrolls_pageUp]
        omega
    · exact ⟨0, Nat.zero_le _, Nat.le_of_not_lt hrow, hbottom⟩

/-! ## On a machine -/

section

variable {v : Viewer} (hpage : v.page.height < 2 ^ 63) (k : Nat)
include hpage

/-- No sum is cut down to a word, since the end of the page comes first. -/
theorem iterate_pageDown_eq : Machine.pageDown^[k] v = v.run (List.replicate k .pageDown) :=
  iterate_eq_run (fun _ hw => Machine.scrollTo_saturate (hw ▸ hpage) _) rfl k

theorem iterate_pageUp_eq : Machine.pageUp^[k] v = v.run (List.replicate k .pageUp) :=
  iterate_eq_run (fun _ hw => Machine.scrollTo_eq (hw ▸ hpage) _) rfl k

end

/-- From any view some moves down come to the end of the page and as many as that up to its start, each
of them by a screen as far as the page goes, and every row on the way is on screen at some time.  Sums
that stay at the largest word come to the same. -/
theorem paging_skips_nothing {source : String} {settings : Settings}
    (h : (Page.parse source).navigation settings.navDepth ≠ []) :
    ∃ v, Viewer.start (Page.parse source) settings = .ok v ∧
      ∀ actions : List Action, let w := v.run actions
        (∀ k, (w.run (List.replicate k .pageDown)).scroll =
          min (w.scroll + k * w.height) w.maxScroll) ∧
        LeafsThrough w .pageDown ((w.maxScroll - w.scroll) ⌈/⌉ w.height) w.maxScroll w.scroll
          (Page.parse source).height ∧
        (∀ k, (w.run (List.replicate k .pageUp)).scroll = w.scroll - k * w.height) ∧
        LeafsThrough w .pageUp (w.scroll ⌈/⌉ w.height) 0 0 (w.scroll + w.height) ∧
        ((Page.parse source).height < 2 ^ 63 → ∀ k,
          Machine.pageDown^[k] w = w.run (List.replicate k .pageDown) ∧
          Machine.pageUp^[k] w = w.run (List.replicate k .pageUp)) := by
  obtain ⟨v, hstart, htracks⟩ := exists_start_tracks h
  refine ⟨v, hstart, fun actions => ?_⟩
  intro w
  have hrange : InRange w := (InRange.of_start hstart).run actions
  have hpage : w.page = Page.parse source := (htracks.run actions).page
  refine ⟨scroll_run_pageDown hrange.scroll, ?_, scroll_run_pageUp hrange.scroll,
    hrange.leafsThrough_pageUp, fun hheight k => ?_⟩
  · rw [← hpage]
    exact hrange.leafsThrough_pageDown
  · rw [← hpage] at hheight
    exact ⟨iterate_pageDown_eq hheight k, iterate_pageUp_eq hheight k⟩

/-- Three rows fit on screen, and the second move down is one of two rows only. -/
theorem paging_skips_nothing_nine_rows :
    let p := Page.parse "# A\n\nb\nc\nd\ne\nf\ng\nh\n"
    p.navigation Settings.standard.navDepth ≠ [] ∧ p.height < 2 ^ 63 ∧
      ∃ v, Viewer.start p .standard = .ok v ∧ let w := v.run [.resize 3, .scrollTo 1]
        (w.run (List.replicate 1 .pageDown)).scroll = 4 ∧
        (w.run (List.replicate 2 .pageDown)).scroll = 6 ∧ LeafsThrough w .pageDown 2 6 1 9 ∧
        LeafsThrough w .pageUp 1 0 0 4 ∧
        Machine.pageDown^[2] w = w.run (List.replicate 2 .pageDown) := by
  intro p
  have hnav : p.navigation Settings.standard.navDepth ≠ [] := by decide
  have hheight : p.height < 2 ^ 63 := by decide
  obtain ⟨v, hstart, hpaging⟩ := paging_skips_nothing hnav
  have hview : ∃ u, Viewer.start p .standard = .ok u ∧ let w := u.run [.resize 3, .scrollTo 1]
      w.scroll = 1 ∧ w.height = 3 ∧ w.maxScroll = 6 := ⟨_, rfl, by decide, by decide, by decide⟩
  obtain ⟨u, hu, hscroll, hrows, hmax⟩ := hview
  obtain rfl : u = v := Except.ok.inj (hu.symm.trans hstart)
  obtain ⟨hdown, hleafs, -, hup, hmachine⟩ := hpaging [.resize 3, .scrollTo 1]
  rw [hscroll, hrows, hmax] at hdown hleafs
  rw [hscroll, hrows] at hup
  exact ⟨hnav, hheight, u, hstart, hdown 1, hdown 2, hleafs, hup, (hmachine hheight 2).1⟩

end DocPager.Viewer
