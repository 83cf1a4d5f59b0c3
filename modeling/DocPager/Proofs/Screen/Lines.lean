import DocPager.Screen.Draw

/-!
The lines of a drawn screen.  Whatever is written into a line, it has as many cells as the screen is wide;
so a line beside the navigation panel is found behind the cells of the panel.  A line of text shows the
text from its start, as much of it as there is room for.  The rows of the page that are drawn stand one
below the other, from the scroll on.
-/

namespace DocPager.Screen

open Unicode (graphemes graphemes_flatten textWidth)

/-! ## The cells of a line -/

@[simp] theorem length_blankRow (width : Nat) : (blankRow width).length = width :=
  List.length_replicate

theorem length_fillRow (width room : Nat) (clusters : List (List Char × Style)) :
    (fillRow width room clusters).length = room := by
  induction clusters generalizing room with
  | nil => exact length_blankRow room
  | cons cluster rest ih =>
    obtain ⟨symbol, style⟩ := cluster
    simp only [fillRow, Bool.or_eq_true, decide_eq_true_eq]
    split
    · exact ih room
    · next hwidth =>
      split
      · exact length_blankRow room
      · rw [List.length_cons, List.length_append, length_blankRow, ih]
        omega

theorem length_textRow (width : Nat) (spans : List Span) : (textRow width spans).length = width :=
  length_fillRow width width _

theorem length_overwriteFrom (style : Style) (first : Bool) (before after : CellRow)
    (symbols : List (List Char)) :
    (overwriteFrom style first before after symbols).length = before.length + after.length := by
  fun_induction overwriteFrom style first before after symbols with
  | case1 first before after => rw [List.length_append, List.length_reverse]
  | case2 first before after symbol rest width hroom =>
    rw [List.length_append, List.length_reverse]
  | case3 first after symbol rest width hroom hzero cell before ih => exact ih
  | case4 first symbol rest width hzero cell after written hroom ih => exact ih
  | case5 => rfl
  | case6 first before symbol rest width hzero cell after written hroom ih =>
    rw [ih, List.length_append, length_blankRow, List.length_cons, List.length_drop, List.length_cons]
    rw [List.length_cons] at hroom
    omega
  | case7 first before symbol rest width hzero hroom =>
    rw [List.length_reverse, List.length_nil, Nat.add_zero]

theorem length_overwrite (row : CellRow) (s : Span) : (overwrite row s).length = row.length := by
  rw [overwrite, length_overwriteFrom, List.length_nil, Nat.zero_add]

/-! ## The text on a line -/

/-- Whether there can be room for a cluster on a line of `width` cells. -/
def hasRoom (width : Nat) (cluster : List Char × Style) : Bool :=
  textWidth cluster.1 ≠ 0 && textWidth cluster.1 ≤ width

/-- The cells of a cluster.  It stands in the first of them, and the others are blank. -/
def clusterCells (cluster : List Char × Style) : CellRow :=
  Cell.blank.write cluster.1 cluster.2 :: blankRow (textWidth cluster.1 - 1)

/-- A line of `width` cells shows the text of `spans`: the clusters that make it up from the left, each in
the style of its span, up to the first one for which there is no room, and blanks behind them.  Clusters
without a width are left out, and so are those wider than the line. -/
structure ShowsText (width : Nat) (spans : List Span) (line : CellRow) : Prop where
  length : line.length = width
  text : (spans.flatMap Span.clusters).flatMap (·.1) = spans.flatMap (·.text.toList)
  cells : ∃ shown cut blanks,
    (spans.flatMap Span.clusters).filter (hasRoom width) = shown ++ cut ∧
      line = shown.flatMap clusterCells ++ blankRow blanks ∧
      ∀ next ∈ cut.head?, blanks < textWidth next.1

/-- The text on a line, with its blanks. -/
def lineText (line : CellRow) : String := String.ofList (line.flatMap (·.symbol))

theorem hasRoom_iff {width : Nat} {symbol : List Char} {style : Style} :
    hasRoom width (symbol, style) = true ↔
      ¬(textWidth symbol = 0 || width < textWidth symbol) = true := by
  simp only [hasRoom, Bool.and_eq_true, Bool.or_eq_true, decide_eq_true_eq]
  omega

theorem exists_fillRow_eq (width room : Nat) (clusters : List (List Char × Style)) :
    ∃ shown cut blanks, clusters.filter (hasRoom width) = shown ++ cut ∧
      fillRow width room clusters = shown.flatMap clusterCells ++ blankRow blanks ∧
      ∀ next ∈ cut.head?, blanks < textWidth next.1 := by
  induction clusters generalizing room with
  | nil => exact ⟨[], [], room, rfl, rfl, nofun⟩
  | cons cluster rest ih =>
    obtain ⟨symbol, style⟩ := cluster
    by_cases hskip : (textWidth symbol = 0 || width < textWidth symbol) = true
    · have hnone : ¬hasRoom width (symbol, style) = true := fun h => hasRoom_iff.mp h hskip
      simp only [fillRow, if_pos hskip, List.filter_cons_of_neg hnone]
      exact ih room
    · have hsome : hasRoom width (symbol, style) = true := hasRoom_iff.mpr hskip
      simp only [fillRow, if_neg hskip, List.filter_cons_of_pos hsome]
      by_cases hcut : room < textWidth symbol
      · rw [if_pos hcut]
        refine ⟨[], (symbol, style) :: rest.filter (hasRoom width), room, rfl, rfl, ?_⟩
        intro next hnext
        obtain rfl := Option.some.inj hnext
        exact hcut
      · obtain ⟨shown, cut, blanks, hclusters, hline, hnext⟩ := ih (room - textWidth symbol)
        rw [if_neg hcut, hclusters, hline]
        exact ⟨(symbol, style) :: shown, cut, blanks, rfl, by simp [clusterCells], hnext⟩

theorem flatMap_clusters (s : Span) : s.clusters.flatMap (·.1) = s.text.toList := by
  rw [Span.clusters, List.flatMap_map]
  show (graphemes s.text.toList).flatMap id = s.text.toList
  rw [List.flatMap_id, graphemes_flatten]

theorem showsText_textRow (width : Nat) (spans : List Span) :
    ShowsText width spans (textRow width spans) where
  length := length_textRow width spans
  text := by
    rw [List.flatMap_assoc]
    exact congrArg (spans.flatMap ·) (funext flatMap_clusters)
  cells := exists_fillRow_eq width width _

/-! ## The lines of a block -/

namespace Block

/-- The cells of a line between its borders. -/
def content (b : Block) (width : Nat) (inside : List CellRow) (y : Nat) : CellRow :=
  ((if y < b.above then [] else (inside[y - b.above]?).getD []) ++ blankRow width).take
    (b.innerWidth width)

/-- The cell at a place of a line: the border if there is one, or else what is inside. -/
def edged (b : Block) (width height y : Nat) (place : Nat × Cell) : Cell :=
  match b.border? width height place.1 y with
  | some c => Cell.blank.write [c] b.borderStyle
  | none => place.2

/-- A line of a block before its title is written into it. -/
def bordered (b : Block) (width height : Nat) (inside : List CellRow) (y : Nat) : CellRow :=
  ((List.range width).zip
    (blankRow b.left.toNat ++ b.content width inside y ++ blankRow b.right.toNat)).map
    (b.edged width height y)

theorem row_eq (b : Block) (width height : Nat) (inside : List CellRow) (y : Nat) :
    b.row width height inside y =
      match b.title with
      | some title =>
        if y = 0 then
          (b.bordered width height inside y).take b.left.toNat ++
            overwrite (((b.bordered width height inside y).drop b.left.toNat).take
              (b.innerWidth width)) title ++
            (b.bordered width height inside y).drop (b.left.toNat + b.innerWidth width)
        else b.bordered width height inside y
      | none => b.bordered width height inside y := rfl

variable (b : Block) (width height : Nat) (inside : List CellRow) (y : Nat)

theorem length_content : (b.content width inside y).length = b.innerWidth width := by
  rw [content, List.length_take, List.length_append, length_blankRow, innerWidth]
  omega

theorem length_bordered : (b.bordered width height inside y).length = width := by
  rw [bordered, List.length_map, List.length_zip, List.length_range, List.length_append,
    List.length_append, length_content, length_blankRow, length_blankRow, innerWidth]
  omega

theorem length_row : (b.row width height inside y).length = width := by
  rw [row_eq]
  split
  · split
    · rw [List.length_append, List.length_append, length_overwrite, List.length_take,
        List.length_take, List.length_drop, List.length_drop, length_bordered]
      omega
    · exact length_bordered b width height inside y
  · exact length_bordered b width height inside y

theorem length_rows : (b.rows width height inside).length = height := by
  rw [rows, List.length_map, List.length_range]

theorem getElem?_rows {y : Nat} (hy : y < height) :
    (b.rows width height inside)[y]? = some (b.row width height inside y) := by
  rw [rows, List.getElem?_map, List.getElem?_range hy, Option.map_some]

/-- The title is on the first line. -/
theorem row_of_ne_zero {y : Nat} (hy : y ≠ 0) :
    b.row width height inside y = b.bordered width height inside y := by
  rw [row_eq]
  split
  · rw [if_neg hy]
  · rfl

variable {b width height inside y}

/-- Where nothing is inside, a line is blank. -/
theorem content_eq (hinside : ∀ line ∈ inside, line.length = b.innerWidth width)
    (hy : b.above ≤ y) :
    b.content width inside y = (inside[y - b.above]?).getD (blankRow (b.innerWidth width)) := by
  have hroom : b.innerWidth width ≤ width := by
    rw [innerWidth]
    omega
  rw [content, if_neg (Nat.not_lt.mpr hy)]
  cases hline : inside[y - b.above]? with
  | none =>
    rw [Option.getD_none, Option.getD_none, List.nil_append, blankRow, List.take_replicate,
      Nat.min_eq_left hroom, blankRow]
  | some line => exact List.take_left' (hinside line (List.mem_of_getElem? hline))

/-- A line is between the top border and the bottom border of a block, as far as it has them. -/
structure Between (b : Block) (height y : Nat) : Prop where
  top : b.top = true → y ≠ 0
  bottom : b.bottom = true → y + 1 ≠ height

theorem Between.border? (h : b.Between height y) (x : Nat) :
    b.border? width height x y =
      if b.left = true ∧ x = 0 ∨ b.right = true ∧ x + 1 = width then some '│' else none := by
  have htop : (b.top && decide (y = 0)) = false := by
    rw [Bool.and_eq_false_imp]
    exact fun hb => decide_eq_false (h.top hb)
  have hbottom : (b.bottom && decide (y + 1 = height)) = false := by
    rw [Bool.and_eq_false_imp]
    exact fun hb => decide_eq_false (h.bottom hb)
  simp only [Block.border?, htop, hbottom, Bool.and_false, Bool.false_eq_true, if_false,
    Bool.and_eq_true, decide_eq_true_eq]
  split <;> split <;> simp_all

/-- The border at either side of a block. -/
def side (b : Block) : Cell := Cell.blank.write ['│'] b.borderStyle

theorem Between.edged (h : b.Between height y) (place : Nat × Cell) :
    b.edged width height y place =
      if b.left = true ∧ place.1 = 0 ∨ b.right = true ∧ place.1 + 1 = width then b.side
      else place.2 := by
  rw [Block.edged, h.border?]
  by_cases hend : b.left = true ∧ place.1 = 0 ∨ b.right = true ∧ place.1 + 1 = width
  · rw [if_pos hend, if_pos hend]
    rfl
  · rw [if_neg hend, if_neg hend]

/-- With borders at both sides, only the first cell and the last one are borders. -/
theorem Between.bordered_sides (h : b.Between height y) (hleft : b.left = true)
    (hright : b.right = true) :
    b.bordered (width + 2) height inside y =
      b.side :: b.content (width + 2) inside y ++ [b.side] := by
  have hlength : (b.content (width + 2) inside y).length = width := by
    rw [length_content, innerWidth, hleft, hright]
    rfl
  have hplaces : List.range (width + 2) = 0 :: (List.range' 1 width ++ [width + 1]) := by
    rw [List.range_eq_range', List.range'_succ, List.range'_1_concat, Nat.zero_add, Nat.add_comm 1]
  have hinner : ((List.range' 1 width).zip (b.content (width + 2) inside y)).map
      (b.edged (width + 2) height y) = b.content (width + 2) inside y := by
    rw [List.map_congr_left (g := Prod.snd), List.map_snd_zip]
    · exact Nat.le_of_eq (hlength.trans List.length_range'.symm)
    · intro place hplace
      have hx := List.mem_range'_1.mp (List.of_mem_zip hplace).1
      rw [h.edged, if_neg (by omega)]
  have hfirst : b.edged (width + 2) height y (0, Cell.blank) = b.side := by
    rw [h.edged, if_pos (.inl ⟨hleft, rfl⟩)]
  have hlast : b.edged (width + 2) height y (width + 1, Cell.blank) = b.side := by
    rw [h.edged, if_pos (.inr ⟨hright, rfl⟩)]
  rw [bordered, hleft, hright, hplaces]
  show List.map _ (List.zip (0 :: (List.range' 1 width ++ [width + 1]))
    (Cell.blank :: (b.content (width + 2) inside y ++ [Cell.blank]))) = _
  rw [List.zip_cons_cons, List.zip_append (by rw [List.length_range', hlength]), List.map_cons,
    List.map_append, hinner, hfirst, List.cons_append]
  exact congrArg (b.side :: _ ++ [·]) hlast

/-- Without borders at the sides, what is inside has all of the line. -/
theorem Between.bordered_no_sides (h : b.Between height y) (hleft : b.left = false)
    (hright : b.right = false) :
    b.bordered width height inside y = b.content width inside y := by
  have hlength : (b.content width inside y).length = width := by
    rw [length_content, innerWidth, hleft, hright]
    rfl
  rw [bordered, hleft, hright]
  show List.map _ (List.zip _ ([] ++ b.content width inside y ++ [])) = _
  rw [List.nil_append, List.append_nil, List.map_congr_left (g := Prod.snd), List.map_snd_zip]
  · exact Nat.le_of_eq (hlength.trans List.length_range.symm)
  · intro place _
    rw [h.edged, hleft, hright, if_neg (by simp)]

end Block

/-! ## The rows of the page -/

namespace Frame

variable {rows : List String} {scroll height : Nat}

theorem map_snd_rows :
    (((rows.drop scroll).take height).zipIdx scroll).map Prod.snd =
      List.range' scroll (min height (rows.length - scroll)) := by
  rw [List.zipIdx_map_snd, List.length_take, List.length_drop]

/-- A row on screen is a row of the page. -/
theorem getElem?_of_mem_rows {row : Nat} {text : String}
    (h : (text, row) ∈ ((rows.drop scroll).take height).zipIdx scroll) : rows[row]? = some text := by
  obtain ⟨hrow, htext⟩ := List.mk_mem_zipIdx_iff_le_and_getElem?_sub.mp h
  rw [List.getElem?_take] at htext
  split at htext
  · rwa [List.getElem?_drop, Nat.add_sub_cancel' hrow] at htext
  · cases htext

end Frame
end DocPager.Screen
