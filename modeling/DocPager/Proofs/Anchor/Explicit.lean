import DocPager.Proofs.Anchor.Id
import DocPager.Proofs.Text.Trim

/-!
Which titles carry an explicit anchor.  Splitting at the last opening is the same as finding the one way
to write a text with an opening in it and none behind that.  So a title and an id that are written
together are read apart again, whatever braces the title has.
-/

namespace DocPager.Anchor

open Unicode (isWhiteSpace)

/-- What stands before an id. -/
def opening : List Char := ['\x7b', '#']

/-- The text is `before` with an explicit anchor behind it, and `inside` is what the anchor has between
its opening and its closing brace. -/
structure EndsInAnchor (text before inside : List Char) : Prop where
  written : text = before ++ opening ++ inside ++ ['\x7d']
  last : ¬opening <:+: inside
  nonempty : Text.trim inside ≠ []
  solid : IsSolid (Text.trim inside)

/-! ## The last opening -/

theorem splitAtLastOpening_eq_none {s : List Char} (h : ¬opening <:+: s) :
    splitAtLastOpening s = none := by
  induction s with
  | nil => rfl
  | cons c rest ih =>
    rw [List.infix_cons_iff, not_or] at h
    rw [splitAtLastOpening, ih h.2]
    refine if_neg fun hopens => h.1 ?_
    obtain ⟨rfl, hhash⟩ : c = '\x7b' ∧ rest.head? = some '#' := by simpa using hopens
    cases rest with
    | nil => cases hhash
    | cons d rest =>
      obtain rfl := Option.some.inj hhash
      exact ⟨rest, rfl⟩

theorem splitAtLastOpening_append (before : List Char) {after : List Char} (h : ¬opening <:+: after) :
    splitAtLastOpening (before ++ opening ++ after) = some (before, after) := by
  induction before with
  | nil =>
    -- The second character of an opening does not begin another one.
    have hhash : ¬opening <:+: '#' :: after := by
      rw [List.infix_cons_iff, not_or]
      exact ⟨fun hfirst => absurd (List.cons_prefix_cons.mp hfirst).1 (by decide), h⟩
    show splitAtLastOpening ('\x7b' :: '#' :: after) = _
    rw [splitAtLastOpening, splitAtLastOpening_eq_none hhash]
    rfl
  | cons c rest ih =>
    rw [List.cons_append, List.cons_append, splitAtLastOpening, ih]

theorem exists_last_opening {s : List Char} (h : opening <:+: s) :
    ∃ before after, s = before ++ opening ++ after ∧ ¬opening <:+: after := by
  induction s with
  | nil => exact absurd h (by decide)
  | cons c rest ih =>
    by_cases hrest : opening <:+: rest
    · obtain ⟨before, after, rfl, hlast⟩ := ih hrest
      exact ⟨c :: before, after, rfl, hlast⟩
    · rcases List.infix_cons_iff.mp h with ⟨after, hafter⟩ | hlater
      · refine ⟨[], after, hafter.symm, fun hlater => hrest ?_⟩
        have hhash : rest = '#' :: after := (List.cons.inj hafter).2.symm
        rw [hhash]
        exact List.infix_cons hlater
      · exact absurd hlater hrest

theorem splitAtLastOpening_eq_some_iff {s before after : List Char} :
    splitAtLastOpening s = some (before, after) ↔
      s = before ++ opening ++ after ∧ ¬opening <:+: after := by
  constructor
  · intro hsplit
    by_cases h : opening <:+: s
    · obtain ⟨before', after', rfl, hlast⟩ := exists_last_opening h
      rw [splitAtLastOpening_append before' hlast] at hsplit
      obtain ⟨rfl, rfl⟩ := Prod.mk.inj (Option.some.inj hsplit)
      exact ⟨rfl, hlast⟩
    · rw [splitAtLastOpening_eq_none h] at hsplit
      cases hsplit
  · rintro ⟨rfl, hlast⟩
    exact splitAtLastOpening_append before hlast

/-! ## Explicit anchors -/

namespace EndsInAnchor

variable {text before inside : List Char}

theorem split (h : EndsInAnchor text before inside) :
    splitAtLastOpening text.dropLast = some (before, inside) := by
  rw [h.written, List.dropLast_concat]
  exact splitAtLastOpening_append before h.last

/-- There is one way only to find the anchor of a text. -/
theorem unique {before' inside' : List Char} (h : EndsInAnchor text before inside)
    (h' : EndsInAnchor text before' inside') : before = before' ∧ inside = inside' :=
  Prod.mk.inj (Option.some.inj (h.split.symm.trans h'.split))

theorem explicit? (h : EndsInAnchor text before inside) :
    explicit? text = some (Text.trimEnd before, Text.trim inside) := by
  have hclosed : text.getLast? = some '\x7d' := by
    rw [h.written]
    exact List.getLast?_concat
  have hid : isId (Text.trim inside) = true := isId_iff.mpr ⟨h.nonempty, h.solid⟩
  rw [Anchor.explicit?, if_pos hclosed, h.split]
  exact if_pos hid

end EndsInAnchor

theorem exists_endsInAnchor {text title id : List Char} (h : explicit? text = some (title, id)) :
    ∃ before inside, EndsInAnchor text before inside := by
  unfold explicit? at h
  split at h
  · next hclosed =>
    split at h
    · next before inside hsplit =>
      split at h
      · next hid =>
        obtain ⟨hbody, hlast⟩ := splitAtLastOpening_eq_some_iff.mp hsplit
        obtain ⟨hnonempty, hsolid⟩ := isId_iff.mp hid
        refine ⟨before, inside, ?_, hlast, hnonempty, hsolid⟩
        rw [← hbody]
        exact (List.dropLast_append_getLast? _ hclosed).symm
      · cases h
    · cases h
  · cases h

theorem explicit?_eq_none {text : List Char}
    (h : ∀ before inside, ¬EndsInAnchor text before inside) : explicit? text = none := by
  cases hexplicit : explicit? text with
  | none => rfl
  | some found =>
    obtain ⟨before, inside, hanchor⟩ := exists_endsInAnchor hexplicit
    exact absurd hanchor (h before inside)

theorem endsInAnchor_of_solid (before : List Char) {id : List Char} (hne : id ≠ [])
    (hsolid : IsSolid id) (hlast : ¬opening <:+: id) :
    EndsInAnchor (before ++ opening ++ id ++ ['\x7d']) before id := by
  have htrim : Text.trim id = id := Text.trim_eq_self hsolid
  refine ⟨rfl, hlast, ?_, ?_⟩
  · rw [htrim]
    exact hne
  · rw [htrim]
    exact hsolid

/-- A title has an anchor exactly if, without the white space at its end, it is a text with an opening, an
id that may have white space around it, and a closing brace behind, where no other opening follows; and
then these parts are determined.  A title that has none stays as it is.  So an id that is written behind a
title is found again, and the title with it. -/
theorem splitTitle_splits_anchor :
    (∀ title : String, let text := Text.trimEnd title.toList
      (∀ before inside, EndsInAnchor text before inside →
        splitTitle title =
          (String.ofList (Text.trimEnd before), some (String.ofList (Text.trim inside)))) ∧
      ((∀ before inside, ¬EndsInAnchor text before inside) →
        splitTitle title = (String.ofList text, none)) ∧
      ∀ before inside before' inside', EndsInAnchor text before inside →
        EndsInAnchor text before' inside' → before = before' ∧ inside = inside') ∧
    ∀ title id : String, Text.trimEnd title.toList = title.toList → id ≠ "" → IsSolid id.toList →
      ¬opening <:+: id.toList → splitTitle (title ++ " \x7b#" ++ id ++ "\x7d") = (title, some id) := by
  refine ⟨fun title => ⟨fun before inside h => ?_, fun h => ?_, fun _ _ _ _ h h' => h.unique h'⟩, ?_⟩
  · rw [splitTitle, h.explicit?]
  · rw [splitTitle, explicit?_eq_none h]
  · intro title id htitle hne hsolid hlast
    have hchars : (title ++ " \x7b#" ++ id ++ "\x7d").toList =
        title.toList ++ [' '] ++ opening ++ id.toList ++ ['\x7d'] := by
      simp [opening]
    have hend : Text.trimEnd (title ++ " \x7b#" ++ id ++ "\x7d").toList =
        title.toList ++ [' '] ++ opening ++ id.toList ++ ['\x7d'] := by
      rw [hchars]
      exact Text.trimEnd_append_of_not_isWhiteSpace (by decide) _
    have hanchor := endsInAnchor_of_solid (title.toList ++ [' ']) (by simpa using hne) hsolid hlast
    rw [splitTitle, hend, hanchor.explicit?]
    simp only [Text.trimEnd_append (show Unicode.isWhiteSpace ' ' by decide), htitle,
      Text.trim_eq_self hsolid, String.ofList_toList]

/-- The title has an anchor of its own, and the id a closing brace. -/
theorem splitTitle_splits_anchor_braces :
    EndsInAnchor (Text.trimEnd "Sets \x7b#a\x7d \x7b# b\x7d#\x7d ".toList) "Sets \x7b#a\x7d ".toList
        " b\x7d#".toList ∧
      splitTitle "Sets \x7b#a\x7d \x7b# b\x7d#\x7d " = ("Sets \x7b#a\x7d", some "b\x7d#") ∧
      splitTitle ("Sets \x7b#a\x7d" ++ " \x7b#" ++ "b\x7d#" ++ "\x7d") =
        ("Sets \x7b#a\x7d", some "b\x7d#") := by
  obtain ⟨hsplits, hfound⟩ := splitTitle_splits_anchor
  have htrimmed := isId_iff.mp (show isId (Text.trim " b\x7d#".toList) = true by decide)
  have hid := isId_iff.mp (show isId "b\x7d#".toList = true by decide)
  have hanchor : EndsInAnchor (Text.trimEnd "Sets \x7b#a\x7d \x7b# b\x7d#\x7d ".toList)
      "Sets \x7b#a\x7d ".toList " b\x7d#".toList :=
    ⟨by decide, by decide, htrimmed.1, htrimmed.2⟩
  have hsplit := (hsplits "Sets \x7b#a\x7d \x7b# b\x7d#\x7d ").1 _ _ hanchor
  have hback := hfound "Sets \x7b#a\x7d" "b\x7d#" (by decide) (by decide) hid.2 (by decide)
  exact ⟨hanchor, hsplit, hback⟩

end DocPager.Anchor
