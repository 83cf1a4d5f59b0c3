import DocPager.Proofs.Viewer.Alike
import DocPager.Screen.Draw
import DocPager.Viewer.Event

/-!
What comes to an open viewer from outside: events, and the frames that are due between them.  All of
it comes to actions, one at most for each input, so what holds along runs of actions holds here too.
Viewers that are alike take the same action at the same event.
-/

namespace DocPager

namespace Event

/-- Whether an event starts from the active section. -/
def goesByActive : Event → Bool
  | .key stroke => stroke.phase = .press && (stroke.key = .tab || stroke.key = .backTab)
  | _ => false

end Event

namespace Viewer

inductive Input where
  | event (event : Event) (clipboard : Clipboard) (now : Nat)
  /-- A frame is drawn on a screen of some height. -/
  | draw (screenHeight : Nat)
  | flush
  | tick (now : Nat)
  deriving DecidableEq, Repr

/-- The viewer after an input.  An event that closes it does not change it. -/
def take (v : Viewer) : Input → Viewer
  | .event event clipboard now => (v.handle event clipboard now).getD v
  | .draw screenHeight => v.fit screenHeight
  | .flush => v.flush
  | .tick now => v.tick now

def takeAll (v : Viewer) (inputs : List Input) : Viewer := inputs.foldl take v

theorem takeAll_cons (v : Viewer) (input : Input) (rest : List Input) :
    v.takeAll (input :: rest) = (v.take input).takeAll rest := rfl

/-! ## Events as actions -/

/-- The same action makes `v'` of `v` and `w'` of `w`, or nothing is done to either.  It is no flush,
and it starts from the active section only if `active` says so. -/
def SameAct (active : Bool) (v w v' w' : Viewer) : Prop :=
  v' = v ∧ w' = w ∨
    ∃ a : Action, a ≠ .flush ∧ (a.goesByActive = true → active = true) ∧
      v' = v.act a ∧ w' = w.act a

section

variable {v w : Viewer}

theorem sameAct_act {active : Bool} (a : Action) (hflush : a ≠ .flush)
    (hactive : a.goesByActive = true → active = true) :
    Option.Rel (SameAct active v w) (some (v.act a)) (some (w.act a)) :=
  .some (.inr ⟨a, hflush, hactive, rfl, rfl⟩)

theorem sameAct_nothing {active : Bool} : Option.Rel (SameAct active v w) (some v) (some w) :=
  .some (.inl ⟨rfl, rfl⟩)

theorem sameAct_digit {active : Bool} (c : Char) :
    Option.Rel (SameAct active v w) (some (((digitIndex? c).bind v.jumpToNav?).getD v))
      (some (((digitIndex? c).bind w.jumpToNav?).getD w)) := by
  cases digitIndex? c with
  | none => exact sameAct_nothing
  | some index => exact sameAct_act (.jumpToNav index) nofun nofun

theorem sameAct_press (h : Alike v w) {stroke : KeyStroke} (hpress : stroke.phase = .press)
    (clipboard : Clipboard) (now : Nat) :
    Option.Rel (SameAct (Event.key stroke).goesByActive v w) (v.press stroke clipboard now)
      (w.press stroke clipboard now) := by
  unfold press
  rw [h.navOpen, h.maxScroll]
  split
  · exact .none
  split
  · split
    · exact sameAct_act .toggleNav nofun nofun
    · exact .none
  · exact .none
  · exact sameAct_act (.scrollBy 1) nofun nofun
  · exact sameAct_act (.scrollBy 1) nofun nofun
  · exact sameAct_act (.scrollBy (-1)) nofun nofun
  · exact sameAct_act (.scrollBy (-1)) nofun nofun
  · exact sameAct_act .pageDown nofun nofun
  · exact sameAct_act .pageDown nofun nofun
  · exact sameAct_act .pageUp nofun nofun
  · exact sameAct_act (.scrollTo 0) nofun nofun
  · exact sameAct_act (.scrollTo 0) nofun nofun
  · exact sameAct_act (.scrollTo v.maxScroll) nofun nofun
  · exact sameAct_act (.scrollTo v.maxScroll) nofun nofun
  · next hkey =>
    exact sameAct_act .nextNav nofun fun _ => by simp [Event.goesByActive, hpress, hkey]
  · next hkey =>
    exact sameAct_act .prevNav nofun fun _ => by simp [Event.goesByActive, hpress, hkey]
  · exact sameAct_act .selectNext nofun nofun
  · exact sameAct_act .selectPrevious nofun nofun
  · exact sameAct_act (.copy clipboard now) nofun nofun
  · exact sameAct_act (.copy clipboard now) nofun nofun
  · exact sameAct_act .toggleNav nofun nofun
  · exact sameAct_digit _
  · exact sameAct_nothing

/-- An event closes both viewers or neither. -/
theorem sameAct_handle (h : Alike v w) (event : Event) (clipboard : Clipboard) (now : Nat) :
    Option.Rel (SameAct event.goesByActive v w) (v.handle event clipboard now)
      (w.handle event clipboard now) := by
  unfold handle
  split
  · split
    · next hpress => exact sameAct_press h hpress clipboard now
    · exact sameAct_nothing
  · exact sameAct_act (.scrollBy wheelStep) nofun nofun
  · exact sameAct_act (.scrollBy (-wheelStep)) nofun nofun
  · exact sameAct_nothing

/-- No event evaluates a scroll. -/
theorem act_of_handle {event : Event} {clipboard : Clipboard} {now : Nat}
    (h : v.handle event clipboard now = some w) : w = v ∨ ∃ a, a ≠ .flush ∧ w = v.act a := by
  have hsame := sameAct_handle (Alike.refl v) event clipboard now
  rw [h] at hsame
  cases hsame with
  | some hsame =>
    rcases hsame with ⟨hw, -⟩ | ⟨a, hflush, -, hw, -⟩
    · exact .inl hw
    · exact .inr ⟨a, hflush, hw⟩

end

/-! ## Inputs as actions -/

/-- One action at most comes of an input. -/
theorem exists_run_take (v : Viewer) (input : Input) : ∃ actions, v.take input = v.run actions := by
  cases input with
  | event event clipboard now =>
    rw [take]
    cases hw : v.handle event clipboard now with
    | none => exact ⟨[], rfl⟩
    | some w =>
      rcases act_of_handle hw with hsame | ⟨a, -, hact⟩
      · exact ⟨[], hsame⟩
      · exact ⟨[a], hact⟩
  | draw screenHeight => exact ⟨[.resize _], rfl⟩
  | flush => exact ⟨[.flush], rfl⟩
  | tick now => exact ⟨[.tick now], rfl⟩

theorem exists_run_takeAll (v : Viewer) (inputs : List Input) :
    ∃ actions, v.takeAll inputs = v.run actions := by
  induction inputs generalizing v with
  | nil => exact ⟨[], rfl⟩
  | cons input rest ih =>
    obtain ⟨first, hfirst⟩ := exists_run_take v input
    obtain ⟨later, hlater⟩ := ih (v.take input)
    exact ⟨first ++ later, by rw [takeAll_cons, hlater, run_append, hfirst]⟩

end Viewer
end DocPager
