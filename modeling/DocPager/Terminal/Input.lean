import DocPager.Viewer.Event

/-!
The characters that a terminal sends, and the events they stand for.  A key without a character of
its own, or a turn of the mouse wheel, comes as a sequence that starts with the escape character.
An escape character that nothing follows at once is the escape key.
-/

namespace DocPager.Terminal

/-- The part of a sequence that has come in. -/
inductive Pending where
  | nothing
  | escape
  /-- A sequence of one letter, behind the escape character and the letter `O`. -/
  | letter
  /-- A sequence behind the escape character and a bracket, newest character first. -/
  | bracket (seen : List Char)
  deriving DecidableEq, Repr

def plainKey (key : Key) : Event := .key (.plain key)

/-- The key that a character stands for outside of sequences.  Control characters are letters and
digits with the control key, apart from those with a key of their own. -/
def strokeOf? (c : Char) : Option KeyStroke :=
  let control := fun (base : Char) (offset : Nat) =>
    some { KeyStroke.plain (.char (Char.ofNat (base.toNat + offset))) with control := true }
  if c = '\x0d' then some (.plain .enter)
  else if c = '\t' then some (.plain .tab)
  else if c = '\x7f' then none
  else if c = '\x00' then control ' ' 0
  else if c < '\x1b' then control 'a' (c.toNat - 1)
  else if c < ' ' then control '4' (c.toNat - 28)
  else some (.plain (.char c))

def letterKey? (c : Char) : Option Key :=
  match c with
  | 'A' => some .up
  | 'B' => some .down
  | 'C' => some .right
  | 'D' => some .left
  | 'H' => some .home
  | 'F' => some .endOfPage
  | 'P' => some (.function 1)
  | 'Q' => some (.function 2)
  | 'R' => some (.function 3)
  | 'S' => some (.function 4)
  | _ => none

def numberedKey? (n : Nat) : Option Key :=
  match n with
  | 1 | 7 => some .home
  | 4 | 8 => some .endOfPage
  | 5 => some .pageUp
  | 6 => some .pageDown
  | _ => none

/-- What the mouse does, by the number of the button.  Each of the numbers stands for a button or a
direction of the wheel, with a part for keys held meanwhile and one for moves. -/
def mouseAction? (button : Nat) : Option MouseAction :=
  if button / 32 % 2 = 1 then some .move
  else
    match 4 * (button / 64) + button % 4 with
    | 0 | 1 | 2 | 3 => some .button
    | 4 => some .wheelUp
    | 5 => some .wheelDown
    | 6 => some .wheelLeft
    | _ => none

def numberOf (s : List Char) : Nat :=
  (s.takeWhile Char.isDigit).foldl (fun n c => 10 * n + (c.toNat - '0'.toNat)) 0

/-- What has come of a character: either the sequence goes on, or it is over and may be an event. -/
abbrev Step := Pending × Option Event

def ended (event : Option Event) : Step := (.nothing, event)

def openBracket (c : Char) : Step :=
  if c.isDigit || "<[M?".contains c then (.bracket [c], none)
  else
    match c with
    | 'Z' => ended (some (plainKey .backTab))
    | 'I' | 'O' => ended (some .focus)
    | _ => ended ((letterKey? c).map plainKey)

/-- A later character behind the bracket.  The first one, `kind`, tells where the sequence ends. -/
def closeBracket (kind : Char) (seen : List Char) (c : Char) : Step :=
  match kind with
  | '[' =>
    ended (if 'A' ≤ c && c ≤ 'E' then some (plainKey (.function (c.toNat - '@'.toNat))) else none)
  | '<' =>
    if c = 'M' || c = 'm' then
      ended ((mouseAction? (numberOf (seen.reverse.drop 1))).map .mouse)
    else (.bracket (c :: seen), none)
  | 'M' =>
    match seen with
    | [_, button, _] => ended ((mouseAction? (button.toNat - 32)).map .mouse)
    | _ => (.bracket (c :: seen), none)
  | '?' => if c = 'u' || c = 'c' then ended none else (.bracket (c :: seen), none)
  | _ =>
    if c < '@' || '~' < c then (.bracket (c :: seen), none)
    else
      match c with
      | '~' => ended ((numberedKey? (numberOf seen.reverse)).map plainKey)
      | 'M' => ended ((mouseAction? (numberOf seen.reverse - 32)).map .mouse)
      | _ => ended ((letterKey? c).map plainKey)

/-- Takes one character.  `isLast` says that no other came in with it. -/
def step (p : Pending) (c : Char) (isLast : Bool) : Step :=
  match p with
  | .nothing =>
    if c = '\x1b' then
      if isLast then ended (some (plainKey .escape)) else (.escape, none)
    else ended ((strokeOf? c).map .key)
  | .escape =>
    if c = '\x1b' then ended (some (plainKey .escape))
    else if c = '[' then (.bracket [], none)
    else if c = 'O' then (.letter, none)
    else ended ((strokeOf? c).map fun s => .key { s with alt := true })
  | .letter => ended ((letterKey? c).map plainKey)
  | .bracket seen =>
    match seen.getLast? with
    | none => openBracket c
    | some kind => closeBracket kind seen c

/-- The events in characters that come in together, and what is pending behind them. -/
def events (p : Pending) : List Char → Pending × List Event
  | [] => (p, [])
  | c :: rest =>
    let (p, event) := step p c rest.isEmpty
    let (p, later) := events p rest
    (p, event.toList ++ later)

end DocPager.Terminal
