import DocPager.Unicode.Grapheme.Classes

/-!
Cutting a text into grapheme clusters, the characters as a reader sees them, by the extended rules
of Unicode text segmentation.  Main statement: the clusters put together are the text.
-/

namespace DocPager.Unicode

namespace Grapheme

/-- Marks and joiners, which never start a cluster after a visible character. -/
def Class.attaches : Class → Bool
  | .extend | .linker | .nonJoiner | .joiner => true
  | _ => false

def Class.breaks : Class → Bool
  | .carriageReturn | .lineFeed | .control => true
  | _ => false

/-- What the boundary rules remember of the cluster read so far. -/
structure Memory where
  last : Class
  /-- An odd number of regional indicators ends here, so one more completes a flag. -/
  halfFlag : Bool
  /-- A pictograph followed only by marks ends here. -/
  picture : Bool
  /-- A joiner ends here, after such a pictograph. -/
  joined : Bool
  /-- A consonant followed only by marks and joiners ends here. -/
  conjunct : Bool
  /-- One of those marks is a linker. -/
  linked : Bool

namespace Memory

def start (c : Class) : Memory where
  last := c
  halfFlag := c == .regional
  picture := c == .pictograph
  joined := false
  conjunct := c == .consonant
  linked := false

def next (m : Memory) (c : Class) : Memory where
  last := c
  halfFlag := c == .regional && !m.halfFlag
  picture := c == .pictograph || (m.picture && c.attaches && c != .joiner)
  joined := m.picture && c == .joiner
  conjunct := c == .consonant || (m.conjunct && c.attaches && c != .nonJoiner)
  linked := c != .consonant && m.conjunct && (m.linked || c == .linker)

/-- Whether Hangul letters and syllables of these classes form one syllable. -/
def sameSyllable : Class → Class → Bool
  | .leadingJamo, .leadingJamo | .leadingJamo, .vowelJamo => true
  | .leadingJamo, .openSyllable | .leadingJamo, .closedSyllable => true
  | .openSyllable, .vowelJamo | .openSyllable, .trailingJamo => true
  | .vowelJamo, .vowelJamo | .vowelJamo, .trailingJamo => true
  | .closedSyllable, .trailingJamo | .trailingJamo, .trailingJamo => true
  | _, _ => false

/-- Whether a character of class `c` belongs to the cluster read so far. -/
def joins (m : Memory) (c : Class) : Bool :=
  if m.last == .carriageReturn && c == .lineFeed then true
  else if m.last.breaks || c.breaks then false
  else
    sameSyllable m.last c || c.attaches || c == .spacingMark || m.last == .prepend ||
      (m.linked && c == .consonant) || (m.joined && c == .pictograph) ||
      (m.halfFlag && c == .regional)

end Memory

/-- Cuts the rest of a text, given the cluster under way, newest character first. -/
def cut (m : Memory) (cluster : List Char) : List Char → List (List Char)
  | [] => [cluster.reverse]
  | c :: rest =>
    let k := classOf c
    if m.joins k then cut (m.next k) (c :: cluster) rest
    else cluster.reverse :: cut (.start k) [c] rest

theorem cut_flatten (m : Memory) (cluster text : List Char) :
    (cut m cluster text).flatten = cluster.reverse ++ text := by
  induction text generalizing m cluster with
  | nil => simp [cut]
  | cons c rest ih =>
    simp only [cut]
    split
    · simp [ih]
    · simp [ih]

end Grapheme

def graphemes : List Char → List (List Char)
  | [] => []
  | c :: rest => Grapheme.cut (.start (Grapheme.classOf c)) [c] rest

theorem graphemes_flatten (text : List Char) : (graphemes text).flatten = text := by
  cases text with
  | nil => rfl
  | cons c rest => simp [graphemes, Grapheme.cut_flatten]

end DocPager.Unicode
