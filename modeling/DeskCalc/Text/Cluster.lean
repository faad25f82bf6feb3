import DeskCalc.Text.Blank
import DeskCalc.Text.BreakTable

/-!
# Clusters: what a reader takes for one character

A text falls into clusters by one scan from left to right. Whether a character joins the one before
it depends on the two kinds and on three facts about the text so far, kept in a `Trail`. So the
clusters of an initial part of a text never depend on what follows. This file fixes

* `Kind`: the parts a character can play;
* `Trail.joins`: the joining rules;
* `clusters`: the cut, and `dropLast`: the text without its last cluster.

Conjuncts of Indic scripts are not joined across a virama.
-/

namespace DeskCalc.Text

/-- The part that a character plays in joining. -/
inductive Kind where
  | carriageReturn
  | lineFeed
  | control
  | extend
  | joiner
  | spacingMark
  | leadingMark
  | regionalIndicator
  | leadingConsonant
  | vowel
  | trailingConsonant
  | openSyllable
  | closedSyllable
  | pictograph
  | other
  deriving DecidableEq, Repr

namespace Kind

/-- The kind of a Hangul syllable: 28 syllables share a beginning, the first of them is open. -/
def ofSyllable (offset : Nat) : Kind :=
  if offset % 28 = 0 then openSyllable else closedSyllable

/-- The kind of a character. -/
def of (c : Char) : Kind :=
  if c = '\r' then carriageReturn
  else if c = '\n' then lineFeed
  else if c = '\u200D' then joiner
  else if inRanges BreakTable.control c then control
  else if inRanges BreakTable.extend c then extend
  else if inRanges BreakTable.spacingMark c then spacingMark
  else if inRanges BreakTable.leadingMark c then leadingMark
  else if inRanges BreakTable.regionalIndicator c then regionalIndicator
  else if inRanges BreakTable.leadingConsonant c then leadingConsonant
  else if inRanges BreakTable.vowel c then vowel
  else if inRanges BreakTable.trailingConsonant c then trailingConsonant
  else if 0xAC00 ≤ c.toNat ∧ c.toNat ≤ 0xD7A3 then ofSyllable (c.toNat - 0xAC00)
  else if inRanges BreakTable.pictograph c then pictograph
  else other

/-- Line ends and controls stand alone. -/
def standsAlone : Kind → Bool
  | carriageReturn | lineFeed | control => true
  | _ => false

/-- Marks that join whatever is before them. -/
def joinsBefore : Kind → Bool
  | extend | joiner | spacingMark => true
  | _ => false

/-- The parts of a Hangul syllable in the order in which they may follow one another. -/
def hangulPair : Kind → Kind → Bool
  | leadingConsonant, leadingConsonant => true
  | leadingConsonant, vowel => true
  | leadingConsonant, openSyllable => true
  | leadingConsonant, closedSyllable => true
  | openSyllable, vowel => true
  | openSyllable, trailingConsonant => true
  | vowel, vowel => true
  | vowel, trailingConsonant => true
  | closedSyllable, trailingConsonant => true
  | trailingConsonant, trailingConsonant => true
  | _, _ => false

end Kind

/-- What the joining rules ask about the text so far. -/
structure Trail where
  /-- The kind of the last character. -/
  last : Kind
  /-- The text ends in a pictograph with marks behind it. -/
  afterPictograph : Bool
  /-- The text ends in a pictograph, marks and a joiner. -/
  afterJoinedPictograph : Bool
  /-- The text ends in an odd number of regional indicators. -/
  halfFlag : Bool
  deriving DecidableEq, Repr

namespace Trail

/-- The trail of a text of one character. -/
def start (k : Kind) : Trail := ⟨k, k == .pictograph, false, k == .regionalIndicator⟩

/-- The trail with one character more. -/
def push (t : Trail) (k : Kind) : Trail where
  last := k
  afterPictograph := k == .pictograph || (t.afterPictograph && k == .extend)
  afterJoinedPictograph := t.afterPictograph && k == .joiner
  halfFlag := k == .regionalIndicator && !t.halfFlag

/-- Whether the next character belongs to the cluster of the one before it. -/
def joins (t : Trail) (next : Kind) : Bool :=
  if t.last = .carriageReturn ∧ next = .lineFeed then true
  else if t.last.standsAlone || next.standsAlone then false
  else
    Kind.hangulPair t.last next || next.joinsBefore || t.last == .leadingMark
      || (t.afterJoinedPictograph && next == .pictograph)
      || (t.halfFlag && next == .regionalIndicator)

end Trail

/-- The end of the running cluster, and the clusters behind it. -/
def continueCluster (t : Trail) : List Char → List Char × List (List Char)
  | [] => ([], [])
  | c :: rest =>
    let (own, others) := continueCluster (t.push (Kind.of c)) rest
    if t.joins (Kind.of c) then (c :: own, others) else ([], (c :: own) :: others)

/-- The clusters of a text, none of them empty. -/
def clusters : List Char → List (List Char)
  | [] => []
  | c :: rest =>
    let (own, others) := continueCluster (.start (Kind.of c)) rest
    (c :: own) :: others

theorem continueCluster_flatten (t : Trail) (text : List Char) :
    (continueCluster t text).1 ++ (continueCluster t text).2.flatten = text := by
  induction text generalizing t with
  | nil => rfl
  | cons c rest ih =>
    simp only [continueCluster]
    split <;> simp [ih]

/-- Nothing of a text is lost between its clusters. -/
theorem flatten_clusters (text : List Char) : (clusters text).flatten = text := by
  cases text with
  | nil => rfl
  | cons c rest => simp [clusters, continueCluster_flatten]

/-- The text without its last cluster; nothing of an empty text. -/
def dropLastCluster (text : List Char) : List Char := (clusters text).dropLast.flatten

end DeskCalc.Text
