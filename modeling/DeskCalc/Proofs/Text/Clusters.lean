import Mathlib.Data.List.Induction
import Mathlib.Logic.Basic
import DeskCalc.Text.Cluster

/-!
# Where a text falls apart

The joining rules, read off the text before a character and not off a trail, and the one way in which
a text falls apart by them. This file fixes

* `Belongs`: when a character belongs to the cluster of the one before it;
* `Trail.Sees`, `Sees.joins_iff`: what a trail knows of a text is all that the rules ask about it;
* `Segmented`: pieces cut at exactly those places where the next character does not belong;
* **`segmented_iff`**: the clusters are the only such pieces;
* **`Segmented.dropLast`**: without its last piece a text falls apart at the same places as before,
  because a rule never looks at what follows.
-/

namespace DeskCalc.Text

/-! ## 1. The rules -/

/-- How many regional indicators end a text. -/
def closingIndicators (before : List Kind) : Nat :=
  (before.reverse.takeWhile (· == .regionalIndicator)).length

/-- A pictograph with marks behind it ends the text. -/
def EndsInPictograph (before : List Kind) : Prop :=
  ∃ front marks, before = front ++ .pictograph :: marks ∧ ∀ k ∈ marks, k = .extend

/-- The joining rules: the next character belongs to the cluster of the one before it. -/
inductive Belongs : List Kind → Kind → Prop where
  /-- A line feed belongs to the carriage return. -/
  | lineEnd (front : List Kind) : Belongs (front ++ [.carriageReturn]) .lineFeed
  /-- The parts of a Hangul syllable hold together. -/
  | syllable (front : List Kind) {last next : Kind} (h : last.hangulPair next = true) :
      Belongs (front ++ [last]) next
  /-- A mark belongs to what it is on, line ends and controls apart. -/
  | mark (front : List Kind) {last next : Kind} (hlast : last.standsAlone = false)
      (hnext : next.joinsBefore = true) : Belongs (front ++ [last]) next
  /-- A leading mark belongs to what is behind it, line ends and controls apart. -/
  | leadingMark (front : List Kind) {next : Kind} (h : next.standsAlone = false) :
      Belongs (front ++ [.leadingMark]) next
  /-- A joiner ties two pictographs together. -/
  | pictographs {front : List Kind} (h : EndsInPictograph front) :
      Belongs (front ++ [.joiner]) .pictograph
  /-- Regional indicators form pairs, counted from the first of their run. -/
  | flags {before : List Kind} (h : closingIndicators before % 2 = 1) :
      Belongs before .regionalIndicator

theorem closingIndicators_concat (before : List Kind) (k : Kind) :
    closingIndicators (before ++ [k]) =
      if k = .regionalIndicator then closingIndicators before + 1 else 0 := by
  by_cases hk : k = .regionalIndicator <;> simp [closingIndicators, hk]

theorem endsInPictograph_concat (before : List Kind) (k : Kind) :
    EndsInPictograph (before ++ [k]) ↔
      k = .pictograph ∨ (EndsInPictograph before ∧ k = .extend) := by
  constructor
  · rintro ⟨front, marks, heq, hmarks⟩
    rcases List.eq_nil_or_concat marks with rfl | ⟨earlier, mark, rfl⟩
    · left
      exact (List.append_inj' heq rfl).2 |> List.singleton_inj.1
    · have hsplit : before ++ [k] = (front ++ .pictograph :: earlier) ++ [mark] := by
        rw [heq]
        simp
      obtain ⟨hbefore, hlast⟩ := List.append_inj' hsplit rfl
      have hk : k = mark := List.singleton_inj.1 hlast
      exact .inr ⟨⟨front, earlier, hbefore, fun m hm => hmarks m (by simp [hm])⟩,
        hk ▸ hmarks mark (by simp)⟩
  · rintro (rfl | ⟨⟨front, marks, rfl, hmarks⟩, rfl⟩)
    · exact ⟨before, [], rfl, by simp⟩
    · refine ⟨front, marks ++ [.extend], by simp, fun m hm => ?_⟩
      rcases List.mem_append.1 hm with hm | hm
      · exact hmarks m hm
      · exact List.mem_singleton.1 hm

theorem not_endsInPictograph_nil : ¬EndsInPictograph [] := fun ⟨front, marks, heq, _⟩ => by
  simp at heq

/-! ## 2. The trail knows enough -/

namespace Trail

/-- The trail tells the truth about a text. -/
structure Sees (t : Trail) (before : List Kind) : Prop where
  last : ∃ front, before = front ++ [t.last]
  pictograph : t.afterPictograph = true ↔ EndsInPictograph before
  joined : t.afterJoinedPictograph = true ↔
    ∃ front, before = front ++ [.joiner] ∧ EndsInPictograph front
  half : t.halfFlag = true ↔ closingIndicators before % 2 = 1

theorem sees_start (k : Kind) : (start k).Sees [k] where
  last := ⟨[], rfl⟩
  pictograph := by
    have h := endsInPictograph_concat [] k
    simpa [start, not_endsInPictograph_nil] using h.symm
  joined := by
    constructor
    · intro h
      cases h
    · rintro ⟨front, heq, hfront⟩
      have hnil : front = [] := by
        have hlength := congrArg List.length heq
        simpa using hlength.symm
      exact absurd (hnil ▸ hfront) not_endsInPictograph_nil
  half := by
    by_cases hk : k = .regionalIndicator <;> simp [start, hk, closingIndicators]

theorem Sees.push {t : Trail} {before : List Kind} (h : t.Sees before) (k : Kind) :
    (t.push k).Sees (before ++ [k]) where
  last := ⟨before, rfl⟩
  pictograph := by
    rw [endsInPictograph_concat, ← h.pictograph]
    simp [Trail.push]
  joined := by
    simp only [Trail.push, Bool.and_eq_true, h.pictograph, beq_iff_eq]
    constructor
    · rintro ⟨hends, rfl⟩
      exact ⟨before, rfl, hends⟩
    · rintro ⟨front, heq, hends⟩
      obtain ⟨rfl, hk⟩ := List.append_inj' heq rfl
      exact ⟨hends, List.singleton_inj.1 hk⟩
  half := by
    have hhalf := h.half
    rw [closingIndicators_concat]
    by_cases hk : k = .regionalIndicator
    · -- one indicator more turns an even run into an odd one
      cases hflag : t.halfFlag <;> simp [Trail.push, hk, hflag] at hhalf ⊢ <;> omega
    · simp [Trail.push, hk]

/-- **The trail decides every rule.** -/
theorem Sees.joins_iff {t : Trail} {before : List Kind} (h : t.Sees before) (next : Kind) :
    t.joins next = true ↔ Belongs before next := by
  obtain ⟨front, hbefore⟩ := h.last
  constructor
  · intro hjoins
    unfold joins at hjoins
    split at hjoins
    · rename_i hline
      rw [hbefore, hline.1, hline.2]
      exact .lineEnd front
    · split at hjoins
      · cases hjoins
      · rename_i halone
        simp only [Bool.or_eq_true, not_or, Bool.not_eq_true] at halone
        simp only [Bool.or_eq_true, Bool.and_eq_true, beq_iff_eq] at hjoins
        rcases hjoins with
          (((hpair | hmark) | hleading) | ⟨hjoined, rfl⟩) | ⟨hhalf, rfl⟩
        · exact hbefore ▸ .syllable front hpair
        · exact hbefore ▸ .mark front halone.1 hmark
        · rw [hbefore, hleading]
          exact .leadingMark front halone.2
        · obtain ⟨earlier, rfl, hends⟩ := h.joined.1 hjoined
          exact .pictographs hends
        · exact .flags (h.half.1 hhalf)
  · intro hbelongs
    have hlast : ∀ {earlier k}, before = earlier ++ [k] → t.last = k := fun heq =>
      List.singleton_inj.1 (List.append_inj' (hbefore.symm.trans heq) rfl).2
    cases hbelongs with
    | lineEnd earlier => simp [joins, hlast rfl]
    | @syllable earlier last next hpair =>
      rw [joins, hlast rfl, hpair]
      revert hpair
      cases last <;> cases next <;> simp [Kind.hangulPair, Kind.standsAlone]
    | @mark earlier last next halone hmark =>
      rw [joins, hlast rfl, halone, hmark]
      revert hmark
      cases next <;> simp [Kind.joinsBefore, Kind.standsAlone]
    | leadingMark earlier halone =>
      have hleading : Kind.leadingMark.standsAlone = false := rfl
      simp [joins, hlast rfl, halone, hleading]
    | pictographs hends =>
      simp [joins, hlast rfl, h.joined.2 ⟨_, rfl, hends⟩, Kind.standsAlone]
    | flags hodd =>
      have hindicator : t.last = .regionalIndicator := by
        refine Classical.byContradiction fun hne => ?_
        rw [hbefore, closingIndicators_concat, if_neg hne] at hodd
        cases hodd
      simp [joins, hindicator, h.half.2 hodd, Kind.standsAlone]

theorem sees_foldl (k : Kind) (more : List Kind) :
    (more.foldl Trail.push (start k)).Sees (k :: more) := by
  induction more using List.reverseRecOn with
  | nil => exact sees_start k
  | append_singleton more last ih =>
    rw [List.foldl_append]
    exact ih.push last

end Trail

/-! ## 3. The pieces of a text -/

/-- The text before some of the pieces is `front`. -/
def CutAt (pieces : List (List Char)) (front : List Char) : Prop :=
  ∃ before, before <+: pieces ∧ before.flatten = front

/-- The text falls into these pieces: they are cut at exactly those places where the next character
    does not belong to the one before it. -/
structure Segmented (text : List Char) (pieces : List (List Char)) : Prop where
  flatten_eq : pieces.flatten = text
  ne_nil : ∀ piece ∈ pieces, piece ≠ []
  cutAt_iff : ∀ front c, front ≠ [] → front ++ [c] <+: text →
    (CutAt pieces front ↔ ¬Belongs (front.map Kind.of) (Kind.of c))

theorem cutAt_concat (pieces : List (List Char)) (piece front : List Char) :
    CutAt (pieces ++ [piece]) front ↔ CutAt pieces front ∨ front = pieces.flatten ++ piece := by
  constructor
  · rintro ⟨before, hbefore, rfl⟩
    rcases List.prefix_concat_iff.1 hbefore with rfl | hbefore
    · exact .inr (by simp)
    · exact .inl ⟨before, hbefore, rfl⟩
  · rintro (⟨before, hbefore, rfl⟩ | rfl)
    · exact ⟨before, hbefore.trans (List.prefix_append _ _), rfl⟩
    · exact ⟨pieces ++ [piece], List.prefix_rfl, by simp⟩

theorem CutAt.length_le {pieces : List (List Char)} {front : List Char} (h : CutAt pieces front) :
    front.length ≤ pieces.flatten.length := by
  obtain ⟨before, ⟨after, rfl⟩, rfl⟩ := h
  simp

theorem segmented_nil : Segmented [] [] where
  flatten_eq := rfl
  ne_nil := by simp
  cutAt_iff front c _ hfront := by simp at hfront

/-- A beginning with something behind it is not the whole text. -/
theorem front_ne_of_concat {text front : List Char} {c : Char} (h : front ++ [c] <+: text) :
    front ≠ text := by
  rintro rfl
  have hle := h.length_le
  rw [List.length_append, List.length_singleton] at hle
  exact Nat.not_succ_le_self _ hle

namespace Segmented

variable {text : List Char} {pieces : List (List Char)} {piece : List Char} {c : Char}

/-- A character that belongs to the last piece makes it longer. -/
theorem join (h : Segmented text (pieces ++ [piece]))
    (hbelongs : Belongs (text.map Kind.of) (Kind.of c)) :
    Segmented (text ++ [c]) (pieces ++ [piece ++ [c]]) := by
  have htext : pieces.flatten ++ piece = text := by simpa using h.flatten_eq
  have hpiece : piece ≠ [] := h.ne_nil piece (by simp)
  refine ⟨by simp [← htext], fun p hp => ?_, fun front d hne hfront => ?_⟩
  · rcases List.mem_append.1 hp with hp | hp
    · exact h.ne_nil p (by simp [hp])
    · simp [List.mem_singleton.1 hp]
  · have hwhole := front_ne_of_concat hfront
    rw [← htext, List.append_assoc] at hwhole
    rw [cutAt_concat, or_iff_left hwhole]
    rcases List.prefix_concat_iff.1 hfront with heq | hbefore
    · obtain ⟨rfl, hd⟩ := List.append_inj' heq rfl
      obtain rfl : d = c := List.singleton_inj.1 hd
      refine iff_of_false (fun hcut => ?_) (not_not.2 hbelongs)
      have hle := hcut.length_le
      have hpos := List.length_pos_iff.2 hpiece
      rw [← htext, List.length_append] at hle
      omega
    · have hproper := front_ne_of_concat hbefore
      rw [← htext] at hproper
      rw [← h.cutAt_iff front d hne hbefore, cutAt_concat, or_iff_left hproper]

/-- A character that does not belong to the last piece starts a new one. -/
theorem cut (h : Segmented text pieces)
    (hbelongs : text ≠ [] → ¬Belongs (text.map Kind.of) (Kind.of c)) :
    Segmented (text ++ [c]) (pieces ++ [[c]]) := by
  refine ⟨by simp [h.flatten_eq], fun p hp => ?_, fun front d hne hfront => ?_⟩
  · rcases List.mem_append.1 hp with hp | hp
    · exact h.ne_nil p hp
    · simp [List.mem_singleton.1 hp]
  · have hwhole := front_ne_of_concat hfront
    rw [← h.flatten_eq] at hwhole
    rw [cutAt_concat, or_iff_left hwhole]
    rcases List.prefix_concat_iff.1 hfront with heq | hbefore
    · obtain ⟨rfl, hd⟩ := List.append_inj' heq rfl
      obtain rfl : d = c := List.singleton_inj.1 hd
      exact iff_of_true ⟨pieces, List.prefix_rfl, h.flatten_eq⟩ (hbelongs hne)
    · exact h.cutAt_iff front d hne hbefore

/-- **Without its last piece the text falls apart at the same places.** -/
theorem dropLast (h : Segmented text (pieces ++ [piece])) :
    Segmented pieces.flatten pieces := by
  have htext : pieces.flatten ++ piece = text := by simpa using h.flatten_eq
  refine ⟨rfl, fun p hp => h.ne_nil p (by simp [hp]), fun front c hne hfront => ?_⟩
  have hproper : front ≠ pieces.flatten ++ piece :=
    front_ne_of_concat (hfront.trans (List.prefix_append _ _))
  rw [← h.cutAt_iff front c hne (htext ▸ hfront.trans (List.prefix_append _ _)), cutAt_concat,
    or_iff_left hproper]

/-- Where one segmentation has its last cut, another has a cut as well. -/
theorem lastCut_le {other : List (List Char)} {last : List Char}
    (h : Segmented text (pieces ++ [piece])) (hother : Segmented text (other ++ [last])) :
    pieces.flatten.length ≤ other.flatten.length := by
  have htext : pieces.flatten ++ piece = text := by simpa using h.flatten_eq
  have hlast : other.flatten ++ last = text := by simpa using hother.flatten_eq
  obtain ⟨c, more, hpiece⟩ := List.exists_cons_of_ne_nil (h.ne_nil piece (by simp))
  by_cases hempty : pieces.flatten = []
  · simp [hempty]
  have hfront : pieces.flatten ++ [c] <+: text := ⟨more, by simp [← htext, hpiece]⟩
  have hcut : CutAt (other ++ [last]) pieces.flatten :=
    (hother.cutAt_iff _ c hempty hfront).2
      ((h.cutAt_iff _ c hempty hfront).1 ((cutAt_concat _ _ _).2 (.inl ⟨pieces, List.prefix_rfl, rfl⟩)))
  rcases (cutAt_concat _ _ _).1 hcut with hcut | heq
  · exact hcut.length_le
  · -- the last piece is not empty, so the last cut is not the end of the text
    exact absurd (heq.trans hlast) (front_ne_of_concat hfront)

/-- **A text falls apart in one way only.** -/
theorem unique {other : List (List Char)} (h : Segmented text pieces)
    (hother : Segmented text other) : pieces = other := by
  induction pieces using List.reverseRecOn generalizing text other with
  | nil =>
    have htext : text = [] := h.flatten_eq.symm
    refine (List.eq_nil_iff_forall_not_mem.2 fun p hp => hother.ne_nil p hp ?_).symm
    exact List.flatten_eq_nil_iff.1 (hother.flatten_eq.trans htext) p hp
  | append_singleton pieces piece ih =>
    have htext : pieces.flatten ++ piece = text := by simpa using h.flatten_eq
    rcases List.eq_nil_or_concat other with rfl | ⟨others, last, rfl⟩
    · have hnil : text = [] := hother.flatten_eq.symm
      have := h.ne_nil piece (by simp)
      rw [hnil] at htext
      exact absurd (List.append_eq_nil_iff.1 htext).2 this
    · rw [List.concat_eq_append] at hother ⊢
      have hlast : others.flatten ++ last = text := by simpa using hother.flatten_eq
      have hlength : pieces.flatten.length = others.flatten.length :=
        Nat.le_antisymm (h.lastCut_le hother) (hother.lastCut_le h)
      obtain ⟨hflatten, rfl⟩ := List.append_inj (htext.trans hlast.symm) hlength
      rw [ih h.dropLast (hflatten ▸ hother.dropLast)]

end Segmented

/-! ## 4. The clusters are the pieces -/

/-- The trail behind a text that goes on from a place with trail `t`. -/
def Trail.along (t : Trail) (text : List Char) : Trail := (text.map Kind.of).foldl Trail.push t

/-- The running cluster with the clusters behind it. -/
def runningClusters (t : Trail) (text : List Char) : List (List Char) :=
  (continueCluster t text).1 :: (continueCluster t text).2

/-- A character in front: of the running cluster, or of the first one behind an empty one. -/
def putFront (joins : Bool) (c : Char) : List (List Char) → List (List Char)
  | [] => []
  | own :: others => if joins then (c :: own) :: others else [] :: (c :: own) :: others

theorem runningClusters_cons (t : Trail) (c : Char) (rest : List Char) :
    runningClusters t (c :: rest) =
      putFront (t.joins (Kind.of c)) c (runningClusters (t.push (Kind.of c)) rest) := by
  simp only [runningClusters, continueCluster, putFront]
  split <;> rfl

/-- What happens behind a piece does not matter to the front. -/
theorem exists_putFront_eq (joins : Bool) (c : Char) (pieces : List (List Char))
    (piece : List Char) : ∃ pieces' piece', ∀ more later,
      putFront joins c (pieces ++ (piece ++ more) :: later) =
        pieces' ++ (piece' ++ more) :: later := by
  rcases pieces with _ | ⟨first, others⟩
  · cases joins
    · exact ⟨[[]], c :: piece, fun more later => rfl⟩
    · exact ⟨[], c :: piece, fun more later => rfl⟩
  · cases joins
    · exact ⟨[] :: (c :: first) :: others, piece, fun more later => rfl⟩
    · exact ⟨(c :: first) :: others, piece, fun more later => rfl⟩

/-- One character more joins the last cluster or starts the next; it changes nothing before. -/
theorem runningClusters_concat (t : Trail) (text : List Char) (c : Char) :
    ∃ pieces piece, runningClusters t text = pieces ++ [piece] ∧
      runningClusters t (text ++ [c]) =
        if (t.along text).joins (Kind.of c) then pieces ++ [piece ++ [c]]
        else pieces ++ [piece] ++ [[c]] := by
  induction text generalizing t with
  | nil =>
    refine ⟨[], [], rfl, ?_⟩
    by_cases hjoins : t.joins (Kind.of c) = true <;>
      simp [runningClusters, continueCluster, Trail.along, hjoins]
  | cons d rest ih =>
    obtain ⟨pieces, piece, hrest, hmore⟩ := ih (t.push (Kind.of d))
    obtain ⟨pieces', piece', hfront⟩ :=
      exists_putFront_eq (t.joins (Kind.of d)) d pieces piece
    have halong : (t.push (Kind.of d)).along rest = t.along (d :: rest) := rfl
    refine ⟨pieces', piece', ?_, ?_⟩
    · rw [runningClusters_cons, hrest]
      simpa using hfront [] []
    · rw [List.cons_append, runningClusters_cons, hmore, halong]
      split
      · exact hfront [c] []
      · simpa using hfront [] [[c]]

theorem clusters_cons (c : Char) (rest : List Char) :
    clusters (c :: rest) = putFront true c (runningClusters (.start (Kind.of c)) rest) := rfl

theorem segmented_clusters (text : List Char) : Segmented text (clusters text) := by
  induction text using List.reverseRecOn with
  | nil => exact segmented_nil
  | append_singleton text c ih =>
    rcases text with _ | ⟨first, rest⟩
    · exact segmented_nil.cut fun h => absurd rfl h
    · -- the trail along the text has seen all of it
      have hsees : ((Trail.start (Kind.of first)).along rest).Sees ((first :: rest).map Kind.of) :=
        Trail.sees_foldl _ _
      obtain ⟨pieces, piece, hrest, hmore⟩ :=
        runningClusters_concat (.start (Kind.of first)) rest c
      obtain ⟨pieces', piece', hfront⟩ := exists_putFront_eq true first pieces piece
      have htext : clusters (first :: rest) = pieces' ++ [piece'] := by
        rw [clusters_cons, hrest]
        simpa using hfront [] []
      rw [htext] at ih
      rw [List.cons_append, clusters_cons, hmore]
      split
      · rename_i hjoins
        rw [hfront [c] []]
        exact ih.join ((hsees.joins_iff _).1 hjoins)
      · rename_i hjoins
        have heq : putFront true first (pieces ++ [piece] ++ [[c]]) =
            pieces' ++ [piece'] ++ [[c]] := by simpa using hfront [] [[c]]
        rw [heq]
        exact ih.cut fun _ => mt (hsees.joins_iff _).2 hjoins

/-- **The clusters are the only pieces that the rules cut a text into.** -/
theorem segmented_iff {text : List Char} {pieces : List (List Char)} :
    Segmented text pieces ↔ pieces = clusters text :=
  ⟨fun h => h.unique (segmented_clusters text), fun h => h ▸ segmented_clusters text⟩

/-! ## 5. Without the last clusters -/

theorem Segmented.dropLastCluster_eq {text : List Char} {pieces : List (List Char)}
    (h : Segmented text pieces) : dropLastCluster text = pieces.dropLast.flatten := by
  rw [dropLastCluster, ← segmented_iff.1 h]

/-- What is left without the last pieces falls apart into the pieces that are left. -/
theorem Segmented.take {text : List Char} {pieces : List (List Char)} (h : Segmented text pieces)
    (m : Nat) : Segmented (pieces.take m).flatten (pieces.take m) := by
  induction pieces using List.reverseRecOn generalizing text with
  | nil => simpa using segmented_nil
  | append_singleton pieces piece ih =>
    by_cases hm : m ≤ pieces.length
    · rw [List.take_append_of_le_length hm]
      exact ih h.dropLast
    · have hall : (pieces ++ [piece]).take m = pieces ++ [piece] :=
        List.take_of_length_le (by simp; omega)
      rw [hall]
      exact h.flatten_eq ▸ h

/-- Among characters that play no part in joining, none belongs to the one before it. -/
theorem not_belongs_other {before : List Kind} (h : ∀ k ∈ before, k = .other) :
    ¬Belongs before .other := by
  intro hbelongs
  cases hbelongs with
  | @syllable _ last _ hpair => cases last <;> cases hpair
  | mark _ _ hmark => cases hmark
  | leadingMark => exact absurd (h .leadingMark (by simp)) (by decide)

/-- Characters that play no part in joining are clusters of their own. -/
theorem segmented_singletons {text : List Char}
    (h : ∀ c ∈ text, Kind.of c = .other) : Segmented text (text.map fun c => [c]) := by
  induction text using List.reverseRecOn with
  | nil => exact segmented_nil
  | append_singleton text c ih =>
    have hother : Kind.of c = .other := h c (by simp)
    have hbefore : ∀ d ∈ text, Kind.of d = .other := fun d hd => h d (by simp [hd])
    rw [List.map_append]
    refine (ih hbefore).cut fun _ => hother ▸ not_belongs_other fun k hk => ?_
    obtain ⟨d, hd, rfl⟩ := List.mem_map.1 hk
    exact hbefore d hd

end DeskCalc.Text
