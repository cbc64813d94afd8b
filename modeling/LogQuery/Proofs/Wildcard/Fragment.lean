import LogQuery.Proofs.Wildcard.Spelling

/-!
# What fragments find

`HoldsFragment` says with pieces and gaps when a text holds a fragment.  The table of suffixes and
the written pattern of a fragment are two ways to decide it.  Fragments that are too large to be
searched for at all are another matter, which `fragmentFits` decides.
-/

namespace LogQuery.Wildcard

open LogQuery.Regex LogQuery.Text

/-- Two texts differ in nothing but the case of their characters. -/
def Alike (piece text : List Char) : Prop :=
  List.Forall₂ (fun c d => sameFold c d = true) piece text

/-- A text is pieces in their order, with gaps within a line between neighbours. -/
inductive Strung : List (List Char) → List Char → Prop where
  | last {piece text : List Char} (alike : Alike piece text) : Strung [piece] text
  | cons {piece front gap rest : List Char} {pieces : List (List Char)} (alike : Alike piece front)
      (sameLine : ∀ c ∈ gap, c ≠ '\n') (behind : Strung pieces rest) :
      Strung (piece :: pieces) (front ++ (gap ++ rest))

/-- A text holds the pieces of a fragment; no word character touches the first one from the left or
the last one from the right, unless the fragment has a star on that side. -/
def HoldsFragment (fragment text : List Char) : Prop :=
  ∃ before middle after, text = before ++ middle ++ after ∧
    Strung (fragment.splitOn '*') middle ∧
    (fragment.head? = some '*' ∨ ∀ c, before.getLast? = some c → isWord c = false) ∧
    (fragment.getLast? = some '*' ∨ ∀ c, after.head? = some c → isWord c = false)

variable {c : Char} {fragment text piece : List Char} {pieces : List (List Char)}

/-! ## Pieces and items -/

namespace Strung

theorem singleton_iff : Strung [piece] text ↔ Alike piece text := by
  constructor
  · intro strung
    cases strung with
    | last alike => exact alike
    | cons alike sameLine behind => cases behind
  · exact .last

/-- Behind an empty piece comes a gap. -/
theorem nil_cons_iff {next : List Char} :
    Strung ([] :: next :: pieces) text ↔
      ∃ gap rest, text = gap ++ rest ∧ (∀ c ∈ gap, c ≠ '\n') ∧ Strung (next :: pieces) rest := by
  constructor
  · intro strung
    cases strung with
    | cons alike sameLine behind =>
        obtain rfl := List.forall₂_nil_left_iff.mp alike
        exact ⟨_, _, List.nil_append _, sameLine, behind⟩
  · rintro ⟨gap, rest, rfl, sameLine, behind⟩
    exact .cons .nil sameLine behind

/-- The first character of a piece is found first. -/
theorem cons_cons_iff :
    Strung ((c :: piece) :: pieces) text ↔
      ∃ d rest, text = d :: rest ∧ sameFold c d = true ∧ Strung (piece :: pieces) rest := by
  constructor
  · intro strung
    cases strung with
    | last alike =>
        cases alike with
        | cons same alike => exact ⟨_, _, rfl, same, .last alike⟩
    | cons alike sameLine behind =>
        cases alike with
        | cons same alike => exact ⟨_, _, rfl, same, .cons alike sameLine behind⟩
  · rintro ⟨d, rest, rfl, same, strung⟩
    cases strung with
    | last alike => exact .last (.cons same alike)
    | cons alike sameLine behind => exact .cons (.cons same alike) sameLine behind

end Strung

/-- Splitting yields at least one piece. -/
theorem exists_splitOn_eq (fragment : List Char) :
    ∃ piece pieces, fragment.splitOn '*' = piece :: pieces :=
  List.exists_cons_of_ne_nil (List.splitOn_ne_nil '*' fragment)

/-- A star begins a new piece. -/
theorem splitOn_star (fragment : List Char) :
    ('*' :: fragment).splitOn '*' = [] :: fragment.splitOn '*' := by
  rw [List.splitOn_cons_eq_if_modifyHead]
  rfl

/-- Every other character belongs to the piece that begins the rest. -/
theorem splitOn_cons (ordinary : c ≠ '*') (split : fragment.splitOn '*' = piece :: pieces) :
    (c :: fragment).splitOn '*' = (c :: piece) :: pieces := by
  rw [List.splitOn_cons_eq_if_modifyHead, split, if_neg (by simpa using ordinary),
    List.modifyHead_cons]

theorem fragmentItems_cons (ordinary : c ≠ '*') :
    fragmentItems (c :: fragment) = .one (sameFold c) :: fragmentItems fragment := by
  rw [fragmentItems, List.map_cons, if_neg (by simpa using ordinary), fragmentItems]

/-- The items of a fragment stand for its pieces with gaps between them. -/
theorem generates_fragmentItems_iff :
    Generates (fragmentItems fragment) text ↔ Strung (fragment.splitOn '*') text := by
  induction fragment generalizing text with
  | nil =>
      rw [List.splitOn_nil, Strung.singleton_iff]
      exact generates_nil_iff.trans List.forall₂_nil_left_iff.symm
  | cons c fragment inductionHypothesis =>
      obtain ⟨piece, pieces, split⟩ := exists_splitOn_eq fragment
      by_cases starred : c = '*'
      · subst starred
        rw [splitOn_star, split, Strung.nil_cons_iff, ← split]
        refine generates_cons_iff.trans (exists_congr fun gap => exists_congr fun rest => ?_)
        refine and_congr_right' (and_congr ?_ inductionHypothesis)
        exact forall₂_congr fun c _ => bne_iff_ne
      · rw [splitOn_cons starred split, Strung.cons_cons_iff, ← split, fragmentItems_cons starred,
          generates_one_cons_iff]
        simp only [inductionHypothesis]

/-! ## The table -/

theorem freeBefore_iff {neighbour : Option Char} :
    freeBefore neighbour = true ↔ ∀ c, neighbour = some c → isWord c = false := by
  cases neighbour with
  | none => exact iff_of_true rfl nofun
  | some c => simp [freeBefore]

theorem freeAfter_iff : freeAfter text = true ↔ ∀ c, text.head? = some c → isWord c = false := by
  cases text with
  | nil => exact iff_of_true rfl nofun
  | cons c rest => simp [freeAfter]

/-- A permitted start is found if there is one; `previous` is what stands before the text. -/
theorem anyStart_iff {permitted : Option Char → Bool} {previous : Option Char}
    {holds : List Char → Prop} {table : SuffixTable}
    (tells : SuffixTable.Tells holds text table) :
    anyStart permitted previous text table = true ↔
      ∃ front back, text = front ++ back ∧ permitted (front.getLast?.or previous) = true ∧
        holds back := by
  induction tells generalizing previous with
  | nil here_iff =>
      rw [anyStart, Bool.or_false, Bool.and_eq_true, here_iff]
      constructor
      · rintro ⟨held, free⟩
        exact ⟨[], [], rfl, free, held⟩
      · rintro ⟨front, back, split, free, held⟩
        obtain ⟨rfl, rfl⟩ := List.append_eq_nil_iff.mp split.symm
        exact ⟨held, free⟩
  | cons here_iff _ inductionHypothesis =>
      rw [anyStart, Bool.or_eq_true, Bool.and_eq_true, here_iff, inductionHypothesis]
      constructor
      · rintro (⟨held, free⟩ | ⟨front, back, rfl, free, held⟩)
        · exact ⟨[], _, rfl, free, held⟩
        -- Before the rest stands the last character of the front, or else the one just passed.
        · refine ⟨_ :: front, back, rfl, ?_, held⟩
          rwa [List.getLast?_cons, ← Option.or_some, Option.or_assoc]
      · rintro ⟨_ | ⟨first, front⟩, back, split, free, held⟩
        · obtain rfl := split
          exact .inl ⟨held, free⟩
        · obtain ⟨rfl, rfl⟩ := List.cons.inj split
          refine .inr ⟨front, back, rfl, ?_, held⟩
          rwa [List.getLast?_cons, ← Option.or_some, Option.or_assoc] at free

theorem fragmentMatches_iff (fragment text : String) :
    fragmentMatches fragment text = true ↔ HoldsFragment fragment.toList text.toList := by
  have table := (SuffixTable.tells_ofCondition
    (fun rest => fragment.toList.getLast? == some '*' || freeAfter rest) text.toList).beforeAll
      (fragmentItems fragment.toList)
  rw [fragmentMatches, anyStart_iff table]
  simp only [LeadsAll, generates_fragmentItems_iff, Option.or_none, Bool.or_eq_true, beq_iff_eq,
    freeBefore_iff, freeAfter_iff]
  constructor
  · rintro ⟨before, _, split, opens, middle, after, rfl, strung, closes⟩
    exact ⟨before, middle, after, split.trans (List.append_assoc _ _ _).symm, strung, opens, closes⟩
  · rintro ⟨before, middle, after, split, strung, opens, closes⟩
    exact ⟨before, middle ++ after, split.trans (List.append_assoc _ _ _), opens, middle, after,
      rfl, strung, closes⟩

/-- A fragment stands for its own text: a star is a run of one character. -/
theorem generates_fragmentItems_self (fragment : List Char) :
    Generates (fragmentItems fragment) fragment := by
  induction fragment with
  | nil => exact .nil
  | cons c fragment inductionHypothesis =>
      by_cases starred : c = '*'
      · subst starred
        exact generates_cons_iff.mpr ⟨['*'], fragment, rfl, List.forall_mem_singleton.mpr rfl,
          inductionHypothesis⟩
      · rw [fragmentItems_cons starred, generates_one_cons_iff]
        exact ⟨c, fragment, rfl, sameFold_self c, inductionHypothesis⟩

/-- Every text holds itself. -/
theorem fragmentMatches_self (text : String) : fragmentMatches text text = true :=
  (fragmentMatches_iff text text).mpr ⟨[], text.toList, [], (List.append_nil _).symm,
    generates_fragmentItems_iff.mp (generates_fragmentItems_self text.toList), .inr nofun,
    .inr nofun⟩

/-! ## The written pattern -/

/-- What stands in front of the first member of a list stays in front. -/
theorem intercalate_append_cons (separator front : List Char) :
    List.intercalate separator ((front ++ piece) :: pieces) =
      front ++ List.intercalate separator (piece :: pieces) := by
  cases pieces with
  | nil => rw [List.intercalate_singleton, List.intercalate_singleton]
  | cons next pieces =>
      rw [List.intercalate_cons_cons, List.intercalate_cons_cons, List.append_assoc,
        List.append_assoc, List.append_assoc]

/-- The pieces of a fragment with any run within a line between them. -/
theorem spells_pieces (fragment : List Char) :
    Spells (caseFlags true)
      (List.intercalate ".*".toList ((fragment.splitOn '*').map (·.flatMap escape)))
      (fragment.map fragmentPart) := by
  induction fragment with
  | nil => exact .nil _
  | cons c fragment inductionHypothesis =>
      obtain ⟨piece, pieces, split⟩ := exists_splitOn_eq fragment
      rw [split, List.map_cons] at inductionHypothesis
      by_cases starred : c = '*'
      · subst starred
        rw [splitOn_star, split, List.map_cons, List.map_cons, List.intercalate_cons_cons]
        exact (spells_anyWithinLine true).append inductionHypothesis
      · rw [splitOn_cons starred split, List.map_cons, List.flatMap_cons, List.map_cons,
          fragmentPart, if_neg (by simpa using starred), intercalate_append_cons]
        exact (spells_escape true c).append inductionHypothesis

theorem spells_unlessStarred (starred : Bool) :
    Spells (caseFlags true) (if starred then "" else "(^|\\W)").toList
        (if starred then [] else [fragmentEnd 1 .textStart]) ∧
      Spells (caseFlags true) (if starred then "" else "($|\\W)").toList
        (if starred then [] else [fragmentEnd 2 .textEnd]) := by
  cases starred with
  | true => exact ⟨.nil _, .nil _⟩
  | false => exact ⟨spells_opening true, spells_closing true⟩

theorem spans_fragmentEnd {index : Nat} {condition : Look} {before after : List Char} :
    (fragmentEnd index condition).Spans before text after ↔
      (text = [] ∧ condition.holds before.getLast? after.head? = true) ∨
        ∃ c, text = [c] ∧ isWord c = false := by
  refine or_congr_right (exists_congr fun c => and_congr_right' ?_)
  rw [CharSet.contains, CharSet.contains, Bool.not_eq_true']

/-- The opening boundary finds its place in front of the pieces if no word character touches
them. -/
theorem exists_spans_opening_iff (starred : Bool) (before after : List Char) :
    (∃ front gap, before = front ++ gap ∧
        (inSequence (if starred then [] else [fragmentEnd 1 .textStart])).Spans front gap after) ↔
      starred = true ∨ ∀ c, before.getLast? = some c → isWord c = false := by
  cases starred with
  | true => exact iff_of_true ⟨before, [], (List.append_nil before).symm, rfl⟩ (.inl rfl)
  | false =>
      simp only [Bool.false_eq_true, if_false, false_or, spans_inSequence_singleton,
        spans_fragmentEnd]
      constructor
      · rintro ⟨front, _, rfl, ⟨rfl, atStart⟩ | ⟨c, rfl, free⟩⟩
        · obtain rfl := List.getLast?_eq_none_iff.mp (Option.isNone_iff_eq_none.mp atStart)
          nofun
        · intro last last_eq
          rw [List.getLast?_concat] at last_eq
          cases last_eq
          exact free
      · intro free
        rcases before.eq_nil_or_concat with rfl | ⟨front, c, rfl⟩
        · exact ⟨[], [], rfl, .inl ⟨rfl, rfl⟩⟩
        · rw [List.concat_eq_append] at free ⊢
          exact ⟨front, [c], rfl, .inr ⟨c, rfl, free c List.getLast?_concat⟩⟩

/-- The closing boundary finds its place behind the pieces if no word character touches them. -/
theorem exists_spans_closing_iff (starred : Bool) (before after : List Char) :
    (∃ gap rest, after = gap ++ rest ∧
        (inSequence (if starred then [] else [fragmentEnd 2 .textEnd])).Spans before gap rest) ↔
      starred = true ∨ ∀ c, after.head? = some c → isWord c = false := by
  cases starred with
  | true => exact iff_of_true ⟨[], after, rfl, rfl⟩ (.inl rfl)
  | false =>
      simp only [Bool.false_eq_true, if_false, false_or, spans_inSequence_singleton,
        spans_fragmentEnd]
      constructor
      · rintro ⟨_, rest, rfl, ⟨rfl, atEnd⟩ | ⟨c, rfl, free⟩⟩
        · obtain rfl := List.head?_eq_none_iff.mp (Option.isNone_iff_eq_none.mp atEnd)
          nofun
        · rintro _ ⟨⟩
          exact free
      · intro free
        cases after with
        | nil => exact ⟨[], [], rfl, .inl ⟨rfl, rfl⟩⟩
        | cons c rest => exact ⟨[c], rest, rfl, .inr ⟨c, rfl, free c rfl⟩⟩

theorem spans_pieces_iff {before after : List Char} :
    (inSequence (fragment.map fragmentPart)).Spans before text after ↔
      Strung (fragment.splitOn '*') text :=
  (spans_inSequence_iff_generates (forall₂_renders_fragmentItems fragment)).trans
    generates_fragmentItems_iff

/-- The expression of a fragment matches somewhere in the texts that hold the fragment. -/
theorem occurs_fragmentExpr_iff :
    (fragmentExpr fragment).Occurs text ↔ HoldsFragment fragment text := by
  rw [fragmentExpr]
  constructor
  · rintro ⟨before, _, after, rfl, spans⟩
    obtain ⟨_, gapBehind, rfl, spans, spansClosing⟩ := spans_inSequence_append.mp spans
    obtain ⟨gapBefore, middle, rfl, spansOpening, spansPieces⟩ := spans_inSequence_append.mp spans
    have opens := (exists_spans_opening_iff _ _ _).mp ⟨before, gapBefore, rfl, spansOpening⟩
    have closes := (exists_spans_closing_iff _ _ _).mp ⟨gapBehind, after, rfl, spansClosing⟩
    rw [beq_iff_eq] at opens closes
    exact ⟨before ++ gapBefore, middle, gapBehind ++ after, by simp only [List.append_assoc],
      spans_pieces_iff.mp spansPieces, opens, closes⟩
  · rintro ⟨before, middle, after, rfl, strung, opens, closes⟩
    rw [← beq_iff_eq] at opens closes
    obtain ⟨front, gapBefore, rfl, spansOpening⟩ :=
      (exists_spans_opening_iff _ before (middle ++ after)).mpr opens
    obtain ⟨gapBehind, rest, rfl, spansClosing⟩ :=
      (exists_spans_closing_iff _ (front ++ (gapBefore ++ middle)) after).mpr closes
    refine ⟨front, gapBefore ++ middle ++ gapBehind, rest, by simp only [List.append_assoc], ?_⟩
    exact spans_inSequence_append.mpr ⟨gapBefore ++ middle, gapBehind, rfl,
      spans_inSequence_append.mpr ⟨gapBefore, middle, rfl, spansOpening,
        spans_pieces_iff.mpr strung⟩, spansClosing⟩

theorem exists_fragmentPattern (fragment : List Char) :
    ∃ expr, (Pattern.read (fragmentPattern fragment) >>= Expr.ofPattern) = .ok expr ∧
      ∀ text, expr.Occurs text ↔ HoldsFragment fragment text := by
  have spells := ((spells_unlessStarred (fragment.head? == some '*')).1.append
    (spells_pieces fragment)).append (spells_unlessStarred (fragment.getLast? == some '*')).2
  obtain ⟨expr, read_eq, spans⟩ := spells.exists_ofPattern_caseInsensitive
  refine ⟨expr, ?_, fun text => ?_⟩
  · rw [← read_eq, fragmentPattern]
    simp only [List.append_assoc]
  · rw [Expr.Occurs, spans]
    exact occurs_fragmentExpr_iff

/-- Without stars there is one piece, and all of its characters are literal. -/
theorem strung_splitOn_of_notMem (plain : '*' ∉ fragment) :
    Strung (fragment.splitOn '*') text ↔ Alike fragment text := by
  rw [List.splitOn_eq_singleton plain, Strung.singleton_iff]

/-- A fragment matches exactly the texts that hold it, and so does its written pattern; where there
is no star, all characters are literal. -/
theorem fragment_matches_where_its_pieces_occur (fragment text : String) :
    (fragmentMatches fragment text = true ↔ HoldsFragment fragment.toList text.toList) ∧
      (∃ expr, (Pattern.read (fragmentPattern fragment.toList) >>= Expr.ofPattern) = .ok expr ∧
        (expr.Occurs text.toList ↔ HoldsFragment fragment.toList text.toList)) ∧
      ('*' ∉ fragment.toList → ∀ middle,
        Strung (fragment.toList.splitOn '*') middle ↔ Alike fragment.toList middle) := by
  obtain ⟨expr, read_eq, occurs_iff⟩ := exists_fragmentPattern fragment.toList
  exact ⟨fragmentMatches_iff fragment text, ⟨expr, read_eq, occurs_iff text.toList⟩,
    fun plain _ => strung_splitOn_of_notMem plain⟩

example : fragmentPattern "con*ion".toList = "(?i)(^|\\W)con.*ion($|\\W)".toList := by rfl

end LogQuery.Wildcard
