import LogQuery.Proofs.Wildcard.Spelling
import LogQuery.Wildcard.Glob

/-!
# What globs name

`Names` reads a glob from left to right.  The table of suffixes and the written pattern of a glob
are two ways to decide it.  Globs that are too large to be searched for at all are another matter,
which `globFits` decides.
-/

namespace LogQuery.Wildcard

open LogQuery.Regex

/-- A glob names a source.  Stars are taken in pairs from the left, so a star stands alone only if
no other one follows it. -/
inductive Names : List Char → List Char → Prop where
  | nil : Names [] []
  | doubleStar {glob run source : List Char} (sameLine : ∀ c ∈ run, c ≠ '\n')
      (rest : Names glob source) : Names ('*' :: '*' :: glob) (run ++ source)
  | star {glob run source : List Char} (alone : ∀ others, glob ≠ '*' :: others)
      (samePart : ∀ c ∈ run, c ≠ '/' ∧ c ≠ '\\') (rest : Names glob source) :
      Names ('*' :: glob) (run ++ source)
  | question {c : Char} {glob source : List Char} (samePart : c ≠ '/' ∧ c ≠ '\\')
      (rest : Names glob source) : Names ('?' :: glob) (c :: source)
  | literal {c : Char} {glob source : List Char} (ordinary : c ≠ '*' ∧ c ≠ '?')
      (rest : Names glob source) : Names (c :: glob) (c :: source)

variable {c : Char} {glob source : List Char}

namespace Names

/-- A glob without wildcards names itself. -/
theorem of_ordinary (ordinary : ∀ c ∈ glob, c ≠ '*' ∧ c ≠ '?') : Names glob glob := by
  induction glob with
  | nil => exact .nil
  | cons c glob inductionHypothesis =>
      obtain ⟨here, behind⟩ := List.forall_mem_cons.mp ordinary
      exact .literal here (inductionHypothesis behind)

theorem nil_iff : Names [] source ↔ source = [] := by
  constructor
  · rintro ⟨⟩
    rfl
  · rintro rfl
    exact .nil

theorem doubleStar_iff :
    Names ('*' :: '*' :: glob) source ↔
      ∃ run rest, source = run ++ rest ∧ (∀ c ∈ run, c ≠ '\n') ∧ Names glob rest := by
  constructor
  · intro named
    cases named with
    | doubleStar sameLine rest => exact ⟨_, _, rfl, sameLine, rest⟩
    | star alone samePart rest => exact absurd rfl (alone glob)
    | literal ordinary rest => exact absurd rfl ordinary.1
  · rintro ⟨run, rest, rfl, sameLine, named⟩
    exact .doubleStar sameLine named

theorem star_iff (alone : ∀ others, glob ≠ '*' :: others) :
    Names ('*' :: glob) source ↔
      ∃ run rest, source = run ++ rest ∧ (∀ c ∈ run, c ≠ '/' ∧ c ≠ '\\') ∧ Names glob rest := by
  constructor
  · intro named
    cases named with
    | doubleStar sameLine rest => exact absurd rfl (alone _)
    | star alone samePart rest => exact ⟨_, _, rfl, samePart, rest⟩
    | literal ordinary rest => exact absurd rfl ordinary.1
  · rintro ⟨run, rest, rfl, samePart, named⟩
    exact .star alone samePart named

theorem question_iff :
    Names ('?' :: glob) source ↔
      ∃ c rest, source = c :: rest ∧ (c ≠ '/' ∧ c ≠ '\\') ∧ Names glob rest := by
  constructor
  · intro named
    cases named with
    | question samePart rest => exact ⟨_, _, rfl, samePart, rest⟩
    | literal ordinary rest => exact absurd rfl ordinary.2
  · rintro ⟨c, rest, rfl, samePart, named⟩
    exact .question samePart named

theorem literal_iff (ordinary : c ≠ '*' ∧ c ≠ '?') :
    Names (c :: glob) source ↔
      ∃ first rest, source = first :: rest ∧ first = c ∧ Names glob rest := by
  constructor
  · intro named
    cases named with
    | doubleStar sameLine rest => exact absurd rfl ordinary.1
    | star alone samePart rest => exact absurd rfl ordinary.1
    | question samePart rest => exact absurd rfl ordinary.2
    | literal ordinary rest => exact ⟨_, _, rfl, rfl, rest⟩
  · rintro ⟨_, rest, rfl, rfl, named⟩
    exact .literal ordinary named

end Names

theorem not_isSeparator_iff : (!isSeparator c) = true ↔ c ≠ '/' ∧ c ≠ '\\' := by
  rw [isSeparator, Bool.not_or, Bool.and_eq_true, Bool.not_eq_true', Bool.not_eq_true',
    beq_eq_false_iff_ne, beq_eq_false_iff_ne]

/-- The items of a glob stand for the sources that it names. -/
theorem generates_globItems_iff : Generates (globItems glob) source ↔ Names glob source := by
  fun_induction globItems glob generalizing source with
  | case1 => exact generates_nil_iff.trans Names.nil_iff.symm
  | case2 rest inductionHypothesis =>
      rw [generates_cons_iff, Names.doubleStar_iff]
      simp only [Item.Covers, bne_iff_ne, inductionHypothesis]
  | case3 rest alone inductionHypothesis =>
      rw [generates_cons_iff, Names.star_iff alone]
      simp only [Item.Covers, not_isSeparator_iff, inductionHypothesis]
  | case4 rest inductionHypothesis =>
      rw [generates_one_cons_iff, Names.question_iff]
      simp only [not_isSeparator_iff, inductionHypothesis]
  | case5 c rest _ notStar notQuestion inductionHypothesis =>
      rw [generates_one_cons_iff, Names.literal_iff ⟨notStar, notQuestion⟩]
      simp only [beq_iff_eq, inductionHypothesis]

/-! ## The written pattern -/

theorem spells_globBody (glob : List Char) :
    Spells (caseFlags false) (globBody glob) (globParts glob) := by
  fun_induction globBody glob with
  | case1 => exact .nil _
  | case2 rest inductionHypothesis =>
      exact (spells_anyWithinLine false).append inductionHypothesis
  | case3 rest alone inductionHypothesis =>
      rw [globParts]
      · exact spells_anyWithinPart.append inductionHypothesis
      · exact alone
  | case4 rest inductionHypothesis =>
      exact spells_withinPart.append inductionHypothesis
  | case5 c rest notDouble notStar notQuestion inductionHypothesis =>
      rw [globParts]
      · exact (spells_escape false c).append inductionHypothesis
      · exact notDouble
      · exact notStar
      · exact notQuestion

/-- A row of parts between the ends of a text matches if it matches the whole text. -/
theorem occurs_between_ends_iff {parts : List Expr} {text : List Char} :
    (inSequence (.look .textStart :: parts ++ [.look .textEnd])).Occurs text ↔
      (inSequence parts).Spans [] text [] := by
  constructor
  · rintro ⟨before, _, after, rfl, spans⟩
    obtain ⟨_, middle, rfl, ⟨rfl, atStart⟩, spans⟩ := spans
    obtain ⟨_, _, rfl, spans, spansEnd⟩ := spans_inSequence_append.mp spans
    rw [spans_inSequence_singleton] at spansEnd
    obtain ⟨rfl, atEnd⟩ := spansEnd
    obtain rfl := List.getLast?_eq_none_iff.mp (Option.isNone_iff_eq_none.mp atStart)
    obtain rfl := List.head?_eq_none_iff.mp (Option.isNone_iff_eq_none.mp atEnd)
    simpa using spans
  · intro spans
    refine ⟨[], text, [], (List.append_nil text).symm, [], text, rfl, ⟨rfl, rfl⟩, ?_⟩
    refine spans_inSequence_append.mpr ⟨text, [], (List.append_nil text).symm, spans, ?_⟩
    rw [spans_inSequence_singleton]
    exact ⟨rfl, rfl⟩

theorem exists_globPattern (glob : List Char) :
    ∃ expr, (Pattern.read (globPattern glob) >>= Expr.ofPattern) = .ok expr ∧
      ∀ source, expr.Occurs source ↔ Names glob source := by
  have spells := ((spells_caret false).append (spells_globBody glob)).append (spells_dollar false)
  obtain ⟨expr, read_eq, spans⟩ := spells.exists_ofPattern
  refine ⟨expr, read_eq, fun source => ?_⟩
  rw [Expr.Occurs, spans]
  calc (inSequence (.look .textStart :: globParts glob ++ [.look .textEnd])).Occurs source
    _ ↔ (inSequence (globParts glob)).Spans [] source [] := occurs_between_ends_iff
    _ ↔ Generates (globItems glob) source :=
        spans_inSequence_iff_generates (forall₂_renders_globItems glob)
    _ ↔ Names glob source := generates_globItems_iff

/-- A glob matches exactly the sources that it names, and so does its written pattern. -/
theorem glob_matches_what_it_names (glob source : String) :
    (globMatches glob source = true ↔ Names glob.toList source.toList) ∧
      ∃ expr, (Pattern.read (globPattern glob.toList) >>= Expr.ofPattern) = .ok expr ∧
        (expr.Occurs source.toList ↔ Names glob.toList source.toList) := by
  obtain ⟨expr, read_eq, occurs_iff⟩ := exists_globPattern glob.toList
  exact ⟨coversAll_iff.trans generates_globItems_iff, expr, read_eq, occurs_iff source.toList⟩

example : globPattern "a.b***?".toList = "^a\\.b.*[^/\\\\]*[^/\\\\]$".toList := by rfl

end LogQuery.Wildcard
