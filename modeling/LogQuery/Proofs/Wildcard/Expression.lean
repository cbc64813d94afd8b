import LogQuery.Proofs.Regex.Meaning
import LogQuery.Proofs.Text.CaseFold
import LogQuery.Proofs.Wildcard.Sequence
import LogQuery.Wildcard.Fragment
import LogQuery.Wildcard.Glob
import LogQuery.Wildcard.Limit

/-!
# What the expressions of wildcards match

The expression of a wildcard is a row of parts, and a part that stands for an item matches exactly
the texts that the item covers.
-/

namespace LogQuery.Wildcard

open LogQuery.Regex LogQuery.Text

variable {part : Expr} {parts others : List Expr} {before text after : List Char}

/-! ## Rows of parts -/

theorem spans_inSequence_singleton (part : Expr) : (inSequence [part]).Spans = part.Spans := by
  funext before text after
  refine propext ⟨?_, fun spans => ⟨text, [], (List.append_nil text).symm, ?_, rfl⟩⟩
  · rintro ⟨front, _, rfl, spans, rfl⟩
    rwa [List.append_nil]
  · exact spans

theorem spans_inSequence_append :
    (inSequence (parts ++ others)).Spans before text after ↔
      ∃ front back, text = front ++ back ∧ (inSequence parts).Spans before front (back ++ after) ∧
        (inSequence others).Spans (before ++ front) back after := by
  induction parts generalizing before text with
  | nil =>
      constructor
      · intro spans
        exact ⟨[], text, rfl, rfl, by rwa [List.append_nil]⟩
      · rintro ⟨_, back, rfl, rfl, spans⟩
        rwa [List.append_nil] at spans
  | cons part parts inductionHypothesis =>
      constructor
      · rintro ⟨first, rest, rfl, spansFirst, spansRest⟩
        obtain ⟨middle, back, rfl, spansMiddle, spansBack⟩ := inductionHypothesis.mp spansRest
        refine ⟨first ++ middle, back, (List.append_assoc _ _ _).symm,
          ⟨first, middle, rfl, ?_, spansMiddle⟩, ?_⟩
        · rwa [← List.append_assoc]
        · rwa [← List.append_assoc]
      · rintro ⟨_, back, rfl, ⟨first, middle, rfl, spansFirst, spansMiddle⟩, spansBack⟩
        refine ⟨first, middle ++ back, List.append_assoc _ _ _, ?_,
          inductionHypothesis.mpr ⟨middle, back, rfl, spansMiddle, ?_⟩⟩
        · rwa [List.append_assoc]
        · rwa [List.append_assoc]

/-- Wherever it stands, a part matches the texts that an item covers. -/
def Renders (part : Expr) (item : Item) : Prop :=
  ∀ before text after, part.Spans before text after ↔ item.Covers text

/-- Parts that match what items cover match together what the items stand for. -/
theorem spans_inSequence_iff_generates {items : List Item}
    (renders : List.Forall₂ Renders parts items) :
    (inSequence parts).Spans before text after ↔ Generates items text := by
  induction renders generalizing before text with
  | nil => exact generates_nil_iff.symm
  | cons here _ inductionHypothesis =>
      rw [generates_cons_iff]
      exact exists_congr fun front => exists_congr fun back =>
        and_congr_right' (and_congr (here _ _ _) inductionHypothesis)

/-! ## Parts -/

section Sets

variable {set : CharSet} {accepts : Char → Bool} (same : ∀ c, set.contains c = accepts c)

include same

theorem renders_one : Renders (.one set) (.one accepts) :=
  fun _ _ _ => exists_congr fun c => by rw [same]

theorem renders_many : Renders (anyNumber set) (.many accepts) := by
  intro before text after
  rw [anyNumber, Expr.spans_repeats_one, Item.Covers]
  simp only [same]

end Sets

theorem contains_withinLine (c : Char) : withinLine.contains c = (c != '\n') := by
  rw [withinLine, CharSet.contains, bne, Bool.not_inj_iff, Bool.eq_iff_iff,
    CharSet.contains_single, beq_iff_eq]

theorem contains_withinPart (c : Char) : withinPart.contains c = !isSeparator c := by
  rw [withinPart, CharSet.contains, CharSet.contains, isSeparator, Bool.not_inj_iff,
    Bool.eq_iff_iff, Bool.or_eq_true, Bool.or_eq_true, CharSet.contains_single,
    CharSet.contains_single, beq_iff_eq, beq_iff_eq]

theorem contains_single_eq (member c : Char) :
    (CharSet.single member).contains c = (c == member) := by
  rw [Bool.eq_iff_iff, CharSet.contains_single, beq_iff_eq]

theorem contains_caseClosure_single (c d : Char) :
    (CharSet.caseClosure (.single c)).contains d = sameFold c d := by
  rw [CharSet.contains, Bool.eq_iff_iff, List.any_eq_true, ← mem_foldVariants_iff]
  simp only [CharSet.contains_single, exists_eq_right]

/-- One character of a fragment as an expression. -/
def fragmentPart (c : Char) : Expr :=
  if c == '*' then anyNumber withinLine else .one (.caseClosure (.single c))

/-- The parts of a fragment match what its items cover. -/
theorem forall₂_renders_fragmentItems (fragment : List Char) :
    List.Forall₂ Renders (fragment.map fragmentPart) (fragmentItems fragment) := by
  refine List.forall₂_map_left_iff.mpr <| List.forall₂_map_right_iff.mpr <|
    List.forall₂_same.mpr fun c _ => ?_
  rw [fragmentPart]
  split
  · exact renders_many contains_withinLine
  · exact renders_one (contains_caseClosure_single c)

/-- The parts of a glob match what its items cover. -/
theorem forall₂_renders_globItems (glob : List Char) :
    List.Forall₂ Renders (globParts glob) (globItems glob) := by
  fun_induction globParts glob with
  | case1 => exact .nil
  | case2 rest inductionHypothesis =>
      exact .cons (renders_many contains_withinLine) inductionHypothesis
  | case3 rest alone inductionHypothesis =>
      rw [globItems]
      · exact .cons (renders_many contains_withinPart) inductionHypothesis
      · exact alone
  | case4 rest inductionHypothesis =>
      exact .cons (renders_one contains_withinPart) inductionHypothesis
  | case5 c rest notDouble notStar notQuestion inductionHypothesis =>
      rw [globItems]
      · exact .cons (renders_one (contains_single_eq c)) inductionHypothesis
      · exact notDouble
      · exact notStar
      · exact notQuestion

end LogQuery.Wildcard
