import LogQuery.Regex.Expr

/-!
# What regular expressions match

`Expr.Spans` says which parts of a text an expression matches, without a machine: a part is given by
the text before it, itself, and the text after it.  Preferences between alternatives do not matter
to it, and neither do groups.
-/

namespace LogQuery.Regex

/-- A relation between the text before a part, the part, and the text after it. -/
abbrev Language := List Char → List Char → List Char → Prop

/-- Matches of one language one after the other. -/
def Language.rounds (language : Language) : Nat → Language
  | 0, _, text, _ => text = []
  | count + 1, before, text, after =>
      ∃ front back, text = front ++ back ∧ language before front (back ++ after) ∧
        rounds language count (before ++ front) back after

namespace Expr

/-- The parts of texts that an expression matches. -/
def Spans : Expr → Language
  | .empty, _, text, _ => text = []
  | .one set, _, text, _ => ∃ c, text = [c] ∧ set.contains c = true
  | .look condition, before, text, after =>
      text = [] ∧ condition.holds before.getLast? after.head? = true
  | .concat first second, before, text, after =>
      ∃ front back, text = front ++ back ∧ first.Spans before front (back ++ after) ∧
        second.Spans (before ++ front) back after
  | .alt preferred other, before, text, after =>
      preferred.Spans before text after ∨ other.Spans before text after
  | .scope body, before, text, after => body.Spans before text after
  | .group _ _ body, before, text, after => body.Spans before text after
  | .repeats min max _ body, before, text, after =>
      ∃ count, min ≤ count ∧ (∀ bound ∈ max, count ≤ bound) ∧
        Language.rounds body.Spans count before text after

theorem spans_concat_empty (expr : Expr) : (concat .empty expr).Spans = expr.Spans := by
  funext before text after
  refine propext ⟨?_, fun spans => ⟨[], text, rfl, rfl, by rwa [List.append_nil]⟩⟩
  rintro ⟨_, back, rfl, rfl, spans⟩
  rwa [List.append_nil] at spans

theorem rounds_one_iff {set : CharSet} {count : Nat} {before text after : List Char} :
    Language.rounds (one set).Spans count before text after ↔
      text.length = count ∧ ∀ c ∈ text, set.contains c = true := by
  induction count generalizing before text with
  | zero =>
      refine ⟨?_, fun holds => List.length_eq_zero_iff.mp holds.1⟩
      rintro rfl
      exact ⟨rfl, fun _ member => absurd member List.not_mem_nil⟩
  | succ count inductionHypothesis =>
      constructor
      · rintro ⟨front, back, rfl, ⟨c, rfl, held⟩, behind⟩
        obtain ⟨length_eq, allHeld⟩ := inductionHypothesis.mp behind
        exact ⟨congrArg (· + 1) length_eq, List.forall_mem_cons.mpr ⟨held, allHeld⟩⟩
      · rintro ⟨length_eq, allHeld⟩
        cases text with
        | nil => cases length_eq
        | cons c rest =>
            obtain ⟨held, heldBehind⟩ := List.forall_mem_cons.mp allHeld
            exact ⟨[c], rest, rfl, ⟨c, rfl, held⟩,
              inductionHypothesis.mpr ⟨Nat.succ.inj length_eq, heldBehind⟩⟩

/-- A character class any number of times matches the texts over the class. -/
theorem spans_repeats_one {set : CharSet} {greedy : Bool} {before text after : List Char} :
    (repeats 0 none greedy (one set)).Spans before text after ↔
      ∀ c ∈ text, set.contains c = true := by
  constructor
  · rintro ⟨count, -, -, inRounds⟩
    exact (rounds_one_iff.mp inRounds).2
  · intro allHeld
    exact ⟨text.length, Nat.zero_le _, fun _ bounded => absurd bounded (by simp),
      rounds_one_iff.mpr ⟨rfl, allHeld⟩⟩

/-- An expression matches somewhere in a text. -/
def Occurs (expr : Expr) (text : List Char) : Prop :=
  ∃ before middle after, text = before ++ middle ++ after ∧ expr.Spans before middle after

end Expr

end LogQuery.Regex
