import LogQuery.Extraction.FileParser
import Mathlib.Logic.Basic

/-!
# Merged types

The first type of a file decides how its events are taken apart.  Of the types behind it those of
the same kind add their patterns, those called `DEFAULT` that are of the other kind add nothing, and
any other makes the types clash.  So `DEFAULT` gives way wherever it stands but at the front: there
it clashes with types that agree among themselves.
-/

namespace LogQuery

open Config

/-- The two ways of taking texts apart. -/
inductive ParserKind where
  | regex
  | json
  deriving Repr, DecidableEq

namespace Config.FileType

/-- How the type takes texts apart. -/
def kind (type : FileType) : ParserKind :=
  match type.parser with
  | .regex _ _ _ => .regex
  | .json _ _ => .json

/-- The patterns of a type that looks for them. -/
def patterns (type : FileType) : List String :=
  match type.parser with
  | .regex _ patterns _ => patterns
  | .json _ _ => []

/-- The type stands beside the first one of a file: it is of the same kind or gives way. -/
def Suits (type first : FileType) : Prop :=
  type.isDefault = true ∨ type.kind = first.kind

instance (type first : FileType) : Decidable (type.Suits first) :=
  inferInstanceAs (Decidable (_ ∨ _))

theorem suits_iff_of_kind_ne (type first : FileType) (different : type.kind ≠ first.kind) :
    type.Suits first ↔ type.isDefault = true :=
  or_iff_left different

theorem not_suits_iff {type first : FileType} :
    ¬type.Suits first ↔ type.isDefault = false ∧ type.kind ≠ first.kind := by
  rw [Suits, not_or, Bool.not_eq_true]

/-- Two of the types, neither of which is called `DEFAULT`, are of different kinds. -/
def Disagree (types : List FileType) : Prop :=
  ∃ type ∈ types, ∃ other ∈ types,
    type.isDefault = false ∧ other.isDefault = false ∧ type.kind ≠ other.kind

instance (types : List FileType) : Decidable (Disagree types) :=
  inferInstanceAs (Decidable (∃ type ∈ types, ∃ other ∈ types, _))

end Config.FileType

namespace Extraction

/-- How the parser takes texts apart. -/
def FileParser.kind (parser : FileParser) : ParserKind :=
  match parser.method with
  | .regex _ => .regex
  | .json => .json

/-- What types come to that suit the first one: they are read as the first one is, with the patterns
of them all. -/
def FileParser.ofTypes (first : FileType) (others : List FileType) : FileParser where
  method :=
    match first.kind with
    | .regex => .regex (compilable ((first :: others).flatMap FileType.patterns))
    | .json => .json
  timeField := first.parser.timeField

variable {file : String} {first type : FileType} {others : List FileType}

theorem compilable_cons_of_ok {pattern : String} {patterns : List String} {regex : Regex}
    (compiled : Regex.compile pattern = .ok regex) :
    compilable (pattern :: patterns) = regex :: compilable patterns :=
  List.filterMap_cons_some (congrArg Except.toOption compiled)

theorem compilable_cons_of_error {pattern : String} {patterns : List String}
    {reason : Regex.PatternError} (compiled : Regex.compile pattern = .error reason) :
    compilable (pattern :: patterns) = compilable patterns :=
  List.filterMap_cons_none (congrArg Except.toOption compiled)

theorem compilable_append (patterns others : List String) :
    compilable (patterns ++ others) = compilable patterns ++ compilable others :=
  List.filterMap_append

namespace FileParser

theorem kind_ofTypes (first : FileType) (others : List FileType) :
    (ofTypes first others).kind = first.kind := by
  rw [kind, ofTypes]
  cases first.kind with
  | regex | json => rfl

theorem ofFileType_eq (first : FileType) : ofFileType first = ofTypes first [] := by
  obtain ⟨name, layout, parser⟩ := first
  cases parser with
  | regex delimiter patterns timeField =>
      change _ = FileParser.mk (.regex (compilable (patterns ++ []))) timeField
      rw [List.append_nil]
      rfl
  | json delimiter timeField => rfl

theorem ofTypes_of_regex (isRegex : first.kind = .regex) :
    ofTypes first others =
      ⟨.regex (compilable ((first :: others).flatMap FileType.patterns)),
        first.parser.timeField⟩ := by
  rw [ofTypes, isRegex]

theorem ofTypes_of_json (isJson : first.kind = .json) :
    ofTypes first others = ⟨.json, first.parser.timeField⟩ := by
  rw [ofTypes, isJson]

/-- A type without patterns adds nothing. -/
theorem ofTypes_concat_of_patterns_eq_nil (none : type.patterns = []) :
    ofTypes first (others ++ [type]) = ofTypes first others := by
  simp only [ofTypes, List.flatMap_cons, List.flatMap_append, none, List.flatMap_nil,
    List.append_nil]

/-- One more type is merged into a parser exactly if it suits the first type. -/
theorem add_ofTypes (file : String) (first : FileType) (others : List FileType) (type : FileType) :
    add file (ofTypes first others) type =
      if type.Suits first then .ok (ofTypes first (others ++ [type]))
      else .error (.mixedKinds file) := by
  obtain ⟨name, layout, parser⟩ := type
  cases firstKind : first.kind with
  | regex =>
      cases parser with
      | regex delimiter patterns timeField =>
          rw [if_pos (.inr firstKind.symm), ofTypes_of_regex firstKind, ofTypes_of_regex firstKind,
            add, ← List.cons_append, List.flatMap_append, List.flatMap_singleton,
            compilable_append]
          rfl
      | json delimiter timeField =>
          have suits_iff := FileType.suits_iff_of_kind_ne
            ⟨name, layout, .json delimiter timeField⟩ first (firstKind ▸ nofun)
          rw [ofTypes_concat_of_patterns_eq_nil rfl, if_congr suits_iff rfl rfl,
            ofTypes_of_regex firstKind]
          rfl
  | json =>
      cases parser with
      | regex delimiter patterns timeField =>
          have suits_iff := FileType.suits_iff_of_kind_ne
            ⟨name, layout, .regex delimiter patterns timeField⟩ first (firstKind ▸ nofun)
          rw [if_congr suits_iff rfl rfl, ofTypes_of_json firstKind, ofTypes_of_json firstKind]
          rfl
      | json delimiter timeField =>
          rw [if_pos (.inr firstKind.symm), ofTypes_of_json firstKind, ofTypes_of_json firstKind]
          rfl

theorem foldlM_add_ofTypes (file : String) (first : FileType) (added others : List FileType) :
    others.foldlM (add file) (ofTypes first added) =
      if ∀ other ∈ others, other.Suits first then .ok (ofTypes first (added ++ others))
      else .error (.mixedKinds file) := by
  induction others generalizing added with
  | nil =>
      rw [if_pos (by simp), List.append_nil]
      rfl
  | cons other others inductionHypothesis =>
      rw [List.foldlM_cons, add_ofTypes]
      by_cases suits : other.Suits first
      · have all_iff : (∀ type ∈ other :: others, type.Suits first) ↔
            ∀ type ∈ others, type.Suits first := by
          rw [List.forall_mem_cons, and_iff_right suits]
        rw [if_pos suits, if_congr all_iff rfl rfl, List.append_cons added other others]
        exact inductionHypothesis (added ++ [other])
      · rw [if_neg suits, if_neg fun all => suits (all other List.mem_cons_self)]
        rfl

/-- Types are merged exactly if all of them suit the first one. -/
theorem merge_cons (file : String) (first : FileType) (others : List FileType) :
    merge file (first :: others) =
      if ∀ other ∈ others, other.Suits first then .ok (ofTypes first others)
      else .error (.mixedKinds file) := by
  rw [merge, ofFileType_eq, foldlM_add_ofTypes, List.nil_append]

theorem merge_cons_eq_ok_iff {parser : FileParser} :
    merge file (first :: others) = .ok parser ↔
      (∀ other ∈ others, other.Suits first) ∧ parser = ofTypes first others := by
  rw [merge_cons]
  split
  · next suit => simpa [eq_comm] using fun _ => suit
  · next clash => simp [clash]

theorem merge_cons_eq_error_iff {error : MergeError} :
    merge file (first :: others) = .error error ↔
      (∃ other ∈ others, ¬other.Suits first) ∧ error = .mixedKinds file := by
  rw [merge_cons]
  split
  · next suit => simpa using fun other member clash => absurd (suit other member) clash
  · next clash =>
      simp only [not_forall, exists_prop] at clash
      simp [clash, eq_comm]

/-- Some type does not suit the first one if types that are not called `DEFAULT` disagree, or if the
first one is called so and stands against one that is not. -/
theorem exists_not_suits_iff :
    (∃ other ∈ others, ¬other.Suits first) ↔
      FileType.Disagree (first :: others) ∨ first.isDefault = true ∧
        ∃ other ∈ others, other.isDefault = false ∧ other.kind ≠ first.kind := by
  simp only [FileType.not_suits_iff]
  constructor
  · rintro ⟨other, behind, notDefault, otherKind⟩
    cases leads : first.isDefault with
    | true => exact .inr ⟨rfl, other, behind, notDefault, otherKind⟩
    | false =>
        exact .inl ⟨other, List.mem_cons_of_mem first behind, first, List.mem_cons_self,
          notDefault, leads, otherKind⟩
  · rintro (⟨type, member, other, otherMember, notDefault, otherNotDefault, differ⟩ |
      ⟨-, other, behind, notDefault, otherKind⟩)
    -- Types of different kinds cannot both be of the kind of the first one.
    · by_cases same : type.kind = first.kind
      · have otherKind : other.kind ≠ first.kind :=
          fun sameToo => differ (same.trans sameToo.symm)
        have behind := (List.mem_cons.mp otherMember).resolve_left
          fun isFirst => otherKind (isFirst ▸ rfl)
        exact ⟨other, behind, otherNotDefault, otherKind⟩
      · have behind := (List.mem_cons.mp member).resolve_left fun isFirst => same (isFirst ▸ rfl)
        exact ⟨type, behind, notDefault, same⟩
    · exact ⟨other, behind, notDefault, otherKind⟩

/-- Merging fails exactly if types that are not called `DEFAULT` disagree, or if the first type is
called so and stands against one that is not.  A parser that comes out is of the kind of every type
that is not called `DEFAULT`. -/
theorem merge_fails_iff (file : String) (first : FileType) (others : List FileType) :
    let types := first :: others
    ((∃ error, merge file types = .error error) ↔
        FileType.Disagree types ∨ first.isDefault = true ∧
          ∃ other ∈ others, other.isDefault = false ∧ other.kind ≠ first.kind) ∧
      (∀ error, merge file types = .error error → error = .mixedKinds file) ∧
      ∀ parser, merge file types = .ok parser →
        ∀ type ∈ types, type.isDefault = false → parser.kind = type.kind := by
  intro types
  refine ⟨?_, ?_, ?_⟩
  · simp only [types, merge_cons_eq_error_iff, exists_and_left, exists_eq, and_true]
    exact exists_not_suits_iff
  · intro error fails
    exact (merge_cons_eq_error_iff.mp fails).2
  · intro parser merged type member notDefault
    obtain ⟨suit, rfl⟩ := merge_cons_eq_ok_iff.mp merged
    rw [kind_ofTypes]
    rcases List.mem_cons.mp member with rfl | behind
    · rfl
    · have notYielding : ¬type.isDefault = true := by simp [notDefault]
      exact ((suit type behind).resolve_left notYielding).symm

/-- Behind a type that takes texts apart as JSON the builtin type gives way, in front of it it does
not, though no two types disagree. -/
theorem leading_default_does_not_yield :
    let json : FileType := ⟨"j", defaultTimeLayout, .json defaultDelimiter defaultTimeField⟩
    merge "f" [json, .builtin] = .ok ⟨.json, defaultTimeField⟩ ∧
      merge "f" [.builtin, json] = .error (.mixedKinds "f") ∧
      ¬FileType.Disagree [.builtin, json] := by
  intro json
  exact ⟨rfl, rfl, by decide⟩

end FileParser

end Extraction

end LogQuery
