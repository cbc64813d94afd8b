import LogQuery.Proofs.Query.Search.Reader
import Mathlib.Computability.Language

/-!
# The language of searches

Whether tokens make a search depends on their kinds alone, and the kinds of searches form a regular
language, `SearchLanguage.search`.  `Spells` says besides which clauses the tokens spell; it is the
same grammar, so tokens spell some clauses exactly if their kinds belong to the language.
-/

namespace LogQuery.Query

open scoped Computability

/-! ## Kinds -/

namespace SearchLanguage

/-- One token of a kind. -/
def one (kind : TokenKind) : Language TokenKind := {[kind]}

def blanks : Language TokenKind := (one .blank)∗

def value : Language TokenKind := one .word + one .quoted

/-- Further values, each behind a comma. -/
def more : Language TokenKind := (one .comma * blanks * value * blanks)∗

/-- Values in parentheses, with commas between them and none behind the last. -/
def list : Language TokenKind :=
  one .openParen * blanks * one .closeParen +
    one .openParen * blanks * value * blanks * more * one .closeParen

/-- One clause.  A comparison sign stands directly behind its field. -/
def clause : Language TokenKind :=
  value + one .notKeyword * blanks * value + value * one .equals * blanks * value +
    value * one .notEquals * blanks * value + value * blanks * one .inKeyword * blanks * list +
    value * blanks * one .notKeyword * blanks * one .inKeyword * blanks * list

/-- Clauses, each with the white space behind it. -/
def clauses : Language TokenKind := (clause * blanks)∗

/-- Clauses with white space before, between and behind them. -/
def search : Language TokenKind := blanks * clauses

end SearchLanguage

/-! ## What tokens spell -/

/-- White space only. -/
def AllBlank (tokens : List Token) : Prop :=
  ∀ token ∈ tokens, token.isBlank = true

/-- Further values, each behind a comma. -/
inductive SpellsMore : List Token → List String → Prop where
  | nil : SpellsMore [] []
  | cons {comma value : Token} {before after rest : List Token} {values : List String}
      (isComma : comma.kind = .comma) (blankBefore : AllBlank before)
      (isValue : value.isValue = true) (blankAfter : AllBlank after)
      (spelled : SpellsMore rest values) :
      SpellsMore ([comma] ++ before ++ [value] ++ after ++ rest) (value.text :: values)

/-- The values of a list in parentheses. -/
inductive SpellsList : List Token → List String → Prop where
  | empty {opening closing : Token} {blanks : List Token} (opens : opening.kind = .openParen)
      (blank : AllBlank blanks) (closes : closing.kind = .closeParen) :
      SpellsList ([opening] ++ blanks ++ [closing]) []
  | values {opening value closing : Token} {before after more : List Token}
      {values : List String} (opens : opening.kind = .openParen) (blankBefore : AllBlank before)
      (isValue : value.isValue = true) (blankAfter : AllBlank after)
      (spelled : SpellsMore more values) (closes : closing.kind = .closeParen) :
      SpellsList ([opening] ++ before ++ [value] ++ after ++ more ++ [closing])
        (value.text :: values)

/-- One clause. -/
inductive SpellsClause : List Token → Clause → Prop where
  | fragment {word : Token} (isValue : word.isValue = true) :
      SpellsClause [word] (.fragment word.text)
  | notFragment {negation value : Token} {blanks : List Token}
      (isNot : negation.kind = .notKeyword) (blank : AllBlank blanks)
      (isValue : value.isValue = true) :
      SpellsClause ([negation] ++ blanks ++ [value]) (.notFragment value.text)
  | equals {field sign value : Token} {blanks : List Token} (isField : field.isValue = true)
      (isSign : sign.kind = .equals) (blank : AllBlank blanks) (isValue : value.isValue = true) :
      SpellsClause ([field] ++ [sign] ++ blanks ++ [value]) (.equals field.text value.text)
  | notEquals {field sign value : Token} {blanks : List Token} (isField : field.isValue = true)
      (isSign : sign.kind = .notEquals) (blank : AllBlank blanks)
      (isValue : value.isValue = true) :
      SpellsClause ([field] ++ [sign] ++ blanks ++ [value]) (.notEquals field.text value.text)
  | oneOf {field keyword : Token} {before after list : List Token} {values : List String}
      (isField : field.isValue = true) (blankBefore : AllBlank before)
      (isIn : keyword.kind = .inKeyword) (blankAfter : AllBlank after)
      (spelled : SpellsList list values) :
      SpellsClause ([field] ++ before ++ [keyword] ++ after ++ list) (.oneOf field.text values)
  | noneOf {field negation keyword : Token} {before between after list : List Token}
      {values : List String} (isField : field.isValue = true) (blankBefore : AllBlank before)
      (isNot : negation.kind = .notKeyword) (blankBetween : AllBlank between)
      (isIn : keyword.kind = .inKeyword) (blankAfter : AllBlank after)
      (spelled : SpellsList list values) :
      SpellsClause ([field] ++ before ++ [negation] ++ between ++ [keyword] ++ after ++ list)
        (.noneOf field.text values)

/-- Clauses, each with the white space behind it. -/
inductive SpellsClauses : List Token → List Clause → Prop where
  | nil : SpellsClauses [] []
  | cons {written blanks rest : List Token} {clause : Clause} {clauses : List Clause}
      (spelled : SpellsClause written clause) (blank : AllBlank blanks)
      (others : SpellsClauses rest clauses) :
      SpellsClauses (written ++ blanks ++ rest) (clause :: clauses)

/-- Clauses with white space before, between and behind them. -/
inductive Spells : List Token → List Clause → Prop where
  | behind {blanks rest : List Token} {clauses : List Clause} (blank : AllBlank blanks)
      (spelled : SpellsClauses rest clauses) : Spells (blanks ++ rest) clauses

/-! ## Tokens of a language of kinds -/

section Kinds

variable {tokens : List Token} {first second : Language TokenKind} {kind : TokenKind}

theorem map_kind_mem_mul_iff :
    tokens.map (·.kind) ∈ first * second ↔
      ∃ before behind, before.map (·.kind) ∈ first ∧ behind.map (·.kind) ∈ second ∧
        tokens = before ++ behind := by
  rw [Language.mem_mul]
  constructor
  · rintro ⟨_, memberFirst, _, memberSecond, joined⟩
    obtain ⟨before, behind, rfl, rfl, rfl⟩ := List.map_eq_append_iff.mp joined.symm
    exact ⟨before, behind, memberFirst, memberSecond, rfl⟩
  · rintro ⟨before, behind, memberFirst, memberSecond, rfl⟩
    exact ⟨_, memberFirst, _, memberSecond, List.map_append.symm⟩

theorem map_kind_mem_kstar_iff :
    tokens.map (·.kind) ∈ first∗ ↔
      ∃ parts : List (List Token), (∀ part ∈ parts, part.map (·.kind) ∈ first) ∧
        tokens = parts.flatten := by
  rw [Language.mem_kstar]
  constructor
  · rintro ⟨words, joined, members⟩
    induction words generalizing tokens with
    | nil => exact ⟨[], by simp, List.map_eq_nil_iff.mp joined⟩
    | cons word words inductionHypothesis =>
        obtain ⟨part, behind, rfl, rfl, joinedBehind⟩ := List.map_eq_append_iff.mp joined
        rw [List.forall_mem_cons] at members
        obtain ⟨parts, partMembers, rfl⟩ := inductionHypothesis joinedBehind members.2
        exact ⟨part :: parts, List.forall_mem_cons.mpr ⟨members.1, partMembers⟩, rfl⟩
  · rintro ⟨parts, members, rfl⟩
    refine ⟨parts.map (List.map (·.kind)), List.map_flatten, ?_⟩
    intro word member
    obtain ⟨part, partMember, rfl⟩ := List.mem_map.mp member
    exact members part partMember

theorem map_kind_mem_one_iff :
    tokens.map (·.kind) ∈ SearchLanguage.one kind ↔
      ∃ token, token.kind = kind ∧ tokens = [token] := by
  refine List.map_eq_singleton_iff.trans ?_
  simp only [and_comm]

theorem map_kind_mem_value_iff :
    tokens.map (·.kind) ∈ SearchLanguage.value ↔
      ∃ token, token.isValue = true ∧ tokens = [token] := by
  rw [SearchLanguage.value, Language.mem_add, map_kind_mem_one_iff, map_kind_mem_one_iff]
  constructor
  · rintro (⟨token, kind_eq, rfl⟩ | ⟨token, kind_eq, rfl⟩)
    · exact ⟨token, by rw [Token.isValue, kind_eq]; rfl, rfl⟩
    · exact ⟨token, by rw [Token.isValue, kind_eq]; rfl, rfl⟩
  · rintro ⟨token, isValue, rfl⟩
    cases kind_eq : token.kind with
    | word => exact .inl ⟨token, kind_eq, rfl⟩
    | quoted => exact .inr ⟨token, kind_eq, rfl⟩
    | blank | equals | notEquals | openParen | closeParen | pipe | comma | inKeyword | notKeyword |
      endOfInput =>
        rw [Token.isValue, kind_eq] at isValue
        cases isValue

theorem map_kind_mem_blanks_iff :
    tokens.map (·.kind) ∈ SearchLanguage.blanks ↔ AllBlank tokens := by
  rw [SearchLanguage.blanks, map_kind_mem_kstar_iff]
  constructor
  · rintro ⟨parts, members, rfl⟩ token member
    obtain ⟨part, partMember, member⟩ := List.mem_flatten.mp member
    obtain ⟨blank, isBlank, rfl⟩ := map_kind_mem_one_iff.mp (members part partMember)
    obtain rfl := List.mem_singleton.mp member
    exact beq_iff_eq.mpr isBlank
  · intro blank
    refine ⟨tokens.map ([·]), ?_, (List.flatMap_singleton' tokens).symm⟩
    intro part partMember
    obtain ⟨token, member, rfl⟩ := List.mem_map.mp partMember
    exact map_kind_mem_one_iff.mpr ⟨token, eq_of_beq (blank token member), rfl⟩

end Kinds

/-! ## The two grammars are one -/

section Grammar

variable {tokens : List Token}

theorem map_kind_mem_more_iff :
    tokens.map (·.kind) ∈ SearchLanguage.more ↔ ∃ values, SpellsMore tokens values := by
  rw [SearchLanguage.more, map_kind_mem_kstar_iff]
  simp only [map_kind_mem_mul_iff, map_kind_mem_one_iff, map_kind_mem_value_iff,
    map_kind_mem_blanks_iff]
  constructor
  · rintro ⟨parts, members, rfl⟩
    induction parts with
    | nil => exact ⟨[], .nil⟩
    | cons part parts inductionHypothesis =>
        rw [List.forall_mem_cons] at members
        obtain ⟨values, spelled⟩ := inductionHypothesis members.2
        obtain ⟨_, after, ⟨_, _, ⟨_, before, ⟨comma, isComma, rfl⟩, blankBefore, rfl⟩,
          ⟨value, isValue, rfl⟩, rfl⟩, blankAfter, rfl⟩ := members.1
        exact ⟨value.text :: values, .cons isComma blankBefore isValue blankAfter spelled⟩
  · rintro ⟨values, spelled⟩
    induction spelled with
    | nil => exact ⟨[], by simp, rfl⟩
    | @cons comma value before after rest values isComma blankBefore isValue blankAfter spelled
        inductionHypothesis =>
        obtain ⟨parts, members, rfl⟩ := inductionHypothesis
        refine ⟨([comma] ++ before ++ [value] ++ after) :: parts, ?_, rfl⟩
        refine List.forall_mem_cons.mpr ⟨?_, members⟩
        exact ⟨_, after, ⟨_, _, ⟨_, before, ⟨comma, isComma, rfl⟩, blankBefore, rfl⟩,
          ⟨value, isValue, rfl⟩, rfl⟩, blankAfter, rfl⟩

theorem map_kind_mem_list_iff :
    tokens.map (·.kind) ∈ SearchLanguage.list ↔ ∃ values, SpellsList tokens values := by
  rw [SearchLanguage.list, Language.mem_add]
  simp only [map_kind_mem_mul_iff, map_kind_mem_one_iff, map_kind_mem_value_iff,
    map_kind_mem_blanks_iff, map_kind_mem_more_iff]
  constructor
  · rintro (empty | values)
    · obtain ⟨_, _, ⟨_, blanks, ⟨opening, opens, rfl⟩, blank, rfl⟩, ⟨closing, closes, rfl⟩, rfl⟩ :=
        empty
      exact ⟨[], .empty opens blank closes⟩
    · obtain ⟨_, _, ⟨_, more, ⟨_, after, ⟨_, _, ⟨_, before, ⟨opening, opens, rfl⟩, blankBefore,
        rfl⟩, ⟨value, isValue, rfl⟩, rfl⟩, blankAfter, rfl⟩, ⟨values, spelled⟩, rfl⟩,
        ⟨closing, closes, rfl⟩, rfl⟩ := values
      exact ⟨value.text :: values, .values opens blankBefore isValue blankAfter spelled closes⟩
  · rintro ⟨values, spelled⟩
    cases spelled with
    | empty opens blank closes =>
        exact .inl ⟨_, _, ⟨_, _, ⟨_, opens, rfl⟩, blank, rfl⟩, ⟨_, closes, rfl⟩, rfl⟩
    | values opens blankBefore isValue blankAfter spelled closes =>
        exact .inr ⟨_, _, ⟨_, _, ⟨_, _, ⟨_, _, ⟨_, _, ⟨_, opens, rfl⟩, blankBefore, rfl⟩,
          ⟨_, isValue, rfl⟩, rfl⟩, blankAfter, rfl⟩, ⟨_, spelled⟩, rfl⟩, ⟨_, closes, rfl⟩, rfl⟩

theorem map_kind_mem_clause_iff :
    tokens.map (·.kind) ∈ SearchLanguage.clause ↔ ∃ clause, SpellsClause tokens clause := by
  unfold SearchLanguage.clause
  simp only [Language.mem_add, map_kind_mem_mul_iff, map_kind_mem_one_iff, map_kind_mem_value_iff,
    map_kind_mem_blanks_iff, map_kind_mem_list_iff]
  constructor
  · rintro (((((fragment | notFragment) | equals) | notEquals) | oneOf) | noneOf)
    · obtain ⟨word, isValue, rfl⟩ := fragment
      exact ⟨_, .fragment isValue⟩
    · obtain ⟨_, _, ⟨_, blanks, ⟨negation, isNot, rfl⟩, blank, rfl⟩, ⟨value, isValue, rfl⟩, rfl⟩ :=
        notFragment
      exact ⟨_, .notFragment isNot blank isValue⟩
    · obtain ⟨_, _, ⟨_, blanks, ⟨_, _, ⟨field, isField, rfl⟩, ⟨sign, isSign, rfl⟩, rfl⟩, blank,
        rfl⟩, ⟨value, isValue, rfl⟩, rfl⟩ := equals
      exact ⟨_, .equals isField isSign blank isValue⟩
    · obtain ⟨_, _, ⟨_, blanks, ⟨_, _, ⟨field, isField, rfl⟩, ⟨sign, isSign, rfl⟩, rfl⟩, blank,
        rfl⟩, ⟨value, isValue, rfl⟩, rfl⟩ := notEquals
      exact ⟨_, .notEquals isField isSign blank isValue⟩
    · obtain ⟨_, list, ⟨_, after, ⟨_, _, ⟨_, before, ⟨field, isField, rfl⟩, blankBefore, rfl⟩,
        ⟨keyword, isIn, rfl⟩, rfl⟩, blankAfter, rfl⟩, ⟨values, spelled⟩, rfl⟩ := oneOf
      exact ⟨_, .oneOf isField blankBefore isIn blankAfter spelled⟩
    · obtain ⟨_, list, ⟨_, after, ⟨_, _, ⟨_, between, ⟨_, _, ⟨_, before, ⟨field, isField, rfl⟩,
        blankBefore, rfl⟩, ⟨negation, isNot, rfl⟩, rfl⟩, blankBetween, rfl⟩,
        ⟨keyword, isIn, rfl⟩, rfl⟩, blankAfter, rfl⟩, ⟨values, spelled⟩, rfl⟩ := noneOf
      exact ⟨_, .noneOf isField blankBefore isNot blankBetween isIn blankAfter spelled⟩
  · rintro ⟨clause, spelled⟩
    cases spelled with
    | fragment isValue => exact .inl (.inl (.inl (.inl (.inl ⟨_, isValue, rfl⟩))))
    | notFragment isNot blank isValue =>
        exact .inl (.inl (.inl (.inl (.inr
          ⟨_, _, ⟨_, _, ⟨_, isNot, rfl⟩, blank, rfl⟩, ⟨_, isValue, rfl⟩, rfl⟩))))
    | equals isField isSign blank isValue =>
        exact .inl (.inl (.inl (.inr ⟨_, _, ⟨_, _, ⟨_, _, ⟨_, isField, rfl⟩, ⟨_, isSign, rfl⟩, rfl⟩,
          blank, rfl⟩, ⟨_, isValue, rfl⟩, rfl⟩)))
    | notEquals isField isSign blank isValue =>
        exact .inl (.inl (.inr ⟨_, _, ⟨_, _, ⟨_, _, ⟨_, isField, rfl⟩, ⟨_, isSign, rfl⟩, rfl⟩,
          blank, rfl⟩, ⟨_, isValue, rfl⟩, rfl⟩))
    | oneOf isField blankBefore isIn blankAfter spelled =>
        exact .inl (.inr ⟨_, _, ⟨_, _, ⟨_, _, ⟨_, _, ⟨_, isField, rfl⟩, blankBefore, rfl⟩,
          ⟨_, isIn, rfl⟩, rfl⟩, blankAfter, rfl⟩, ⟨_, spelled⟩, rfl⟩)
    | noneOf isField blankBefore isNot blankBetween isIn blankAfter spelled =>
        exact .inr ⟨_, _, ⟨_, _, ⟨_, _, ⟨_, _, ⟨_, _, ⟨_, _, ⟨_, isField, rfl⟩, blankBefore, rfl⟩,
          ⟨_, isNot, rfl⟩, rfl⟩, blankBetween, rfl⟩, ⟨_, isIn, rfl⟩, rfl⟩, blankAfter, rfl⟩,
          ⟨_, spelled⟩, rfl⟩

theorem map_kind_mem_clauses_iff :
    tokens.map (·.kind) ∈ SearchLanguage.clauses ↔ ∃ clauses, SpellsClauses tokens clauses := by
  rw [SearchLanguage.clauses, map_kind_mem_kstar_iff]
  simp only [map_kind_mem_mul_iff, map_kind_mem_clause_iff, map_kind_mem_blanks_iff]
  constructor
  · rintro ⟨parts, members, rfl⟩
    induction parts with
    | nil => exact ⟨[], .nil⟩
    | cons part parts inductionHypothesis =>
        rw [List.forall_mem_cons] at members
        obtain ⟨clauses, others⟩ := inductionHypothesis members.2
        obtain ⟨written, blanks, ⟨clause, spelled⟩, blank, rfl⟩ := members.1
        exact ⟨clause :: clauses, .cons spelled blank others⟩
  · rintro ⟨clauses, spelled⟩
    induction spelled with
    | nil => exact ⟨[], by simp, rfl⟩
    | @cons written blanks rest clause clauses spelled blank others inductionHypothesis =>
        obtain ⟨parts, members, rfl⟩ := inductionHypothesis
        refine ⟨(written ++ blanks) :: parts, ?_, rfl⟩
        exact List.forall_mem_cons.mpr
          ⟨⟨written, blanks, ⟨clause, spelled⟩, blank, rfl⟩, members⟩

/-- Tokens spell some clauses exactly if their kinds belong to the language of searches. -/
theorem map_kind_mem_search_iff :
    tokens.map (·.kind) ∈ SearchLanguage.search ↔ ∃ clauses, Spells tokens clauses := by
  rw [SearchLanguage.search, map_kind_mem_mul_iff]
  simp only [map_kind_mem_blanks_iff, map_kind_mem_clauses_iff]
  constructor
  · rintro ⟨blanks, rest, blank, ⟨clauses, spelled⟩, rfl⟩
    exact ⟨clauses, .behind blank spelled⟩
  · rintro ⟨clauses, ⟨blank, spelled⟩⟩
    exact ⟨_, _, blank, ⟨clauses, spelled⟩, rfl⟩

end Grammar

end LogQuery.Query
