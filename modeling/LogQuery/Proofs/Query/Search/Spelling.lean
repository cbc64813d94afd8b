import LogQuery.Proofs.Query.Search.Clauses
import LogQuery.Proofs.Query.Search.Language

/-!
# Reading is undoing the spelling

Reading tokens succeeds exactly if they spell a search, and it gives the clauses that they spell.
One word of context decides: behind a clause there is only white space, a value or a `NOT` with its
value, so that the reader, which looks past white space for `IN` and `NOT IN`, never takes what
belongs to the next clause.
-/

namespace LogQuery.Query

/-! ## White space -/

theorem allBlank_nil : AllBlank [] :=
  List.forall_mem_nil _

theorem exists_eq_append_skipBlanks (tokens : List Token) :
    ∃ blanks, AllBlank blanks ∧ tokens = blanks ++ skipBlanks tokens :=
  ⟨tokens.takeWhile Token.isBlank, fun _ member => List.mem_takeWhile_imp member,
    List.takeWhile_append_dropWhile.symm⟩

/-! ## Lists -/

section Lists

variable {finish : Stop} {state : ListState} {tokens left : List Token} {values : List String}

theorem readListItems_append {blanks : List Token} (blank : AllBlank blanks) (rest : List Token) :
    readListItems finish state (blanks ++ rest) = readListItems finish state rest := by
  induction blanks with
  | nil => rfl
  | cons token blanks inductionHypothesis =>
      obtain ⟨tokenBlank, othersBlank⟩ := List.forall_mem_cons.mp blank
      rw [List.cons_append, readListItems, if_pos tokenBlank]
      exact inductionHypothesis othersBlank

theorem readListItems_closing {closing : Token} (closes : closing.kind = .closeParen)
    (mayClose : state ≠ .value) :
    readListItems finish state (closing :: left) = .ok ([], left) := by
  have notBlank := Token.isBlank_eq_false_of_kind closes (by decide)
  rw [readListItems, if_neg (by simp [notBlank]), if_pos (by simp [closes, mayClose])]

theorem readListItems_value {value : Token} (isValue : value.isValue = true)
    (awaits : state ≠ .separator)
    (read : readListItems finish .separator tokens = .ok (values, left)) :
    readListItems finish state (value :: tokens) = .ok (value.text :: values, left) := by
  have notBlank := Token.isBlank_eq_false_of_isValue isValue
  have notClosing : value.kind ≠ .closeParen := by
    intro closes
    rw [Token.isValue, closes] at isValue
    cases isValue
  rw [readListItems, if_neg (by simp [notBlank]), if_neg (by simp [notClosing]),
    if_pos (by simp [isValue, awaits]), read]
  rfl

theorem readListItems_comma {comma : Token} (isComma : comma.kind = .comma) :
    readListItems finish .separator (comma :: tokens) = readListItems finish .value tokens := by
  have notBlank := Token.isBlank_eq_false_of_kind isComma (by decide)
  rw [readListItems, if_neg (by simp [notBlank]), if_neg (by simp [isComma]), if_neg (by simp),
    if_pos (by simp [isComma])]

/-- What is left of a list, up to its closing parenthesis, in each state of reading. -/
inductive ListRest : ListState → List Token → List String → Prop where
  | empty {blanks : List Token} {closing : Token} (blank : AllBlank blanks)
      (closes : closing.kind = .closeParen) : ListRest .opened (blanks ++ [closing]) []
  | value {state : ListState} {value : Token} {before rest : List Token} {values : List String}
      (awaits : state ≠ .separator) (blankBefore : AllBlank before)
      (isValue : value.isValue = true) (spelled : ListRest .separator rest values) :
      ListRest state (before ++ [value] ++ rest) (value.text :: values)
  | more {after more : List Token} {closing : Token} {values : List String}
      (blankAfter : AllBlank after) (spelled : SpellsMore more values)
      (closes : closing.kind = .closeParen) :
      ListRest .separator (after ++ more ++ [closing]) values

theorem ListRest.cons_of_isBlank {token : Token} (blank : token.isBlank = true)
    (rest : ListRest state tokens values) : ListRest state (token :: tokens) values := by
  cases rest with
  | empty othersBlank closes => exact .empty (List.forall_mem_cons.mpr ⟨blank, othersBlank⟩) closes
  | value awaits othersBlank isValue spelled =>
      exact .value awaits (List.forall_mem_cons.mpr ⟨blank, othersBlank⟩) isValue spelled
  | more othersBlank spelled closes =>
      exact .more (List.forall_mem_cons.mpr ⟨blank, othersBlank⟩) spelled closes

theorem exists_listRest_of_readListItems
    (read : readListItems finish state tokens = .ok (values, left)) :
    ∃ written, ListRest state written values ∧ tokens = written ++ left := by
  fun_induction readListItems finish state tokens generalizing values left with
  | case1 => cases read
  | case2 state token rest blank inductionHypothesis =>
      obtain ⟨written, spelled, rfl⟩ := inductionHypothesis read
      exact ⟨token :: written, spelled.cons_of_isBlank blank, rfl⟩
  | case3 state closing rest notBlank closes =>
      cases read
      rw [Bool.and_eq_true, beq_iff_eq] at closes
      refine ⟨[closing], ?_, rfl⟩
      cases state with
      | opened => exact .empty allBlank_nil closes.1
      | value => cases closes.2
      | separator => exact .more allBlank_nil .nil closes.1
  | case4 state value rest notBlank notClosing isValue inductionHypothesis =>
      rw [Bool.and_eq_true, bne_iff_ne] at isValue
      obtain ⟨⟨others, left'⟩, readOthers, made⟩ := bind_eq_ok.mp read
      cases made
      obtain ⟨written, spelled, rfl⟩ := inductionHypothesis readOthers
      refine ⟨[] ++ [value] ++ written, ?_, rfl⟩
      exact .value isValue.2 allBlank_nil isValue.1 spelled
  | case5 state comma rest notBlank notClosing notValue separates inductionHypothesis =>
      rw [Bool.and_eq_true, beq_iff_eq, beq_iff_eq] at separates
      obtain ⟨isComma, rfl⟩ := separates
      obtain ⟨_, spelled, rfl⟩ := inductionHypothesis read
      cases spelled with
      | @value _ value before rest values _ blankBefore isValue spelled =>
          cases spelled with
          | value awaits => exact absurd rfl awaits
          | @more after more closing _ blankAfter spelled closes =>
              have written := SpellsMore.cons isComma blankBefore isValue blankAfter spelled
              refine ⟨[] ++ ([comma] ++ before ++ [value] ++ after ++ more) ++ [closing],
                .more allBlank_nil written closes, ?_⟩
              simp
  | case6 => cases read

theorem readListItems_of_spellsMore {after more : List Token} {closing : Token}
    (blankAfter : AllBlank after) (spelled : SpellsMore more values)
    (closes : closing.kind = .closeParen) (left : List Token) :
    readListItems finish .separator (after ++ more ++ [closing] ++ left) = .ok (values, left) := by
  induction spelled generalizing after with
  | nil =>
      rw [List.append_nil, List.append_assoc, readListItems_append blankAfter]
      exact readListItems_closing closes (by decide)
  | @cons comma value before behind rest values isComma blankBefore isValue blankBehind spelled
      inductionHypothesis =>
      have read := readListItems_value isValue (by decide : ListState.value ≠ .separator)
        (inductionHypothesis blankBehind)
      have regroup :
          after ++ ([comma] ++ before ++ [value] ++ behind ++ rest) ++ [closing] ++ left =
            after ++ comma :: (before ++ value :: (behind ++ rest ++ [closing] ++ left)) := by
        simp
      rw [regroup, readListItems_append blankAfter, readListItems_comma isComma,
        readListItems_append blankBefore]
      exact read

/-- A list is read exactly if it is spelled, perhaps behind white space. -/
theorem readList_eq_ok_iff :
    readList finish tokens = .ok (values, left) ↔
      ∃ blanks list, AllBlank blanks ∧ SpellsList list values ∧
        tokens = blanks ++ list ++ left := by
  constructor
  · intro read
    obtain ⟨blanks, blank, tokens_eq⟩ := exists_eq_append_skipBlanks tokens
    unfold readList at read
    split at read
    · next opening rest skipped =>
        split at read
        · next opens =>
            rw [skipped] at tokens_eq
            obtain ⟨_, spelled, rfl⟩ := exists_listRest_of_readListItems read
            cases spelled with
            | empty blankInside closes =>
                refine ⟨blanks, _, blank, .empty (eq_of_beq opens) blankInside closes, ?_⟩
                rw [tokens_eq]
                simp
            | value _ blankBefore isValue spelled =>
                cases spelled with
                | value awaits => exact absurd rfl awaits
                | more blankAfter spelled closes =>
                    refine ⟨blanks, _, blank, .values (eq_of_beq opens) blankBefore isValue
                      blankAfter spelled closes, ?_⟩
                    rw [tokens_eq]
                    simp
        · cases read
    · cases read
  · rintro ⟨blanks, list, blank, spelled, rfl⟩
    cases spelled with
    | @empty opening closing inside opens blankInside closes =>
        have skipped := skipBlanks_append_cons blank
          (Token.isBlank_eq_false_of_kind opens (by decide)) (inside ++ closing :: left)
        have regroup : blanks ++ ([opening] ++ inside ++ [closing]) ++ left =
            blanks ++ opening :: (inside ++ closing :: left) := by
          simp
        rw [readList, regroup, skipped]
        dsimp only
        rw [if_pos (beq_iff_eq.mpr opens), readListItems_append blankInside]
        exact readListItems_closing closes (by decide)
    | @values opening value closing before after more values opens blankBefore isValue blankAfter
        spelled closes =>
        have skipped := skipBlanks_append_cons blank
          (Token.isBlank_eq_false_of_kind opens (by decide))
          (before ++ value :: (after ++ more ++ [closing] ++ left))
        have regroup : blanks ++
              ([opening] ++ before ++ [value] ++ after ++ more ++ [closing]) ++ left =
            blanks ++ opening :: (before ++ value :: (after ++ more ++ [closing] ++ left)) := by
          simp
        rw [readList, regroup, skipped]
        dsimp only
        rw [if_pos (beq_iff_eq.mpr opens), readListItems_append blankBefore]
        exact readListItems_value isValue (by decide)
          (readListItems_of_spellsMore blankAfter spelled closes left)

end Lists

/-! ## What follows a word -/

namespace Follower

/-- The tokens that begin with a follower of a word. -/
inductive Begins : Follower → List Token → Prop where
  | equals {sign : Token} {rest : List Token} (isSign : sign.kind = .equals) :
      Begins (.equals rest) (sign :: rest)
  | notEquals {sign : Token} {rest : List Token} (isSign : sign.kind = .notEquals) :
      Begins (.notEquals rest) (sign :: rest)
  | inList {keyword : Token} {before rest : List Token} (blankBefore : AllBlank before)
      (isIn : keyword.kind = .inKeyword) : Begins (.inList rest) (before ++ keyword :: rest)
  | notInList {negation keyword : Token} {before between rest : List Token}
      (blankBefore : AllBlank before) (isNot : negation.kind = .notKeyword)
      (blankBetween : AllBlank between) (isIn : keyword.kind = .inKeyword) :
      Begins (.notInList rest) (before ++ negation :: (between ++ keyword :: rest))

variable {tokens : List Token} {follower : Follower}

theorem begins_list (tokens : List Token) :
    list tokens = .other ∨ (list tokens).Begins tokens := by
  obtain ⟨before, blankBefore, tokens_eq⟩ := exists_eq_append_skipBlanks tokens
  unfold list
  split
  · next first rest skipped =>
      rw [skipped] at tokens_eq
      split
      · next isIn =>
          rw [tokens_eq]
          exact .inr (.inList blankBefore isIn)
      · next isNot =>
          obtain ⟨between, blankBetween, rest_eq⟩ := exists_eq_append_skipBlanks rest
          split
          · next second left skippedAgain =>
              rw [skippedAgain] at rest_eq
              split
              · next isIn =>
                  rw [tokens_eq, rest_eq]
                  exact .inr (.notInList blankBefore isNot blankBetween (eq_of_beq isIn))
              · exact .inl rfl
          · exact .inl rfl
      · exact .inl rfl
  · exact .inl rfl

theorem begins_ofTokens (tokens : List Token) :
    ofTokens tokens = .other ∨ (ofTokens tokens).Begins tokens := by
  unfold ofTokens
  split
  · next first rest =>
      split
      · next isSign => exact .inr (.equals isSign)
      · next isSign => exact .inr (.notEquals isSign)
      · exact begins_list (first :: rest)
  · exact .inl rfl

/-- White space in front hides a comparison sign. -/
theorem ofTokens_append_cons {before rest : List Token} {first : Token}
    (blankBefore : AllBlank before) (notEquals : first.kind ≠ .equals)
    (notNotEquals : first.kind ≠ .notEquals) :
    ofTokens (before ++ first :: rest) = list (before ++ first :: rest) := by
  cases before with
  | nil =>
      unfold ofTokens
      rw [List.nil_append]
      dsimp only
      split
      · next isSign => exact absurd isSign notEquals
      · next isSign => exact absurd isSign notNotEquals
      · rfl
  | cons blank before =>
      have isBlank := eq_of_beq (blankBefore blank List.mem_cons_self)
      unfold ofTokens
      rw [List.cons_append]
      dsimp only
      rw [isBlank]

theorem Begins.ofTokens_eq (begins : follower.Begins tokens) : ofTokens tokens = follower := by
  cases begins with
  | equals isSign | notEquals isSign =>
      unfold ofTokens
      dsimp only
      rw [isSign]
  | inList blankBefore isIn =>
      rw [ofTokens_append_cons blankBefore (by simp [isIn]) (by simp [isIn]), list,
        skipBlanks_append_cons blankBefore (Token.isBlank_eq_false_of_kind isIn (by decide))]
      dsimp only
      rw [isIn]
  | notInList blankBefore isNot blankBetween isIn =>
      rw [ofTokens_append_cons blankBefore (by simp [isNot]) (by simp [isNot]), list,
        skipBlanks_append_cons blankBefore (Token.isBlank_eq_false_of_kind isNot (by decide))]
      dsimp only
      rw [isNot]
      dsimp only
      rw [skipBlanks_append_cons blankBetween (Token.isBlank_eq_false_of_kind isIn (by decide))]
      dsimp only
      rw [if_pos (beq_iff_eq.mpr isIn)]

end Follower

/-- A clause begins with a value, or with a `NOT` that a value follows. -/
theorem SpellsClause.exists_first {written : List Token} {clause : Clause}
    (spelled : SpellsClause written clause) :
    ∃ first rest, written = first :: rest ∧
      (first.isValue = true ∨
        first.kind = .notKeyword ∧
          ∃ blanks value, AllBlank blanks ∧ value.isValue = true ∧ rest = blanks ++ [value]) := by
  cases spelled with
  | fragment isValue => exact ⟨_, _, rfl, .inl isValue⟩
  | notFragment isNot blank isValue => exact ⟨_, _, rfl, .inr ⟨isNot, _, _, blank, isValue, rfl⟩⟩
  | equals isField | notEquals isField | oneOf isField | noneOf isField =>
      simp only [List.append_assoc]
      exact ⟨_, _, rfl, .inl isField⟩

/-- Nothing in front of further clauses belongs to a word before them. -/
theorem Spells.ofTokens_eq_other {tokens : List Token} {clauses : List Clause}
    (spelled : Spells tokens clauses) : Follower.ofTokens tokens = .other := by
  obtain @⟨blanks, rest, clauses, blank, spelled⟩ := spelled
  cases spelled with
  | nil =>
      rw [List.append_nil]
      have skipped := skipBlanks_eq_nil_iff.mpr blank
      unfold Follower.ofTokens
      split
      · next first rest =>
          rw [eq_of_beq (blank first List.mem_cons_self)]
          dsimp only
          rw [Follower.list, skipped]
      · rfl
  | @cons written behind rest clause clauses spelled blankBehind others =>
      obtain ⟨first, inside, rfl, begins⟩ := spelled.exists_first
      have regroup : blanks ++ (first :: inside ++ behind ++ rest) =
          blanks ++ first :: (inside ++ behind ++ rest) := rfl
      rw [regroup]
      rcases begins with isValue | ⟨isNot, between, value, blankBetween, isValue, rfl⟩
      · have notBlank := Token.isBlank_eq_false_of_isValue isValue
        have notSign (kind : TokenKind) (noValue : kind.isValue = false) : first.kind ≠ kind := by
          rintro rfl
          rw [Token.isValue, noValue] at isValue
          cases isValue
        rw [Follower.ofTokens_append_cons blank (notSign _ rfl) (notSign _ rfl), Follower.list,
          skipBlanks_append_cons blank notBlank]
        dsimp only
        split
        · next isIn => exact absurd isIn (notSign _ rfl)
        · next isNot => exact absurd isNot (notSign _ rfl)
        · rfl
      · have notBlank := Token.isBlank_eq_false_of_kind isNot (by decide)
        have valueNotIn : value.kind ≠ .inKeyword := by
          intro isIn
          rw [Token.isValue, isIn] at isValue
          cases isValue
        have regroup : between ++ [value] ++ behind ++ rest =
            between ++ value :: (behind ++ rest) := by
          simp
        rw [Follower.ofTokens_append_cons blank (by simp [isNot]) (by simp [isNot]),
          Follower.list, skipBlanks_append_cons blank notBlank]
        dsimp only
        rw [isNot, regroup]
        dsimp only
        rw [skipBlanks_append_cons blankBetween (Token.isBlank_eq_false_of_isValue isValue)]
        dsimp only
        rw [if_neg (by simp [valueNotIn])]

/-! ## Clauses -/

section Clauses

variable {finish : Stop} {tokens left : List Token} {clause : Clause} {clauses : List Clause}

theorem readValue_append {wanted : Wanted} {blanks : List Token} {value : Token}
    (blank : AllBlank blanks) (isValue : value.isValue = true) (left : List Token) :
    readValue wanted finish (skipBlanks (blanks ++ value :: left)) = .ok (value.text, left) := by
  rw [skipBlanks_append_cons blank (Token.isBlank_eq_false_of_isValue isValue)]
  exact readValue_eq_ok_iff.mpr ⟨value, rfl, isValue, rfl⟩

theorem exists_value_of_readValue {wanted : Wanted} {value : String}
    (read : readValue wanted finish (skipBlanks tokens) = .ok (value, left)) :
    ∃ blanks token, AllBlank blanks ∧ token.isValue = true ∧ token.text = value ∧
      tokens = blanks ++ token :: left := by
  obtain ⟨blanks, blank, tokens_eq⟩ := exists_eq_append_skipBlanks tokens
  obtain ⟨token, skipped, isValue, text_eq⟩ := readValue_eq_ok_iff.mp read
  rw [skipped] at tokens_eq
  exact ⟨blanks, token, blank, isValue, text_eq, tokens_eq⟩

theorem exists_spellsClause_of_readWordClause {word : Token} (isValue : word.isValue = true)
    (read : readWordClause finish word.text tokens = .ok (clause, left)) :
    ∃ written, SpellsClause written clause ∧ word :: tokens = written ++ left := by
  unfold readWordClause at read
  rcases Follower.begins_ofTokens tokens with isOther | begins
  · rw [isOther] at read
    cases read
    exact ⟨[word], .fragment isValue, rfl⟩
  · generalize Follower.ofTokens tokens = follower at begins read
    cases begins with
    | equals isSign =>
        obtain ⟨⟨text, left'⟩, readText, made⟩ := bind_eq_ok.mp read
        cases made
        obtain ⟨blanks, value, blank, valueIsValue, rfl, rfl⟩ := exists_value_of_readValue readText
        exact ⟨_, .equals isValue isSign blank valueIsValue, by simp⟩
    | notEquals isSign =>
        obtain ⟨⟨text, left'⟩, readText, made⟩ := bind_eq_ok.mp read
        cases made
        obtain ⟨blanks, value, blank, valueIsValue, rfl, rfl⟩ := exists_value_of_readValue readText
        exact ⟨_, .notEquals isValue isSign blank valueIsValue, by simp⟩
    | inList blankBefore isIn =>
        obtain ⟨⟨values, left'⟩, readValues, made⟩ := bind_eq_ok.mp read
        cases made
        obtain ⟨after, list, blankAfter, spelled, rfl⟩ := readList_eq_ok_iff.mp readValues
        exact ⟨_, .oneOf isValue blankBefore isIn blankAfter spelled, by simp⟩
    | notInList blankBefore isNot blankBetween isIn =>
        obtain ⟨⟨values, left'⟩, readValues, made⟩ := bind_eq_ok.mp read
        cases made
        obtain ⟨after, list, blankAfter, spelled, rfl⟩ := readList_eq_ok_iff.mp readValues
        exact ⟨_, .noneOf isValue blankBefore isNot blankBetween isIn blankAfter spelled, by simp⟩

theorem exists_spellsClause_of_readClause {first : Token}
    (read : readClause finish first tokens = .ok (clause, left)) :
    ∃ written, SpellsClause written clause ∧ first :: tokens = written ++ left := by
  unfold readClause at read
  split at read
  · next isWord =>
      exact exists_spellsClause_of_readWordClause (by rw [Token.isValue, isWord]; rfl) read
  · next isQuoted =>
      exact exists_spellsClause_of_readWordClause (by rw [Token.isValue, isQuoted]; rfl) read
  · next isNot =>
      obtain ⟨⟨text, left'⟩, readText, made⟩ := bind_eq_ok.mp read
      cases made
      obtain ⟨blanks, value, blank, isValue, rfl, rfl⟩ := exists_value_of_readValue readText
      exact ⟨_, .notFragment isNot blank isValue, by simp⟩
  · cases read

/-- A clause that begins with a value is read as a word and what follows it. -/
theorem readClause_of_isValue {word : Token} (isValue : word.isValue = true) :
    readClause finish word tokens = readWordClause finish word.text tokens := by
  unfold readClause
  cases kind_eq : word.kind with
  | word | quoted => rfl
  | blank | equals | notEquals | openParen | closeParen | pipe | comma | inKeyword | notKeyword |
    endOfInput =>
      rw [Token.isValue, kind_eq] at isValue
      cases isValue

/-- A spelled clause is read if nothing that is left belongs to a word at its end. -/
theorem exists_readClause_of_spellsClause {written : List Token}
    (spelled : SpellsClause written clause) (ends : Follower.ofTokens left = .other) :
    ∃ first rest, written ++ left = first :: rest ∧ first.isBlank = false ∧
      readClause finish first rest = .ok (clause, left) := by
  cases spelled with
  | @fragment word isValue =>
      refine ⟨word, left, rfl, Token.isBlank_eq_false_of_isValue isValue, ?_⟩
      rw [readClause_of_isValue isValue, readWordClause, ends]
  | @notFragment negation value blanks isNot blank isValue =>
      refine ⟨negation, blanks ++ value :: left, by simp,
        Token.isBlank_eq_false_of_kind isNot (by decide), ?_⟩
      rw [readClause, isNot]
      exact bind_eq_ok.mpr ⟨_, readValue_append blank isValue left, rfl⟩
  | @equals field sign value blanks isField isSign blank isValue =>
      refine ⟨field, sign :: (blanks ++ value :: left), by simp,
        Token.isBlank_eq_false_of_isValue isField, ?_⟩
      rw [readClause_of_isValue isField, readWordClause,
        (Follower.Begins.equals isSign).ofTokens_eq]
      exact bind_eq_ok.mpr ⟨_, readValue_append blank isValue left, rfl⟩
  | @notEquals field sign value blanks isField isSign blank isValue =>
      refine ⟨field, sign :: (blanks ++ value :: left), by simp,
        Token.isBlank_eq_false_of_isValue isField, ?_⟩
      rw [readClause_of_isValue isField, readWordClause,
        (Follower.Begins.notEquals isSign).ofTokens_eq]
      exact bind_eq_ok.mpr ⟨_, readValue_append blank isValue left, rfl⟩
  | @oneOf field keyword before after list values isField blankBefore isIn blankAfter spelled =>
      refine ⟨field, before ++ keyword :: (after ++ list ++ left), by simp,
        Token.isBlank_eq_false_of_isValue isField, ?_⟩
      rw [readClause_of_isValue isField, readWordClause,
        (Follower.Begins.inList blankBefore isIn).ofTokens_eq]
      exact bind_eq_ok.mpr
        ⟨_, readList_eq_ok_iff.mpr ⟨after, list, blankAfter, spelled, rfl⟩, rfl⟩
  | @noneOf field negation keyword before between after list values isField blankBefore isNot
      blankBetween isIn blankAfter spelled =>
      refine ⟨field, before ++ negation :: (between ++ keyword :: (after ++ list ++ left)),
        by simp, Token.isBlank_eq_false_of_isValue isField, ?_⟩
      rw [readClause_of_isValue isField, readWordClause,
        (Follower.Begins.notInList blankBefore isNot blankBetween isIn).ofTokens_eq]
      exact bind_eq_ok.mpr
        ⟨_, readList_eq_ok_iff.mpr ⟨after, list, blankAfter, spelled, rfl⟩, rfl⟩

theorem spells_of_readClauses (read : readClauses finish tokens = .ok clauses) :
    Spells tokens clauses := by
  induction clauses generalizing tokens with
  | nil =>
      rcases readClauses_eq_ok_iff.mp read with ⟨skipped, -⟩ | ⟨_, _, _, _, _, -, -, -, made⟩
      · rw [← List.append_nil tokens]
        exact .behind (skipBlanks_eq_nil_iff.mp skipped) .nil
      · cases made
  | cons clause clauses inductionHypothesis =>
      rcases readClauses_eq_ok_iff.mp read with
        ⟨-, made⟩ | ⟨first, rest, clause', left, clauses', skipped, readFirst, readOthers, made⟩
      · cases made
      · cases made
        obtain ⟨blanks, blank, tokens_eq⟩ := exists_eq_append_skipBlanks tokens
        obtain ⟨written, spelled, first_eq⟩ := exists_spellsClause_of_readClause readFirst
        obtain @⟨behind, rest', _, blankBehind, others⟩ := inductionHypothesis readOthers
        rw [tokens_eq, skipped, first_eq, ← List.append_assoc written]
        exact .behind blank (.cons spelled blankBehind others)

theorem readClauses_of_spellsClauses (spelled : SpellsClauses tokens clauses) :
    readClauses finish tokens = .ok clauses := by
  induction spelled with
  | nil => exact readClauses_eq_ok_iff.mpr (.inl ⟨rfl, rfl⟩)
  | @cons written blanks rest clause clauses spelled blank others inductionHypothesis =>
      have ends := (Spells.behind blank others).ofTokens_eq_other
      obtain ⟨first, behind, tokens_eq, notBlank, readFirst⟩ :=
        exists_readClause_of_spellsClause spelled ends
      have readOthers : readClauses finish (blanks ++ rest) = .ok clauses := by
        rw [← readClauses_skipBlanks, skipBlanks_append blank, readClauses_skipBlanks]
        exact inductionHypothesis
      rw [List.append_assoc, tokens_eq]
      exact readClauses_eq_ok_iff.mpr (.inr ⟨first, behind, clause, blanks ++ rest, clauses,
        skipBlanks_of_not_isBlank notBlank behind, readFirst, readOthers, rfl⟩)

/-- The clauses that are read are those that are spelled. -/
theorem readClauses_eq_ok_iff_spells :
    readClauses finish tokens = .ok clauses ↔ Spells tokens clauses := by
  constructor
  · exact spells_of_readClauses
  · rintro ⟨blank, spelled⟩
    rw [← readClauses_skipBlanks, skipBlanks_append blank, readClauses_skipBlanks]
    exact readClauses_of_spellsClauses spelled

end Clauses

namespace Search

/-- Any tokens make a search exactly if the kinds of those before the first end marker belong to the
language of searches, and it is the search that comprises the clauses that these tokens spell. -/
theorem ofTokens_makes_what_is_spelled (tokens : List Token) :
    ((∃ search, ofTokens tokens = .ok search) ↔
        (beforeEnd tokens).map (·.kind) ∈ SearchLanguage.search) ∧
      ∀ search, ofTokens tokens = .ok search ↔
        ∃ clauses, Spells (beforeEnd tokens) clauses ∧ search.Comprises clauses := by
  have made_iff (search : Search) : ofTokens tokens = .ok search ↔
      ∃ clauses, Spells (beforeEnd tokens) clauses ∧ search.Comprises clauses := by
    rw [ofTokens, bind_eq_ok]
    simp only [readClauses_eq_ok_iff_spells, comprises_iff, Except.ok.injEq, @eq_comm _ search]
  refine ⟨?_, made_iff⟩
  rw [map_kind_mem_search_iff]
  constructor
  · rintro ⟨search, made⟩
    obtain ⟨clauses, spelled, -⟩ := (made_iff search).mp made
    exact ⟨clauses, spelled⟩
  · rintro ⟨clauses, spelled⟩
    exact ⟨ofClauses clauses,
      (made_iff _).mpr ⟨clauses, spelled, comprises_ofClauses clauses⟩⟩

end Search

end LogQuery.Query
