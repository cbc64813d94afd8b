import LogQuery.Proofs.Query.Token.Partition

/-!
# Texts in quotes

A backslash in quotes escapes a double quote and stands for itself elsewhere, so the texts that can
be written in quotes are those that do not end in a backslash.  In quotes such a text is one token
whatever follows it, and what follows is cut as it is by itself.
-/

namespace LogQuery.Query

/-- A text in quotes. -/
def quotation (text : String) : String :=
  String.ofList (quote text.toList)

/-- No backslash at the end of a text escapes the quote that closes it. -/
def IsQuotable (text : String) : Prop :=
  text.toList.getLast? ≠ some '\\'

instance (text : String) : Decidable (IsQuotable text) :=
  inferInstanceAs (Decidable (text.toList.getLast? ≠ some '\\'))

theorem IsQuotable.tokensFrom {text : String} (isQuotable : IsQuotable text) (offset : Nat) :
    Query.tokensFrom offset (quotation text).toList = .ok [⟨.quoted, text, offset⟩] := by
  have reads := readsTo_quote_append isQuotable []
  have cut : Query.tokensFrom offset (quote text.toList ++ []) =
      .ok [⟨.quoted, String.ofList text.toList, offset⟩] :=
    reads.tokensFrom (tokensFrom_nil_eq_ok_iff.mpr rfl)
  rwa [List.append_nil, String.ofList_toList, ← String.toList_ofList (l := quote _)] at cut

/-! ## What is read in quotes -/

/-- A backslash in front of the closing quote would have escaped it. -/
theorem getLast?_of_takeQuoted {text inside left : List Char}
    (closes : takeQuoted text = some (inside, left)) : inside.getLast? ≠ some '\\' := by
  fun_induction takeQuoted text generalizing inside left with
  | case1 => cases closes
  | case2 rest inductionHypothesis =>
      obtain ⟨⟨others, left'⟩, closesLater, made⟩ := Option.map_eq_some_iff.mp closes
      cases made
      cases others with
      | nil => decide
      | cons d others =>
          rw [List.getLast?_cons_cons]
          exact inductionHypothesis closesLater
  | case3 rest =>
      cases closes
      decide
  | case4 c rest notEscape notQuote inductionHypothesis =>
      obtain ⟨⟨others, behind⟩, closesLater, made⟩ := Option.map_eq_some_iff.mp closes
      cases made
      cases others with
      | cons d others =>
          rw [List.getLast?_cons_cons]
          exact inductionHypothesis closesLater
      | nil =>
          -- Nothing is read of the rest, so the closing quote stands right behind `c`.
          have rest_eq : rest = '"' :: left := by
            simpa [quote] using (quote_append_of_takeQuoted closesLater).symm
          intro backslash
          exact notEscape left (Option.some.inj backslash) rest_eq

theorem isQuotable_of_mem_tokensFrom {offset : Nat} {text : List Char} {tokens : List Token}
    (cut : tokensFrom offset text = .ok tokens) {token : Token} (member : token ∈ tokens)
    (isQuoted : token.kind = .quoted) : IsQuotable token.text := by
  induction tokens generalizing offset text with
  | nil => cases member
  | cons first others inductionHypothesis =>
      obtain ⟨kind, inside, left, rfl, reads, othersCut⟩ := exists_of_tokensFrom_cons cut
      rcases List.mem_cons.mp member with rfl | behind
      · obtain rfl : kind = .quoted := isQuoted
        obtain ⟨rest, -, closes⟩ := reads.exists_takeQuoted
        rw [IsQuotable, String.toList_ofList]
        exact getLast?_of_takeQuoted closes
      · exact inductionHypothesis othersCut behind

/-! ## What follows -/

/-- A quote that is never closed is found further on as well. -/
theorem tokensFrom_error_add {offset : Nat} {text : List Char}
    (fails : tokensFrom 0 text = .error (.unterminatedQuote offset)) (distance : Nat) :
    tokensFrom distance text = .error (.unterminatedQuote (offset + distance)) := by
  obtain ⟨before, rest, tokens, text_eq, cut, apart, neverCloses, error_eq⟩ :=
    tokensFrom_eq_error_iff.mp fails
  cases error_eq
  have cutFurther := tokensFrom_add cut distance
  rw [Nat.zero_add] at cutFurther
  refine tokensFrom_eq_error_iff.mpr
    ⟨before, rest, _, text_eq, cutFurther, ?_, neverCloses, ?_⟩
  · intro token isLast
    rw [List.getLast?_map] at isLast
    obtain ⟨last, lastEq, rfl⟩ := Option.map_eq_some_iff.mp isLast
    exact apart last lastEq
  · rw [Nat.zero_add, Nat.add_comm]

namespace IsQuotable

variable {text : String} (isQuotable : IsQuotable text) (further : String)
include isQuotable

/-- A text in quotes is cut off in front of whatever follows it. -/
theorem tokensFrom_append :
    Query.tokensFrom 0 (quotation text ++ further).toList =
      (Query.tokensFrom (quotation text).utf8ByteSize further.toList).map
        (⟨.quoted, text, 0⟩ :: ·) := by
  have text_eq : (quotation text ++ further).toList = (quotation text).toList ++ further.toList :=
    String.toList_append
  rw [text_eq, Query.tokensFrom_append (isQuotable.tokensFrom 0), Nat.zero_add,
    utf8ByteSize_eq_byteLength]
  · rfl
  · intro token isLast bare
    cases isLast
    cases bare

theorem tokenize_append_of_ok {tokens : List Token} (tokenized : tokenize further = .ok tokens) :
    tokenize (quotation text ++ further) = .ok
      (⟨.quoted, text, 0⟩ :: tokens.map (Token.shift (quotation text).utf8ByteSize)) := by
  obtain ⟨cut, cutEq, rfl⟩ := tokenize_eq_ok_iff.mp tokenized
  have cutFurther := tokensFrom_add cutEq (quotation text).utf8ByteSize
  rw [Nat.zero_add] at cutFurther
  refine tokenize_eq_ok_iff.mpr
    ⟨⟨.quoted, text, 0⟩ :: cut.map (Token.shift (quotation text).utf8ByteSize), ?_, ?_⟩
  · rw [isQuotable.tokensFrom_append, cutFurther]
    rfl
  · rw [List.map_append, List.cons_append, String.utf8ByteSize_append, Nat.add_comm]
    rfl

theorem tokenize_append_of_error {offset : Nat}
    (fails : tokenize further = .error (.unterminatedQuote offset)) :
    tokenize (quotation text ++ further) =
      .error (.unterminatedQuote (offset + (quotation text).utf8ByteSize)) := by
  have fails := (bind_eq_error_iff.mp fails).resolve_right (by simp)
  rw [tokenize, isQuotable.tokensFrom_append, tokensFrom_error_add fails]
  rfl

end IsQuotable

theorem exists_offset_of_tokenize {query : String} {error : QueryError}
    (fails : tokenize query = .error error) : ∃ offset, error = .unterminatedQuote offset := by
  obtain ⟨before, rest, -, rfl⟩ := tokenize_eq_error_iff.mp fails
  exact ⟨_, rfl⟩

/-- Behind a text in quotes a query is cut as it is by itself, only that its tokens, or the quote
that is never closed in it, stand further on.  The texts of quoted tokens are those that do not end
in a backslash. -/
theorem tokenize_quotation (text : String) :
    (IsQuotable text → ∀ further,
      (∀ tokens, tokenize further = .ok tokens →
        tokenize (quotation text ++ further) = .ok
          (⟨.quoted, text, 0⟩ :: tokens.map (Token.shift (quotation text).utf8ByteSize))) ∧
      (∀ offset, tokenize further = .error (.unterminatedQuote offset) →
        tokenize (quotation text ++ further) =
          .error (.unterminatedQuote (offset + (quotation text).utf8ByteSize))) ∧
      ((∃ error, tokenize (quotation text ++ further) = .error error) ↔
        ∃ error, tokenize further = .error error)) ∧
    ((∃ query tokens, tokenize query = .ok tokens ∧
        ∃ token ∈ tokens, token.kind = .quoted ∧ token.text = text) ↔ IsQuotable text) := by
  refine ⟨fun isQuotable further => ⟨?_, ?_, ?_⟩, ?_, ?_⟩
  · intro tokens tokenized
    exact isQuotable.tokenize_append_of_ok further tokenized
  · intro offset fails
    exact isQuotable.tokenize_append_of_error further fails
  · constructor
    · rintro ⟨error, fails⟩
      cases outcome : tokenize further with
      | error other => exact ⟨other, rfl⟩
      | ok tokens =>
          rw [isQuotable.tokenize_append_of_ok further outcome] at fails
          cases fails
    · rintro ⟨error, fails⟩
      obtain ⟨offset, rfl⟩ := exists_offset_of_tokenize fails
      exact ⟨_, isQuotable.tokenize_append_of_error further fails⟩
  · rintro ⟨query, tokens, tokenized, token, member, isQuoted, rfl⟩
    obtain ⟨cut, cutEq, rfl⟩ := tokenize_eq_ok_iff.mp tokenized
    rcases List.mem_append.mp member with inside | isMarker
    · exact isQuotable_of_mem_tokensFrom cutEq inside isQuoted
    · obtain rfl := List.mem_singleton.mp isMarker
      cases isQuoted
  · intro isQuotable
    have cut : tokenize "" = .ok [⟨.endOfInput, "", 0⟩] :=
      tokenize_eq_ok_iff.mpr ⟨[], tokensFrom_nil_eq_ok_iff.mpr rfl, rfl⟩
    exact ⟨_, _, isQuotable.tokenize_append_of_ok "" cut, _, List.mem_cons_self, rfl, rfl⟩

/-- Backslashes in front of a double quote and elsewhere, with a word right behind. -/
theorem tokenize_quotation_backslashes :
    IsQuotable "\\\\\"a\\b" ∧
      tokenize (quotation "\\\\\"a\\b" ++ "x=") = .ok
        [⟨.quoted, "\\\\\"a\\b", 0⟩, ⟨.word, "x", 9⟩, ⟨.equals, "=", 10⟩,
          ⟨.endOfInput, "", 11⟩] := by
  refine ⟨by decide, ?_⟩
  have word : ReadsTo ['x', '='] .word ['x'] ['='] := .word rfl (by decide)
  have cut : tokenize "x=" = .ok [⟨.word, "x", 0⟩, ⟨.equals, "=", 1⟩, ⟨.endOfInput, "", 2⟩] :=
    tokenize_eq_ok_iff.mpr ⟨[⟨.word, "x", 0⟩, ⟨.equals, "=", 1⟩],
      word.tokensFrom ((ReadsTo.equals []).tokensFrom (tokensFrom_nil_eq_ok_iff.mpr rfl)), rfl⟩
  exact ((tokenize_quotation "\\\\\"a\\b").1 (by decide) "x=").1 _ cut

end LogQuery.Query
