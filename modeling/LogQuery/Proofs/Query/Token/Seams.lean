import LogQuery.Proofs.Query.Token.Partition
import Mathlib

/-!
# Seams between tokens

A query can be taken apart in front of any of its tokens: each part has its own tokens, and put
together these are the tokens of the query.  Nothing that is read in front of a token depends on
what follows, and nothing behind depends on what was read before.
-/

namespace LogQuery.Query

/-- A place where a token of the query begins, the marker at its end included. -/
structure Seam (query : String) (tokens front back : List Token) (offset : Nat) : Prop where
  tokens_eq : tokens = front ++ back ++ [⟨.endOfInput, "", query.utf8ByteSize⟩]
  cut : tokensFrom 0 query.toList = .ok (front ++ back)
  offset_eq : offset = byteLength (front.flatMap Token.written)

section Tokenized

variable {query : String} {tokens : List Token} (tokenized : tokenize query = .ok tokens)

include tokenized

theorem exists_seam_at_end : ∃ front, Seam query tokens front [] query.utf8ByteSize := by
  obtain ⟨cut, cutEq, rfl⟩ := tokenize_eq_ok_iff.mp tokenized
  refine ⟨cut, by rw [List.append_nil], by rwa [List.append_nil], ?_⟩
  rw [flatMap_written_of_tokensFrom cutEq, utf8ByteSize_eq_byteLength]

/-- Every token begins at a seam. -/
theorem exists_seam {token : Token} (member : token ∈ tokens) :
    ∃ front back, Seam query tokens front back token.offset := by
  obtain ⟨front, back, split⟩ := List.append_of_mem member
  rcases marker_or_cut_of_tokenize tokenized split with ⟨rfl, -, -⟩ | ⟨others, back_eq, cut⟩
  · obtain ⟨front, seam⟩ := exists_seam_at_end tokenized
    exact ⟨front, [], seam⟩
  · refine ⟨front, token :: others, ?_, cut, (offset_of_tokenize tokenized split).1⟩
    rw [split, back_eq, List.append_assoc, List.cons_append]

end Tokenized

namespace Seam

variable {query : String} {tokens front back : List Token} {offset : Nat}
  (seam : Seam query tokens front back offset)

include seam

theorem toList_eq :
    query.toList = front.flatMap Token.written ++ back.flatMap Token.written := by
  rw [← flatMap_written_of_tokensFrom seam.cut, List.flatMap_append]

theorem slice_before : slice query 0 offset = String.ofList (front.flatMap Token.written) := by
  have isPrefix : [] ++ front.flatMap Token.written <+: query.toList := ⟨_, seam.toList_eq.symm⟩
  have slice_eq := slice_of_prefix isPrefix
  rwa [show byteLength [] = 0 from rfl, Nat.zero_add, ← seam.offset_eq] at slice_eq

theorem slice_behind :
    slice query offset query.utf8ByteSize = String.ofList (back.flatMap Token.written) := by
  have isPrefix : front.flatMap Token.written ++ back.flatMap Token.written <+: query.toList :=
    seam.toList_eq ▸ List.prefix_rfl
  have slice_eq := slice_of_prefix isPrefix
  rwa [← byteLength_append, ← seam.toList_eq, ← utf8ByteSize_eq_byteLength,
    ← seam.offset_eq] at slice_eq

theorem append_slices : slice query 0 offset ++ slice query offset query.utf8ByteSize = query := by
  rw [seam.slice_before, seam.slice_behind, ← String.ofList_append, ← seam.toList_eq,
    String.ofList_toList]

theorem utf8ByteSize_before : (slice query 0 offset).utf8ByteSize = offset := by
  rw [utf8ByteSize_eq_byteLength, seam.slice_before, String.toList_ofList, seam.offset_eq]

/-- What stands in front of the seam has the tokens in front of it. -/
theorem tokenize_before :
    tokenize (slice query 0 offset) = .ok (front ++ [⟨.endOfInput, "", offset⟩]) := by
  refine tokenize_eq_ok_iff.mpr ⟨front, ?_, by rw [seam.utf8ByteSize_before]⟩
  rw [seam.slice_before, String.toList_ofList]
  exact tokensFrom_front_of_append seam.cut

/-- What stands behind the seam has the tokens behind it, as far from its own beginning as they are
from the seam. -/
theorem exists_tokenize_behind :
    ∃ behind, tokenize (slice query offset query.utf8ByteSize) = .ok behind ∧
      behind.map (Token.shift offset) = back ++ [⟨.endOfInput, "", query.utf8ByteSize⟩] := by
  have cutBehind := tokensFrom_of_append seam.cut
  obtain ⟨others, othersCut, back_eq⟩ := exists_tokensFrom_zero cutBehind
  rw [Nat.zero_add, ← seam.offset_eq] at back_eq
  refine ⟨_, tokenize_eq_ok_iff.mpr ⟨others, ?_, rfl⟩, ?_⟩
  · rwa [seam.slice_behind, String.toList_ofList]
  · -- The marker at the end of the second part is the one at the end of the query.
    have length_eq := congrArg String.utf8ByteSize seam.append_slices
    rw [String.utf8ByteSize_append, seam.utf8ByteSize_before, Nat.add_comm] at length_eq
    rw [List.map_append, ← back_eq, List.map_singleton, Token.shift, length_eq]

end Seam

/-- Take a query that has tokens apart in front of any of them, or at its end.  Both parts have
tokens, and those of the first part without the marker at its end, followed by those of the second
part with their offsets counted from the beginning of the query, are exactly the tokens of the
query. -/
theorem tokens_are_those_of_both_parts {query : String} {tokens : List Token} {offset : Nat}
    (tokenized : tokenize query = .ok tokens)
    (begins : (∃ token ∈ tokens, token.offset = offset) ∨ offset = query.utf8ByteSize) :
    let before := slice query 0 offset
    let behind := slice query offset query.utf8ByteSize
    before ++ behind = query ∧ before.utf8ByteSize = offset ∧
      ∃ front back, tokenize before = .ok (front ++ [⟨.endOfInput, "", offset⟩]) ∧
        tokenize behind = .ok back ∧ tokens = front ++ back.map (Token.shift offset) := by
  obtain ⟨front, back, seam⟩ : ∃ front back, Seam query tokens front back offset := by
    rcases begins with ⟨token, member, rfl⟩ | rfl
    · exact exists_seam tokenized member
    · obtain ⟨front, seam⟩ := exists_seam_at_end tokenized
      exact ⟨front, [], seam⟩
  obtain ⟨behind, tokenizedBehind, behind_eq⟩ := seam.exists_tokenize_behind
  refine ⟨seam.append_slices, seam.utf8ByteSize_before, front, behind, seam.tokenize_before,
    tokenizedBehind, ?_⟩
  rw [behind_eq, ← List.append_assoc, seam.tokens_eq]

/-- A seam between a sign and a quoted text that holds a pipe and a quote. -/
theorem quoted_text_is_cut_by_itself :
    let query := "é!=\"a\\\"|b\" c"
    ∃ tokens front back, tokenize query = .ok tokens ∧ (∃ token ∈ tokens, token.offset = 4) ∧
      tokenize (slice query 0 4) = .ok (front ++ [⟨.endOfInput, "", 4⟩]) ∧
      tokenize (slice query 4 query.utf8ByteSize) = .ok back ∧
      tokens = front ++ back.map (Token.shift 4) := by
  intro query
  have tokenized : tokenize query = .ok
      [⟨.word, "é", 0⟩, ⟨.notEquals, "!=", 2⟩, ⟨.quoted, "a\"|b", 4⟩, ⟨.blank, " ", 11⟩,
        ⟨.word, "c", 12⟩, ⟨.endOfInput, "", 13⟩] := by
    cbv
  have begins : ∃ token ∈ [(⟨.word, "é", 0⟩ : Token), ⟨.notEquals, "!=", 2⟩,
      ⟨.quoted, "a\"|b", 4⟩, ⟨.blank, " ", 11⟩, ⟨.word, "c", 12⟩, ⟨.endOfInput, "", 13⟩],
      token.offset = 4 :=
    ⟨⟨.quoted, "a\"|b", 4⟩, by simp, rfl⟩
  obtain ⟨-, -, front, back, before, behind, tokens_eq⟩ :=
    tokens_are_those_of_both_parts tokenized (.inl begins)
  exact ⟨_, front, back, tokenized, begins, before, behind, tokens_eq⟩

end LogQuery.Query
