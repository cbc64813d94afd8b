import LogQuery.Proofs.Regex.Footprint
import LogQuery.Proofs.Wildcard.Expression

/-!
# Patterns that are short enough

Whatever a character of a pattern is, it takes little more than a thousand bytes.  A fragment or a
glob of up to nine thousand characters therefore stays within the limit and need not be measured.
-/

namespace LogQuery.Wildcard

open LogQuery.Regex LogQuery.Regex.Outline LogQuery.Text

variable {direction : Direction} {bytes behind : Nat}

theorem outline_concat (first second : Expr) :
    (Expr.concat first second).outline = first.outline.append second.outline := rfl

/-- Parts before others add what each of them takes. -/
theorem isRow_inSequence_append {parts others : List Expr}
    (each : ∀ part ∈ parts, IsRow direction bytes part.outline)
    (row : IsRow direction behind (inSequence others).outline) :
    IsRow direction (parts.length * bytes + behind) (inSequence (parts ++ others)).outline := by
  induction parts with
  | nil =>
      rw [List.length_nil, Nat.zero_mul, Nat.zero_add]
      exact row
  | cons part parts inductionHypothesis =>
      obtain ⟨here, others⟩ := List.forall_mem_cons.mp each
      have total : (part :: parts).length * bytes + behind =
          bytes + (parts.length * bytes + behind) := by
        rw [List.length_cons, Nat.succ_mul]
        omega
      rw [total]
      exact here.append (inductionHypothesis others)

/-! ## Single characters -/

theorem parts_ofRanges (ranges : CodeRanges) : (ofRanges ranges).parts = [ofRanges ranges] := by
  rcases ofRanges_eq_set_or_literal ranges with set | ⟨c, literal⟩
  · rw [set]
    rfl
  · rw [literal]
    rfl

theorem isRow_one {set : CharSet} (takes : 64 + 8 * set.ranges.length +
      Network.weight direction set.ranges.byteSequences ≤ bytes) (single : 128 ≤ bytes) :
    IsRow direction (bytes + 4) (Expr.one set).outline :=
  isRow_of_takesAtMost (parts_ofRanges set.ranges) (takesAtMost_ofRanges takes single)

theorem isRow_anyNumber {set : CharSet} {least : Nat} (takes : 64 + 8 * set.ranges.length +
      Network.weight direction set.ranges.byteSequences ≤ bytes) (single : 128 ≤ bytes)
    (some : (ofRanges set.ranges).leastLength? = some (least + 1)) :
    IsRow direction (bytes + 44) (anyNumber set).outline :=
  isRow_of_takesAtMost rfl (takesAtMost_anyNumber some (takesAtMost_ofRanges takes single))

theorem outline_single (c : Char) : (Expr.one (.single c)).outline = .literal [c] := by
  calc (Expr.one (.single c)).outline
    _ = .ofRanges (CharSet.single c).ranges := rfl
    _ = .literal [Char.ofNat c.toNat] := by
        rw [CharSet.ranges_single, Outline.ofRanges, if_pos rfl]
    _ = .literal [c] := by rw [Char.ofNat_toNat]

/-- Four characters at most are equal up to case. -/
theorem caseClosure_takes (c : Char) :
    64 + 8 * (CharSet.caseClosure (.single c)).ranges.length +
      Network.weight direction (CharSet.caseClosure (.single c)).ranges.byteSequences ≤ 624 := by
  have ranges_eq : (CharSet.caseClosure (.single c)).ranges =
      (foldClosure [(c.toNat, c.toNat)]).characters := by
    rw [CharSet.ranges, CharSet.codes, CharSet.codes_single]
  have few : CodeRanges.size (CharSet.caseClosure (.single c)).ranges ≤ 4 := by
    rw [ranges_eq]
    exact (CodeRanges.size_characters_le _).trans (size_foldClosure_le c.toNat)
  have ranges : (CharSet.caseClosure (.single c)).ranges.length ≤ 4 := by
    rw [ranges_eq] at few ⊢
    exact (CodeRanges.proper_characters _).length_le_size.trans few
  have sequences := (CodeRanges.length_byteSequences_le
    (CharSet.caseClosure (.single c)).ranges).trans few
  have bytes := Network.weight_byteSequences_le direction
    (CharSet.caseClosure (.single c)).ranges
  omega

theorem withinLine_takes (direction : Direction) :
    64 + 8 * withinLine.ranges.length +
      Network.weight direction withinLine.ranges.byteSequences ≤ 1024 := by
  cases direction <;> decide +kernel

/-- The characters between the two separators and around them. -/
theorem ranges_withinPart : withinPart.ranges =
    [(0, 0x2E), (0x30, 0x5B), (0x5D, 0xD7FF), (0xE000, 0x10FFFF)] := by
  have separators : (CharSet.union (.single '/') (.single '\\')).codes =
      [(0x2F, 0x2F), (0x5C, 0x5C)] := by
    calc (CharSet.union (.single '/') (.single '\\')).codes
      _ = CodeRanges.ofRanges [(0x2F, 0x2F), (0x5C, 0x5C)] := rfl
      _ = [(0x2F, 0x2F), (0x5C, 0x5C)] := by
          rw [CodeRanges.ofRanges_of_ascending (by decide)]
          rfl
  rw [withinPart, CharSet.ranges, CharSet.codes, separators]
  rfl

theorem withinPart_takes (direction : Direction) :
    64 + 8 * withinPart.ranges.length +
      Network.weight direction withinPart.ranges.byteSequences ≤ 1068 := by
  rw [ranges_withinPart]
  cases direction <;> decide

theorem isRow_withinLine : IsRow direction 1068 (anyNumber withinLine).outline :=
  @isRow_anyNumber _ _ _ 0 (withinLine_takes direction) (by decide) rfl

theorem isRow_withinPart : IsRow direction 1112 (anyNumber withinPart).outline :=
  @isRow_anyNumber _ _ _ 0 (withinPart_takes direction) (by decide) (by rw [ranges_withinPart]; rfl)

/-! ## Fragments -/

theorem isRow_fragmentPart (c : Char) : IsRow direction 1068 (fragmentPart c).outline := by
  rw [fragmentPart]
  split
  · exact isRow_withinLine
  · exact isRow_one ((caseClosure_takes c).trans (by decide)) (by decide)

theorem outline_fragmentEnd (index : Nat) (condition : Look) :
    (fragmentEnd index condition).outline =
      .group index (.alt [.look condition, .ofRanges (CharSet.complement .word).ranges]) := by
  calc (fragmentEnd index condition).outline
    _ = .group index (.ofBranches
          [.look condition, .ofRanges (CharSet.complement .word).ranges]) := rfl
    _ = .group index (.alt [.look condition, .ofRanges (CharSet.complement .word).ranges]) := by
        rcases Outline.ofRanges_eq_set_or_literal (CharSet.complement .word).ranges with
          set | ⟨c, literal⟩
        · rw [set]
          rfl
        · rw [literal]
          rfl

theorem isRow_fragmentEnd (index : Nat) (condition : Look) :
    IsRow direction 200184 (fragmentEnd index condition).outline := by
  have other : ((ofRanges (CharSet.complement .word).ranges).write direction).TakesAtMost 200000 :=
    takesAtMost_ofRanges (CharSet.complement_word_takes direction) (by decide)
  rw [outline_fragmentEnd]
  exact isRow_of_takesAtMost rfl <| takesAtMost_group <| takesAtMost_alt rfl <|
    .cons (takesAtMost_look direction condition) <| .cons other .nil

/-- An end of a fragment stands only where there is no star. -/
theorem isRow_unless_fragmentEnd {star : Prop} [Decidable star] {index : Nat} {condition : Look}
    {others : List Expr} (row : IsRow direction behind (inSequence others).outline) :
    IsRow direction (200184 + behind) (inSequence
      ((if star then [] else [fragmentEnd index condition]) ++ others)).outline := by
  split
  · exact row.mono (Nat.le_add_left _ _)
  · exact (isRow_fragmentEnd index condition).append row

theorem isRow_fragmentExpr (fragment : List Char) :
    IsRow direction (200184 + (fragment.length * 1068 + (200184 + 0)))
      (fragmentExpr fragment).outline := by
  have closing : IsRow direction (200184 + 0) (inSequence
      (if fragment.getLast? == some '*' then [] else [fragmentEnd 2 .textEnd])).outline := by
    have alone := @isRow_unless_fragmentEnd direction 0 (fragment.getLast? == some '*') _ 2 .textEnd
      [] isRow_empty
    rwa [List.append_nil] at alone
  have items : ∀ part ∈ fragment.map fragmentPart, IsRow direction 1068 part.outline :=
    List.forall_mem_map.mpr fun c _ => isRow_fragmentPart c
  have behind := isRow_inSequence_append items closing
  rw [List.length_map] at behind
  rw [fragmentExpr, List.append_assoc]
  exact isRow_unless_fragmentEnd behind

/-- A short fragment stays within the limit, whatever its characters are. -/
theorem fits_fragmentExpr {fragment : List Char} (short : fragment.length ≤ unmeasuredLength) :
    (fragmentExpr fragment).fits = true := by
  have takes (direction : Direction) :
      ((fragmentExpr fragment).outline.write direction).TakesAtMost 10480000 := by
    refine (isRow_fragmentExpr fragment).takesAtMost.mono ?_
    rw [unmeasuredLength] at short
    omega
  exact Expr.fits_of_takesAtMost takes (by decide)

/-- Measuring a short fragment could only say that it fits. -/
theorem fragmentFits_eq (fragment : String) :
    fragmentFits fragment = (fragmentExpr fragment.toList).fits := by
  rw [fragmentFits]
  by_cases short : fragment.length ≤ unmeasuredLength
  · rw [fits_fragmentExpr short, Bool.or_true]
  · rw [decide_eq_false short, Bool.false_or]

theorem fragmentFits_of_length_le {fragment : String}
    (short : fragment.length ≤ unmeasuredLength) : fragmentFits fragment = true :=
  (fragmentFits_eq fragment).trans (fits_fragmentExpr short)

/-! ## Globs -/

theorem isRow_single (c : Char) : IsRow direction 132 (Expr.one (.single c)).outline := by
  rw [outline_single]
  refine isRow_of_takesAtMost rfl ((takesAtMost_literal direction [c]).mono ?_)
  have short := c.utf8Size_le_four
  rw [String.utf8Len_cons, String.utf8Len_nil]
  omega

theorem isRow_globParts (glob : List Char) :
    ∀ part ∈ globParts glob, IsRow direction 1112 part.outline := by
  fun_induction globParts glob with
  | case1 => exact List.forall_mem_nil _
  | case2 rest inductionHypothesis =>
      exact List.forall_mem_cons.mpr ⟨isRow_withinLine.mono (by decide), inductionHypothesis⟩
  | case3 rest _ inductionHypothesis =>
      exact List.forall_mem_cons.mpr ⟨isRow_withinPart, inductionHypothesis⟩
  | case4 rest inductionHypothesis =>
      refine List.forall_mem_cons.mpr ⟨?_, inductionHypothesis⟩
      exact isRow_one ((withinPart_takes direction).trans (by decide)) (by decide)
  | case5 c rest _ _ _ inductionHypothesis =>
      exact List.forall_mem_cons.mpr ⟨(isRow_single c).mono (by decide), inductionHypothesis⟩

theorem length_globParts_le (glob : List Char) : (globParts glob).length ≤ glob.length := by
  fun_induction globParts glob with
  | case1 => exact Nat.le_refl 0
  | case2 rest inductionHypothesis => exact Nat.succ_le_succ (Nat.le_succ_of_le inductionHypothesis)
  | case3 rest _ inductionHypothesis => exact Nat.succ_le_succ inductionHypothesis
  | case4 rest inductionHypothesis => exact Nat.succ_le_succ inductionHypothesis
  | case5 c rest _ _ _ inductionHypothesis => exact Nat.succ_le_succ inductionHypothesis

theorem isRow_globExpr (glob : List Char) :
    IsRow direction (36 + ((globParts glob).length * 1112 + (36 + 0)))
      (globExpr glob).outline := by
  have look (condition : Look) : IsRow direction 36 (Expr.look condition).outline :=
    isRow_of_takesAtMost rfl (takesAtMost_look direction condition)
  have closing : IsRow direction (36 + 0) (inSequence [.look .textEnd]).outline :=
    (look .textEnd).append isRow_empty
  exact (look .textStart).append (isRow_inSequence_append (isRow_globParts glob) closing)

/-- A short glob stays within the limit, whatever its characters are. -/
theorem fits_globExpr {glob : List Char} (short : glob.length ≤ unmeasuredLength) :
    (globExpr glob).fits = true := by
  have takes (direction : Direction) :
      ((globExpr glob).outline.write direction).TakesAtMost 10480000 := by
    refine (isRow_globExpr glob).takesAtMost.mono ?_
    have parts := length_globParts_le glob
    rw [unmeasuredLength] at short
    omega
  exact Expr.fits_of_takesAtMost takes (by decide)

/-- Measuring a short glob could only say that it fits. -/
theorem globFits_eq (glob : String) : globFits glob = (globExpr glob.toList).fits := by
  rw [globFits]
  by_cases short : glob.length ≤ unmeasuredLength
  · rw [fits_globExpr short, Bool.or_true]
  · rw [decide_eq_false short, Bool.false_or]

theorem globFits_of_length_le {glob : String} (short : glob.length ≤ unmeasuredLength) :
    globFits glob = true :=
  (globFits_eq glob).trans (fits_globExpr short)

end LogQuery.Wildcard
