import LogQuery.Proofs.Wildcard.Short

/-!
# Patterns that are too long

A character whose case cannot change takes one state of its own, and so does every character of a
glob that is no wildcard.  A fragment or a glob of too many of them outgrows the limit and cannot be
searched for.
-/

namespace LogQuery.Wildcard

open LogQuery.Regex LogQuery.Text

/-- No other character equals it up to case, and it is no star. -/
structure IsCaseless (c : Char) : Prop where
  ordinary : c ≠ '*'
  alone : (CharSet.caseClosure (.single c)).ranges = [(c.toNat, c.toNat)]

variable {fragment : List Char}

theorem outline_fragmentPart {c : Char} (caseless : IsCaseless c) :
    (fragmentPart c).outline = .literal [c] := by
  rw [fragmentPart, if_neg (by simpa using caseless.ordinary)]
  calc (Expr.one (.caseClosure (.single c))).outline
    _ = .ofRanges (CharSet.caseClosure (.single c)).ranges := rfl
    _ = .literal [Char.ofNat c.toNat] := by
        rw [caseless.alone, Outline.ofRanges]
        exact if_pos rfl
    _ = .literal [c] := by rw [Char.ofNat_toNat]

/-- What may close a row: no literal, which would become one with the row. -/
def IsClosing (outline : Outline) : Prop :=
  (∃ index body, outline = .group index body) ∨ ∃ condition, outline = .look condition

/-- Parts that each stand for one character are one literal together. -/
theorem outline_row {part : Char → Expr} {ending : Expr}
    (literal : ∀ c ∈ fragment, (part c).outline = .literal [c]) (some : fragment ≠ [])
    (closes : IsClosing ending.outline) :
    (inSequence (fragment.map part ++ [ending])).outline =
      .concat [.literal fragment, ending.outline] := by
  have alone : (inSequence [ending]).outline = ending.outline := by
    calc (inSequence [ending]).outline
      _ = ending.outline.append .empty := rfl
      _ = ending.outline := by
          rcases closes with ⟨index, body, group⟩ | ⟨condition, look⟩
          · rw [group]
            rfl
          · rw [look]
            rfl
  induction fragment with
  | nil => exact absurd rfl some
  | cons c fragment inductionHypothesis =>
      obtain ⟨literalHere, literalBehind⟩ := List.forall_mem_cons.mp literal
      cases fragment with
      | nil =>
          calc (inSequence ([c].map part ++ [ending])).outline
            _ = (part c).outline.append (inSequence [ending]).outline := rfl
            _ = .concat [.literal [c], ending.outline] := by
                rw [literalHere, alone]
                rcases closes with ⟨index, body, group⟩ | ⟨condition, look⟩
                · rw [group]
                  rfl
                · rw [look]
                  rfl
      | cons d fragment =>
          have behind := inductionHypothesis literalBehind (List.cons_ne_nil d fragment)
          calc (inSequence ((c :: d :: fragment).map part ++ [ending])).outline
            _ = (part c).outline.append
                  (inSequence ((d :: fragment).map part ++ [ending])).outline := rfl
            _ = .concat [.literal (c :: d :: fragment), ending.outline] := by
                rw [literalHere, behind]
                rfl

/-- A long literal between two ends outgrows the limit. -/
theorem fits_eq_false_of_outline {expr : Expr} {opening closing : Outline} {chars : List Char}
    (outline_eq : expr.outline = .concat [opening, .literal chars, closing])
    (opens : (opening.write .backward).TakesAtLeast 0)
    (closes : (closing.write .backward).TakesAtLeast 0)
    (long : Tally.limit < 32 * chars.length) : expr.fits = false := by
  have takes : (expr.outline.write .backward).TakesAtLeast [0, 32 * chars.length, 0].sum := by
    rw [outline_eq]
    exact Outline.takesAtLeast_concat <|
      .cons opens <| .cons (Outline.takesAtLeast_literal .backward chars) <| .cons closes .nil
  have searched : expr.outline.isWordList = false := by
    rw [outline_eq]
    rfl
  exact Expr.fits_eq_false_of_takesAtLeast searched takes (by simpa using long)

/-! ## Fragments -/

theorem takesAtLeast_fragmentEnd (index : Nat) (condition : Look) :
    ((fragmentEnd index condition).outline.write .backward).TakesAtLeast 0 := by
  rw [outline_fragmentEnd, Outline.write_backward_group]
  refine Outline.takesAtLeast_alt ?_ ?_
  · rfl
  · refine List.forall_mem_cons.mpr ⟨Outline.takesAtLeast_look _ _, ?_⟩
    exact List.forall_mem_singleton.mpr (Outline.takesAtLeast_ofRanges _)

/-- A fragment of caseless characters is one literal between its ends. -/
theorem outline_fragmentExpr (caseless : ∀ c ∈ fragment, IsCaseless c) (some : fragment ≠ []) :
    (fragmentExpr fragment).outline =
      .concat [(fragmentEnd 1 .textStart).outline, .literal fragment,
        (fragmentEnd 2 .textEnd).outline] := by
  have unstarred : '*' ∉ fragment := fun member => (caseless '*' member).ordinary rfl
  have noOpeningStar : fragment.head? ≠ Option.some '*' :=
    fun star => unstarred (List.mem_of_head? star)
  have noClosingStar : fragment.getLast? ≠ Option.some '*' :=
    fun star => unstarred (List.mem_of_getLast? star)
  have expr_eq : fragmentExpr fragment = .concat (fragmentEnd 1 .textStart)
      (inSequence (fragment.map fragmentPart ++ [fragmentEnd 2 .textEnd])) := by
    rw [fragmentExpr, if_neg (by simpa using noOpeningStar), if_neg (by simpa using noClosingStar)]
    rfl
  have closes : IsClosing (fragmentEnd 2 .textEnd).outline :=
    .inl ⟨_, _, outline_fragmentEnd 2 .textEnd⟩
  rw [expr_eq, outline_concat,
    outline_row (fun c member => outline_fragmentPart (caseless c member)) some closes,
    outline_fragmentEnd]
  rfl

/-- A fragment of caseless characters that takes more than the limit cannot be searched for. -/
theorem fragmentFits_eq_false (caseless : ∀ c ∈ fragment, IsCaseless c)
    (long : Tally.limit < 32 * fragment.length) :
    fragmentFits (String.ofList fragment) = false := by
  have some : fragment ≠ [] := by
    rintro rfl
    exact absurd long (Nat.not_lt_zero _)
  rw [fragmentFits_eq, String.toList_ofList]
  exact fits_eq_false_of_outline (outline_fragmentExpr caseless some)
    (takesAtLeast_fragmentEnd 1 .textStart) (takesAtLeast_fragmentEnd 2 .textEnd) long

/-! ## Globs -/

/-- A glob without wildcards stands for its characters. -/
theorem globParts_of_ordinary {glob : List Char} (ordinary : ∀ c ∈ glob, c ≠ '*' ∧ c ≠ '?') :
    globParts glob = glob.map fun c => .one (.single c) := by
  fun_induction globParts glob with
  | case1 => rfl
  | case2 rest => exact absurd rfl (ordinary '*' List.mem_cons_self).1
  | case3 rest => exact absurd rfl (ordinary '*' List.mem_cons_self).1
  | case4 rest => exact absurd rfl (ordinary '?' List.mem_cons_self).2
  | case5 c rest _ _ _ inductionHypothesis =>
      rw [inductionHypothesis (List.forall_mem_cons.mp ordinary).2]
      rfl

/-- A glob without wildcards that takes more than the limit cannot be searched for. -/
theorem globFits_eq_false {glob : List Char} (ordinary : ∀ c ∈ glob, c ≠ '*' ∧ c ≠ '?')
    (long : Tally.limit < 32 * glob.length) : globFits (String.ofList glob) = false := by
  have some : glob ≠ [] := by
    rintro rfl
    exact absurd long (Nat.not_lt_zero _)
  have outline_eq : (globExpr glob).outline =
      .concat [.look .textStart, .literal glob, .look .textEnd] := by
    rw [globExpr, globParts_of_ordinary ordinary]
    calc (inSequence (.look .textStart ::
            (glob.map fun c => Expr.one (.single c)) ++ [.look .textEnd])).outline
      _ = (Outline.look .textStart).append (inSequence
            ((glob.map fun c => Expr.one (.single c)) ++ [.look .textEnd])).outline := rfl
      _ = .concat [.look .textStart, .literal glob, .look .textEnd] := by
          rw [outline_row (fun c _ => outline_single c) some (.inr ⟨.textEnd, rfl⟩)]
          rfl
  rw [globFits_eq, String.toList_ofList]
  exact fits_eq_false_of_outline outline_eq (Outline.takesAtLeast_look _ _)
    (Outline.takesAtLeast_look _ _) long

/-! ## A character without case -/

theorem union_singleton_nil (range : Nat × Nat) : CodeRanges.union [range] [] = [range] := by
  rw [CodeRanges.union, List.append_nil, CodeRanges.ofRanges, List.mergeSort_singleton]
  rfl

theorem isCaseless_zero : IsCaseless '0' where
  ordinary := by decide
  alone := by
    have images : foldRuns.flatMap (·.images [(0x30, 0x30)]) = [] := by decide
    have preimages : foldRuns.flatMap (·.preimages [(0x30, 0x30)]) = [] := by decide
    have closure : foldClosure [(0x30, 0x30)] = [(0x30, 0x30)] := by
      rw [foldClosure, images, union_singleton_nil, preimages, union_singleton_nil]
    calc (CharSet.caseClosure (.single '0')).ranges
      _ = (foldClosure [(0x30, 0x30)]).characters := rfl
      _ = [('0'.toNat, '0'.toNat)] := by
          rw [closure]
          rfl

/-- Zeros in a row. -/
def zeros (count : Nat) : String :=
  String.ofList (List.replicate count '0')

theorem eq_of_mem_zeros {count : Nat} {c : Char} (member : c ∈ (zeros count).toList) :
    c = '0' := by
  rw [zeros, String.toList_ofList] at member
  exact List.eq_of_mem_replicate member

theorem fragmentFits_zeros {count : Nat} (long : Tally.limit < 32 * count) :
    fragmentFits (zeros count) = false := by
  refine fragmentFits_eq_false (fun c member => ?_) ?_
  · rw [List.eq_of_mem_replicate member]
    exact isCaseless_zero
  · rwa [List.length_replicate]

theorem globFits_zeros {count : Nat} (long : Tally.limit < 32 * count) :
    globFits (zeros count) = false := by
  refine globFits_eq_false (fun c member => ?_) ?_
  · rw [List.eq_of_mem_replicate member]
    decide
  · rwa [List.length_replicate]

end LogQuery.Wildcard
