import LogQuery.Config.LogConfig
import LogQuery.Extraction.FileParser
import LogQuery.Outcome
import LogQuery.Proofs.Extraction.Merging
import LogQuery.Proofs.Regex.Footprint
import LogQuery.Proofs.Regex.Machine

/-!
# Pairs of words

Unless a configuration says otherwise, the fields of an event are the pairs of words around an
equals sign.
-/

namespace LogQuery.Extraction

open LogQuery.Regex LogQuery.Text

/-! ## The pattern of pairs -/

/-- The pattern of pairs. -/
def pairPattern : String := "(\\w+)=(\\w+)"

/-- A group of word characters in a row. -/
def wordGroup (index : Nat) : Expr :=
  .group index none (.repeats 1 none true (.one .word))

/-- What the pattern of pairs stands for. -/
def pairExpr : Expr :=
  .concat (wordGroup 1) (.concat (.one (.single '=')) (wordGroup 2))

theorem ofPattern_pairPattern :
    (Pattern.read pairPattern.toList >>= Expr.ofPattern) = .ok pairExpr := by
  with_unfolding_all rfl

theorem outline_wordGroup (index : Nat) :
    (wordGroup index).outline =
      .group index (.repeats 1 none true (.set CharSet.word.ranges)) := by
  have several := CharSet.several_word
  calc (wordGroup index).outline
    _ = .group index (.repeats 1 none true (.ofRanges CharSet.word.ranges)) := rfl
    _ = .group index (.repeats 1 none true (.set CharSet.word.ranges)) := by
        rw [Outline.ofRanges]
        rintro low high single
        rw [single] at several
        exact absurd several (Nat.not_succ_le_self 1)

theorem outline_pairExpr :
    pairExpr.outline =
      .concat [(wordGroup 1).outline, .literal ['='], (wordGroup 2).outline] := by
  calc pairExpr.outline
    _ = (wordGroup 1).outline.append ((Outline.literal ['=']).append (wordGroup 2).outline) := rfl
    _ = .concat [(wordGroup 1).outline, .literal ['='], (wordGroup 2).outline] := by
        rw [outline_wordGroup, outline_wordGroup]
        rfl

/-- The expression of pairs is small enough to be searched for. -/
theorem fits_pairExpr : pairExpr.fits = true := by
  have takesWords (direction : Direction) (index : Nat) :
      ((wordGroup index).outline.write direction).TakesAtMost (200000 + 40 + 68) := by
    rw [outline_wordGroup]
    refine Outline.takesAtMost_group (Outline.takesAtMost_onceOrMore ?_)
    exact (Outline.takesAtMost_set direction CharSet.word.ranges).mono
      (CharSet.word_takes direction)
  have takes (direction : Direction) : (pairExpr.outline.write direction).TakesAtMost
      ([200108, 32, 200108].sum + 4 * 3) := by
    rw [outline_pairExpr]
    exact Outline.takesAtMost_concat <|
      .cons (takesWords direction 1) <| .cons (Outline.takesAtMost_literal direction ['=']) <|
      .cons (takesWords direction 2) .nil
  exact Expr.fits_of_takesAtMost takes (by decide)

theorem compile_of_read {source : String} {expr : Expr}
    (read : (Pattern.read source.toList >>= Expr.ofPattern) = .ok expr) :
    Regex.compile source =
      if expr.fits then .ok ⟨source, namesByIndex expr.groups, .ofExpr expr⟩
      else .error .tooLarge := by
  obtain ⟨pattern, read, translated⟩ := bind_eq_ok.mp read
  rw [Regex.compile, read]
  change (Expr.ofPattern pattern >>= _) = _
  rw [translated]
  rfl

theorem program_eq_of_compile {source : String} {expr : Expr} {regex : Regex}
    (read : (Pattern.read source.toList >>= Expr.ofPattern) = .ok expr)
    (compiled : Regex.compile source = .ok regex) : regex.program = .ofExpr expr := by
  rw [compile_of_read read] at compiled
  split at compiled
  · cases compiled
    rfl
  · cases compiled

/-- The program of the pattern of pairs. -/
def pairProgram : Program := .ofExpr pairExpr

/-- The pattern of pairs, ready to search. -/
def pairRegex : Regex := ⟨pairPattern, [none, none], pairProgram⟩

theorem compile_pairPattern : Regex.compile pairPattern = .ok pairRegex := by
  rw [compile_of_read ofPattern_pairPattern, if_pos fits_pairExpr]
  rfl

/-! ## Where pairs are found -/

/-- Word characters in a row. -/
structure IsWordRun (chars : List Char) : Prop where
  some : chars ≠ []
  words : ∀ c ∈ chars, isWord c = true

section Trace

variable {text : Array Char} {position : Nat} {key value rest : List Char}

theorem isClosed_pairProgram : pairProgram.IsClosed := by
  decide

/-- A pair begins with a word character. -/
theorem fails_pairProgram (free : ∀ c, text[position]? = some c → isWord c = false) :
    pairProgram.Fails text (pairProgram.entryAt position) := by
  refine .mark 8 rfl (.one .word 7 rfl fun c read held => ?_)
  rw [CharSet.contains, free c read] at held
  cases held

/-- What a pair leaves behind: where its words begin and end. -/
def pairMarks (position keyLength valueLength : Nat) : Marks :=
  [(5, position + keyLength + 1 + valueLength), (4, position + keyLength + 1),
    (3, position + keyLength), (2, position)]

theorem leads_pairProgram
    (stands : text.toList.drop position = key ++ '=' :: (value ++ rest))
    (keyRun : IsWordRun key) (valueRun : IsWordRun value)
    (ends : ∀ c, rest.head? = some c → isWord c = false) :
    pairProgram.Leads text (pairProgram.entryAt position)
      ⟨0, position + key.length + 1 + value.length,
        pairMarks position key.length value.length⟩ := by
  have signStands := Program.drop_add key stands
  have valueStands := Program.drop_add ['='] signStands
  have signEnds : ∀ c, ('=' :: (value ++ rest)).head? = some c → isWord c = false := by
    rintro c ⟨⟩
    rfl
  refine .mark 8 rfl ?_
  refine .onceOrMore .word 7 6 rfl rfl signEnds stands keyRun.some keyRun.words ?_
  refine .mark 5 rfl ?_
  refine .one (.single '=') 4 rfl (Program.getElem?_of_drop signStands) rfl ?_
  refine .mark 3 rfl ?_
  refine .onceOrMore .word 2 1 rfl rfl ends valueStands valueRun.some valueRun.words ?_
  exact .mark 0 rfl (.accept rfl)

theorem extract_of_drop {front : List Char} (stands : text.toList.drop position = front ++ rest) :
    String.ofList (text.extract position (position + front.length)).toList =
      String.ofList front := by
  rw [Array.toList_extract, List.extract_eq_take_drop, Nat.add_sub_cancel_left, stands,
    List.take_left]

/-- The groups of a pair are its words. -/
theorem groups_pairMarks (start stop : Nat)
    (stands : text.toList.drop position = key ++ '=' :: (value ++ rest)) :
    let hit : Hit := ⟨start, stop, pairMarks position key.length value.length⟩
    hit.group? text 1 = some (String.ofList key) ∧
      hit.group? text 2 = some (String.ofList value) := by
  have valueStands := Program.drop_add ['='] (Program.drop_add key stands)
  exact ⟨congrArg some (extract_of_drop stands), congrArg some (extract_of_drop valueStands)⟩

end Trace

/-! ## Pairs in a row -/

/-- A pair as it is written. -/
def pairText (pair : String × String) : String :=
  pair.1 ++ "=" ++ pair.2

/-- Pairs with single blanks between them. -/
def pairsText (pairs : List (String × String)) : String :=
  " ".intercalate (pairs.map pairText)

/-- What stands behind a pair. -/
def behindPair : List (String × String) → List Char
  | [] => []
  | pair :: pairs => ' ' :: (pairsText (pair :: pairs)).toList

theorem toList_pairsText_cons (pair : String × String) (pairs : List (String × String)) :
    (pairsText (pair :: pairs)).toList =
      pair.1.toList ++ '=' :: (pair.2.toList ++ behindPair pairs) := by
  cases pairs with
  | nil =>
      rw [pairsText, List.map_singleton, String.intercalate_singleton, pairText, behindPair]
      simp
  | cons next pairs =>
      rw [pairsText, List.map_cons, List.map_cons, String.intercalate_cons_cons, ← List.map_cons,
        ← pairsText, pairText, behindPair]
      simp

/-- Pairs are written with the characters of their words, equals signs and blanks. -/
theorem mem_pairsText {pairs : List (String × String)} {c : Char}
    (member : c ∈ (pairsText pairs).toList) :
    (∃ pair ∈ pairs, c ∈ pair.1.toList ∨ c ∈ pair.2.toList) ∨ c = '=' ∨ c = ' ' := by
  induction pairs with
  | nil => simp [pairsText] at member
  | cons pair pairs inductionHypothesis =>
      rw [toList_pairsText_cons] at member
      rcases List.mem_append.mp member with inKey | behindKey
      · exact .inl ⟨pair, List.mem_cons_self, .inl inKey⟩
      rcases List.mem_cons.mp behindKey with sign | behindSign
      · exact .inr (.inl sign)
      rcases List.mem_append.mp behindSign with inValue | behindValue
      · exact .inl ⟨pair, List.mem_cons_self, .inr inValue⟩
      cases pairs with
      | nil => cases behindValue
      | cons next pairs =>
          rcases List.mem_cons.mp behindValue with blank | further
          · exact .inr (.inr blank)
          rcases inductionHypothesis further with ⟨other, otherMember, within⟩ | between
          · exact .inl ⟨other, List.mem_cons_of_mem pair otherMember, within⟩
          · exact .inr between

theorem head?_behindPair {pairs : List (String × String)} {c : Char}
    (head : (behindPair pairs).head? = some c) : c = ' ' := by
  cases pairs with
  | nil => cases head
  | cons pair pairs => exact (Option.some.inj head).symm

/-- Both words of a pair consist of word characters. -/
def IsWordPair (pair : String × String) : Prop :=
  IsWordRun pair.1.toList ∧ IsWordRun pair.2.toList

section Hits

variable {text : Array Char} {pairs : List (String × String)}

/-- Pairs are found one after the other. -/
theorem map_groups_hitsFrom (wordPairs : ∀ pair ∈ pairs, IsWordPair pair)
    {start position fuel : Nat} {lastStop : Option Nat}
    (stands : text.toList.drop position = (pairsText pairs).toList)
    (withinText : position ≤ text.size) (start_le : start ≤ position)
    (skipped : ∀ earlier, start ≤ earlier → earlier < position →
      pairProgram.Fails text (pairProgram.entryAt earlier))
    (enough : pairs.length < fuel) :
    (pairProgram.hitsFrom text fuel start lastStop).map
        (fun hit => [hit.group? text 1, hit.group? text 2]) =
      pairs.map fun pair => [some pair.1, some pair.2] := by
  induction pairs generalizing start position fuel lastStop with
  | nil =>
      have atEnd : text.size ≤ position := by
        simpa [pairsText] using stands
      rw [Program.hitsFrom_nil]
      · rfl
      refine Program.findFrom_eq_none isClosed_pairProgram (by omega) fun earlier from_le _ => ?_
      rcases Nat.lt_or_ge earlier position with before | behind
      · exact skipped earlier from_le before
      · refine fails_pairProgram fun c read => ?_
        rw [Array.getElem?_eq_none (by omega)] at read
        cases read
  | cons pair pairs inductionHypothesis =>
      obtain ⟨⟨keyRun, valueRun⟩, wordPairsBehind⟩ := List.forall_mem_cons.mp wordPairs
      rw [toList_pairsText_cons] at stands
      have stops : ∀ c, (behindPair pairs).head? = some c → isWord c = false := by
        intro c head
        rw [head?_behindPair head]
        rfl
      have found := Program.findFrom_eq_some isClosed_pairProgram start_le withinText skipped
        (leads_pairProgram stands keyRun valueRun stops)
      obtain _ | fuel := fuel
      · exact absurd enough (Nat.not_lt_zero _)
      have enoughBehind : pairs.length < fuel := Nat.lt_of_succ_lt_succ enough
      obtain ⟨keyGroup, valueGroup⟩ := groups_pairMarks position
        (position + pair.1.toList.length + 1 + pair.2.toList.length) stands
      rw [Program.hitsFrom_cons found (by dsimp only; omega), List.map_cons, List.map_cons,
        keyGroup, valueGroup, String.ofList_toList, String.ofList_toList]
      refine congrArg _ ?_
      have whole := congrArg List.length stands
      simp only [List.length_drop, Array.length_toList, List.length_append, List.length_cons]
        at whole
      have behindStands : text.toList.drop
          (position + pair.1.toList.length + 1 + pair.2.toList.length) = behindPair pairs :=
        Program.drop_add _ (Program.drop_add ['='] (Program.drop_add _ stands))
      cases pairs with
      | nil =>
          exact inductionHypothesis wordPairsBehind behindStands (by omega) (Nat.le_refl _)
            (fun earlier from_le before => absurd from_le (Nat.not_le_of_lt before)) enoughBehind
      | cons next pairs =>
          refine inductionHypothesis wordPairsBehind
            (Program.drop_add [' '] behindStands) ?_ (Nat.le_succ _) ?_ enoughBehind
          · rw [behindPair, List.length_cons] at whole
            dsimp only [List.length_singleton]
            omega
          -- No pair begins at the blank in front of the next one.
          · intro earlier from_le before
            obtain rfl : earlier = _ := Nat.le_antisymm (Nat.le_of_lt_succ before) from_le
            refine fails_pairProgram fun c read => ?_
            rw [Program.getElem?_of_drop behindStands] at read
            exact stops c read

theorem length_le_length_pairsText (pairs : List (String × String)) :
    pairs.length ≤ (pairsText pairs).toList.length := by
  induction pairs with
  | nil => exact Nat.zero_le _
  | cons pair pairs inductionHypothesis =>
      rw [toList_pairsText_cons]
      simp only [List.length_append, List.length_cons]
      cases pairs with
      | nil =>
          rw [List.length_nil]
          omega
      | cons next pairs =>
          have behind : (behindPair (next :: pairs)).length =
            (pairsText (next :: pairs)).toList.length + 1 := rfl
          omega

/-- The pairs of words and what is between them are found whole. -/
theorem captures_pairsText (wordPairs : ∀ pair ∈ pairs, IsWordPair pair) :
    pairRegex.captures (pairsText pairs) =
      pairs.map fun pair => [some pair.1, some pair.2] := by
  refine map_groups_hitsFrom wordPairs rfl (Nat.zero_le _) (Nat.le_refl 0)
    (fun earlier _ before => absurd before (Nat.not_lt_zero earlier)) ?_
  exact Nat.lt_succ_of_le (Nat.le_succ_of_le (length_le_length_pairsText pairs))

theorem addMatches_pairsText (wordPairs : ∀ pair ∈ pairs, IsWordPair pair) :
    addMatches (pairsText pairs) ∅ pairRegex = Fields.ofPairs pairs := by
  rw [addMatches]
  change List.foldl addPair ∅ _ = _
  rw [captures_pairsText wordPairs, List.foldl_map]
  rfl

end Hits

/-! ## The time at the start of an event -/

/-- The pattern of a time. -/
def timePattern : String :=
  "^(?P<_time>\\d\\d\\d\\d/\\d\\d/\\d\\d \\d\\d:\\d\\d:\\d\\d\\.\\d\\d\\d\\d\\d\\d)"

/-- Parts one after the other. -/
def inRow : List Expr → Expr
  | [] => .empty
  | [part] => part
  | part :: parts => .concat part (inRow parts)

/-- What the pattern of a time stands for: digits where a letter stands, else the sign itself. -/
def timeExpr : Expr :=
  .concat (.look .textStart) <| .group 1 (some "_time") <| inRow <|
    "dddd/dd/dd dd:dd:dd.dddddd".toList.map fun c =>
      .one (if c == 'd' then .digit else .single c)

theorem ofPattern_timePattern :
    (Pattern.read timePattern.toList >>= Expr.ofPattern) = .ok timeExpr := by
  with_unfolding_all rfl

/-- There is no time without a slash. -/
theorem fails_timeExpr {text : Array Char} (noSlash : ∀ position : Nat, text[position]? ≠ some '/')
    (position : Nat) :
    (Program.ofExpr timeExpr).Fails text ((Program.ofExpr timeExpr).entryAt position) := by
  refine .look 28 rfl (.mark 27 rfl ?_)
  refine .one .digit 26 rfl fun _ _ _ => ?_
  refine .one .digit 25 rfl fun _ _ _ => ?_
  refine .one .digit 24 rfl fun _ _ _ => ?_
  refine .one .digit 23 rfl fun _ _ _ => ?_
  refine .one (.single '/') 22 rfl fun c read held => ?_
  rw [(CharSet.contains_single _ _).mp held] at read
  exact absurd read (noSlash _)

section Built

variable {pairs : List (String × String)}

theorem addMatches_of_noHits {text : String} {regex : Regex} (fields : Fields)
    (noHits : regex.program.hits text.toList.toArray = []) :
    addMatches text fields regex = fields := by
  have nothing : regex.captures text = [] := by
    rw [Regex.captures, noHits]
    rfl
  rw [addMatches]
  split
  · rw [nothing]
    rfl
  · rw [nothing]
    rfl

theorem hits_timeExpr (wordPairs : ∀ pair ∈ pairs, IsWordPair pair) :
    (Program.ofExpr timeExpr).hits (pairsText pairs).toList.toArray = [] := by
  refine Program.hitsFrom_nil (Program.findFrom_eq_none (by decide) (Nat.zero_le _) ?_)
  refine fun position _ _ => fails_timeExpr (fun position slash => ?_) position
  rw [List.getElem?_toArray] at slash
  rcases mem_pairsText (List.mem_of_getElem? slash) with
    ⟨pair, member, inKey | inValue⟩ | sign | blank
  · exact absurd ((wordPairs pair member).1.words _ inKey) (by decide)
  · exact absurd ((wordPairs pair member).2.words _ inValue) (by decide)
  · exact absurd sign (by decide)
  · exact absurd blank (by decide)

/-- The built-in patterns find the pairs and nothing else. -/
theorem fieldsByRegex_pairsText (wordPairs : ∀ pair ∈ pairs, IsWordPair pair) :
    fieldsByRegex (compilable [pairPattern, timePattern]) (pairsText pairs) =
      Fields.ofPairs pairs := by
  rw [compilable_cons_of_ok compile_pairPattern, fieldsByRegex, List.foldl_cons,
    addMatches_pairsText wordPairs]
  -- Whether the pattern of a time is small enough does not matter, for it finds nothing.
  cases compiled : Regex.compile timePattern with
  | error reason =>
      rw [compilable_cons_of_error compiled]
      rfl
  | ok regex =>
      rw [compilable_cons_of_ok compiled, List.foldl_cons]
      refine addMatches_of_noHits _ ?_
      rw [program_eq_of_compile ofPattern_timePattern compiled]
      exact hits_timeExpr wordPairs

end Built

end LogQuery.Extraction
