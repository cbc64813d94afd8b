import LogQuery.Proofs.Text.ByteSequences
import LogQuery.Regex.Footprint
import Mathlib

/-!
# Bounds on the size of automata

Which states of a network are found again depends on the slots that they fall into.  Bounds that
hold whatever is found are enough to tell that an automaton stays within the limit, or that it
outgrows it.
-/

namespace LogQuery.Regex

open LogQuery.Text

/-! ## Networks -/

namespace Network

/-- The bytes that the states for one sequence take when none of them is found again. -/
def sequenceBytes : Direction → ByteSequence → Nat
  | .forward, sequence => 8 + 40 * (sequence.length - 1)
  | .backward, sequence => 4 + 32 * sequence.length

/-- The bytes that the states for all sequences take when none of them is found again. -/
def weight (direction : Direction) (sequences : List ByteSequence) : Nat :=
  (sequences.map (sequenceBytes direction)).sum

@[simp] theorem weight_cons (direction : Direction) (sequence : ByteSequence)
    (sequences : List ByteSequence) :
    weight direction (sequence :: sequences) =
      sequenceBytes direction sequence + weight direction sequences := by
  rw [weight, List.map_cons, List.sum_cons, weight]

theorem weight_append (direction : Direction) (sequences others : List ByteSequence) :
    weight direction (sequences ++ others) =
      weight direction sequences + weight direction others := by
  rw [weight, List.map_append, List.sum_append, weight, weight]

theorem weight_map_tail_le (sequences : List ByteSequence) :
    weight .forward (sequences.map List.tail) ≤ weight .forward sequences := by
  induction sequences with
  | nil => exact Nat.le_refl _
  | cons sequence sequences inductionHypothesis =>
      rw [List.map_cons, weight_cons, weight_cons, sequenceBytes, sequenceBytes, List.length_tail]
      omega

/-- A sequence has four bytes at most. -/
theorem weight_byteSequences_le (direction : Direction) (ranges : CodeRanges) :
    weight direction ranges.byteSequences ≤ 132 * ranges.byteSequences.length := by
  have each : ∀ bytes ∈ ranges.byteSequences.map (sequenceBytes direction), bytes ≤ 132 := by
    refine List.forall_mem_map.mpr fun sequence member => ?_
    have short := CodeRanges.length_of_mem_byteSequences member
    cases direction with
    | forward =>
        rw [sequenceBytes]
        omega
    | backward =>
        rw [sequenceBytes]
        omega
  have bound := List.sum_le_card_nsmul _ 132 each
  rw [List.length_map, smul_eq_mul, Nat.mul_comm] at bound
  exact bound

/-- A state takes nothing or what a new one takes. -/
theorem state_bytes (network : Network) (size : Nat) (key : List Nat) (extra : Nat) :
    network.tally.bytes ≤ (network.state size key extra).2.tally.bytes ∧
      (network.state size key extra).2.tally.bytes ≤ network.tally.bytes + (32 + extra) := by
  simp only [state]
  split
  · exact ⟨Nat.le_refl _, Nat.le_add_right _ _⟩
  · simp only [Tally.add]
    omega

/-- The sequences that begin with one range of bytes, behind a state that is being put together. -/
def forwardGroup (target length : Nat) (made : List Nat × Network)
    (group : List ByteSequence) : List Nat × Network :=
  match group with
  | ((low, high) :: rest) :: _ =>
      let (next, network) :=
        if rest.isEmpty then (target, made.2)
        else forward target length (group.map List.tail) made.2
      (made.1 ++ [low, high, next], network)
  | _ => made

theorem forward_succ (target length : Nat) (sequences : List ByteSequence) (network : Network) :
    forward target (length + 1) sequences network =
      let groups := sequences.splitBy fun first second => first.head? == second.head?
      let made := groups.foldl (forwardGroup target length) ([], network)
      made.2.state forwardSlots made.1 (8 * groups.length) :=
  rfl

section Groups

variable {target length : Nat} (behind : ∀ sequences network,
  (forward target length sequences network).2.tally.bytes ≤
    network.tally.bytes + (32 + weight .forward sequences))

include behind

/-- What stands behind the first bytes of a group weighs less, which pays for one state more and for
the exit to it. -/
theorem forwardGroup_bytes_le (made : List Nat × Network) {group : List ByteSequence}
    (some : group ≠ []) :
    (forwardGroup target length made group).2.tally.bytes + 8 ≤
      made.2.tally.bytes + weight .forward group := by
  unfold forwardGroup
  split
  · next low high rest others =>
      have tails := weight_map_tail_le others
      have below := behind ((((low, high) :: rest) :: others).map List.tail) made.2
      rw [List.map_cons, List.tail_cons, weight_cons, sequenceBytes] at below
      rw [weight_cons, sequenceBytes, List.length_cons]
      dsimp only
      split
      · dsimp only
        omega
      · next goesOn =>
          have positive : 0 < rest.length :=
            List.length_pos_iff.mpr fun empty => goesOn (List.isEmpty_iff.mpr empty)
          rw [List.map_cons, List.tail_cons]
          omega
  · obtain ⟨sequence, others, rfl⟩ := List.exists_cons_of_ne_nil some
    rw [weight_cons, sequenceBytes]
    omega

theorem foldl_forwardGroup_bytes_le {groups : List (List ByteSequence)}
    (some : ∀ group ∈ groups, group ≠ []) (made : List Nat × Network) :
    (groups.foldl (forwardGroup target length) made).2.tally.bytes + 8 * groups.length ≤
      made.2.tally.bytes + weight .forward groups.flatten := by
  induction groups generalizing made with
  | nil => exact Nat.le_refl _
  | cons group groups inductionHypothesis =>
      obtain ⟨someHere, someBehind⟩ := List.forall_mem_cons.mp some
      have here := forwardGroup_bytes_le behind made someHere
      have others := inductionHypothesis someBehind (forwardGroup target length made group)
      rw [List.foldl_cons, List.length_cons, List.flatten_cons, weight_append]
      omega

end Groups

/-- The states that lead forward take forty bytes at most for each byte behind the first one. -/
theorem forward_bytes_le (target length : Nat) (sequences : List ByteSequence)
    (network : Network) :
    (forward target length sequences network).2.tally.bytes ≤
      network.tally.bytes + (32 + weight .forward sequences) := by
  induction length generalizing sequences network with
  | zero => exact Nat.le_add_right _ _
  | succ length inductionHypothesis =>
      rw [forward_succ]
      generalize split_eq : (sequences.splitBy fun first second => first.head? == second.head?) =
        groups
      have whole : groups.flatten = sequences := split_eq ▸ List.flatten_splitBy _ _
      have some (group : List ByteSequence) (member : group ∈ groups) : group ≠ [] := by
        rintro rfl
        rw [← split_eq] at member
        exact List.nil_notMem_splitBy _ _ member
      have made := foldl_forwardGroup_bytes_le inductionHypothesis some ([], network)
      have last := (groups.foldl (forwardGroup target length) ([], network)).2.state_bytes
        forwardSlots (groups.foldl (forwardGroup target length) ([], network)).1
        (8 * groups.length)
      rw [whole] at made
      dsimp only at made ⊢
      omega

theorem backward_cons (target : Nat) (range : Nat × Nat) (sequence : ByteSequence)
    (network : Network) :
    backward target (range :: sequence) network =
      let made := network.state backwardSlots [target, range.1, range.2] 0
      backward made.1 sequence made.2 :=
  rfl

/-- The states that lead backward take nothing or thirty-two bytes for each byte. -/
theorem backward_bytes (target : Nat) (sequence : ByteSequence) (network : Network) :
    network.tally.bytes ≤ (backward target sequence network).2.tally.bytes ∧
      (backward target sequence network).2.tally.bytes ≤
        network.tally.bytes + 32 * sequence.length := by
  induction sequence generalizing target network with
  | nil => exact ⟨Nat.le_refl _, Nat.le_refl _⟩
  | cons range sequence inductionHypothesis =>
      have here := network.state_bytes backwardSlots [target, range.1, range.2] 0
      have behind :=
        inductionHypothesis (network.state backwardSlots [target, range.1, range.2] 0).1
          (network.state backwardSlots [target, range.1, range.2] 0).2
      rw [backward_cons, List.length_cons]
      dsimp only
      omega

/-- A sequence as one of the ways to go on from a state that forks. -/
def addBackward (target : Nat) (network : Network) (sequence : ByteSequence) : Network :=
  let (_, ⟨written, slots⟩) := backward target sequence network
  ⟨written.addExit, slots⟩

theorem foldl_addBackward_bytes (target : Nat) (sequences : List ByteSequence)
    (network : Network) :
    network.tally.bytes ≤ (sequences.foldl (addBackward target) network).tally.bytes ∧
      (sequences.foldl (addBackward target) network).tally.bytes ≤
        network.tally.bytes + weight .backward sequences := by
  induction sequences generalizing network with
  | nil => exact ⟨Nat.le_refl _, Nat.le_refl _⟩
  | cons sequence sequences inductionHypothesis =>
      have here := backward_bytes target sequence network
      have behind := inductionHypothesis (addBackward target network sequence)
      have exit : (addBackward target network sequence).tally.bytes =
          (backward target sequence network).2.tally.bytes + 4 := rfl
      rw [List.foldl_cons, weight_cons, sequenceBytes]
      omega

end Network

/-! ## Writers -/

namespace CodeRanges

open Network

/-- A set takes no more than its sequences do when no state is found again. -/
theorem write_bytes_le (direction : Direction) (ranges : CodeRanges) (tally : Tally) :
    (write direction ranges tally).tally.bytes ≤
      tally.bytes + (64 + 8 * ranges.length + weight direction ranges.byteSequences) := by
  unfold write
  dsimp only
  split
  · simp only [Tally.addRanges, Tally.addPlain, Tally.add]
    omega
  · cases direction with
    | forward =>
        have bound := forward_bytes_le tally.states 4 ranges.byteSequences ⟨tally.addPlain 1, ∅⟩
        simp only [Tally.addPlain] at bound ⊢
        omega
    | backward =>
        have bound := (foldl_addBackward_bytes (tally.states + 1) ranges.byteSequences
          ⟨tally.addPlain 2, ∅⟩).2
        simp only [Tally.addPlain] at bound
        refine Nat.le_trans bound ?_
        omega

theorem le_write_backward_bytes (ranges : CodeRanges) (tally : Tally) :
    tally.bytes ≤ (write .backward ranges tally).tally.bytes := by
  unfold write
  dsimp only
  split
  · simp only [Tally.addRanges, Tally.addPlain, Tally.add]
    omega
  · refine Nat.le_trans ?_ (foldl_addBackward_bytes (tally.states + 1) ranges.byteSequences
      ⟨tally.addPlain 2, ∅⟩).1
    exact Nat.le_add_right _ _

end CodeRanges

namespace CharSet

theorem codes_single (c : Char) : (single c).codes = [(c.toNat, c.toNat)] :=
  if_pos (Nat.le_refl _)

/-- No character is a surrogate, so a single one is the only member of its table. -/
theorem ranges_single (c : Char) : (single c).ranges = [(c.toNat, c.toNat)] := by
  rw [ranges, codes_single, CodeRanges.characters, CodeRanges.lastCode, CodeRanges.clip_singleton,
    CodeRanges.clip_singleton]
  rcases c.valid with below | ⟨above, known⟩
  · have below : c.toNat < 0xD800 := below
    rw [if_pos (by omega), if_neg (by omega), Nat.zero_max,
      Nat.min_eq_right (Nat.le_of_lt_succ below), List.append_nil]
  · have above : 0xDFFF < c.toNat := above
    have known : c.toNat < 0x110000 := known
    rw [if_neg (by omega), if_pos (by omega), Nat.max_eq_right (Nat.succ_le_of_lt above),
      Nat.min_eq_right (Nat.le_of_lt_succ known), List.nil_append]

/-- The ranges of word characters as they are listed. -/
def listedWords : CodeRanges :=
  [(0x30, 0x39), (0x41, 0x5A), (0x5F, 0x5F), (0x61, 0x7A)] ++ wordTable

theorem codes_word : CharSet.word.codes =
    listedWords.foldr (fun range table => CodeRanges.prepend range.1 range.2 table) [] := by
  have ascending : (listedWords.map Prod.fst).IsChain (· ≤ ·) := by decide +kernel
  exact CodeRanges.ofRanges_of_ascending ascending.pairwise

theorem several_word : 2 ≤ CharSet.word.ranges.length := by
  rw [ranges, codes_word]
  decide +kernel

/-- The word characters of all scripts take two hundred thousand bytes at most. -/
theorem word_takes (direction : Direction) :
    64 + 8 * CharSet.word.ranges.length +
      Network.weight direction CharSet.word.ranges.byteSequences ≤ 200000 := by
  rw [ranges, codes_word]
  cases direction <;> decide +kernel

/-- All other characters take no more. -/
theorem complement_word_takes (direction : Direction) :
    64 + 8 * (complement .word).ranges.length +
      Network.weight direction (complement .word).ranges.byteSequences ≤ 200000 := by
  rw [ranges, codes, codes_word]
  cases direction <;> decide +kernel

end CharSet

/-- Whatever is written already, the part takes so many bytes at most. -/
def Writer.TakesAtMost (writer : Writer) (bytes : Nat) : Prop :=
  ∀ tally, (writer tally).tally.bytes ≤ tally.bytes + bytes

/-- Whatever is written already, the part takes so many bytes at least. -/
def Writer.TakesAtLeast (writer : Writer) (bytes : Nat) : Prop :=
  ∀ tally, tally.bytes + bytes ≤ (writer tally).tally.bytes

theorem Writer.TakesAtMost.mono {writer : Writer} {bytes more : Nat}
    (takes : writer.TakesAtMost bytes) (le : bytes ≤ more) : writer.TakesAtMost more :=
  fun tally => (takes tally).trans (Nat.add_le_add_left le _)

theorem Written.lead_bytes (written : Written) :
    written.tally.bytes ≤ written.lead.bytes ∧
      written.lead.bytes ≤ written.tally.bytes + 4 := by
  unfold lead
  split
  · exact ⟨Nat.le_add_right _ _, Nat.le_refl _⟩
  · exact ⟨Nat.le_refl _, Nat.le_add_right _ _⟩

/-! ## Characters in a row -/

theorem length_toList_loop (bytes : ByteArray) (index : Nat) (done : List UInt8) :
    (ByteArray.toList.loop bytes index done).length = done.length + (bytes.size - index) := by
  fun_induction ByteArray.toList.loop bytes index done with
  | case1 index done inside inductionHypothesis =>
      rw [inductionHypothesis, List.length_cons]
      omega
  | case2 index done outside =>
      rw [List.length_reverse]
      omega

theorem Direction.length_bytes (direction : Direction) (chars : List Char) :
    (direction.bytes chars).length = String.utf8Len chars := by
  have forward : (String.ofList chars).toUTF8.toList.length = String.utf8Len chars := by
    rw [ByteArray.toList, length_toList_loop, ← String.utf8ByteSize_ofList]
    exact Nat.zero_add _
  cases direction with
  | forward => exact forward
  | backward => exact List.length_reverse.trans forward

theorem length_le_utf8Len (chars : List Char) : chars.length ≤ String.utf8Len chars := by
  induction chars with
  | nil => exact Nat.le_refl 0
  | cons c chars inductionHypothesis =>
      rw [List.length_cons, String.utf8Len_cons]
      exact Nat.add_le_add inductionHypothesis c.utf8Size_pos

namespace Outline

variable {direction : Direction} {body : Outline} {bytes index : Nat}

theorem ofRanges_eq_set_or_literal (ranges : CodeRanges) :
    ofRanges ranges = .set ranges ∨ ∃ c, ofRanges ranges = .literal [c] := by
  unfold ofRanges
  split
  · split
    · exact .inr ⟨_, rfl⟩
    · exact .inl rfl
  · exact .inl rfl

section Equations

theorem write_set (direction : Direction) (ranges : CodeRanges) :
    write direction (.set ranges) = CodeRanges.write direction ranges := rfl

theorem write_literal (direction : Direction) (chars : List Char) (tally : Tally) :
    write direction (.literal chars) tally =
      ⟨tally.addPlain (direction.bytes chars).length, false⟩ := rfl

theorem write_look (direction : Direction) (condition : Look) (tally : Tally) :
    write direction (.look condition) tally = ⟨tally.addPlain 1, false⟩ := rfl

theorem write_forward_group (index : Nat) (body : Outline) (tally : Tally) :
    write .forward (.group index body) tally = (write .forward body (tally.addPlain 1)).close := rfl

theorem write_backward_group (index : Nat) (body : Outline) :
    write .backward (.group index body) = write .backward body := rfl

theorem write_repeats (direction : Direction) (min : Nat) (max : Option Nat) (greedy : Bool)
    (body : Outline) :
    write direction (.repeats min max greedy body) =
      Writer.repeats (write direction body) (body.leastLength?.all (· == 0)) min max := rfl

theorem write_forward_concat (parts : List Outline) (tally : Tally) :
    write .forward (.concat parts) tally = writeForward parts ⟨tally, false⟩ := rfl

theorem write_backward_concat (parts : List Outline) (tally : Tally) :
    write .backward (.concat parts) tally = writeBackward parts ⟨tally, false⟩ := rfl

theorem writeForward_cons (part : Outline) (parts : List Outline) (written : Written) :
    writeForward (part :: parts) written = writeForward parts (write .forward part written.lead) :=
  rfl

theorem writeBackward_cons (part : Outline) (parts : List Outline) (written : Written) :
    writeBackward (part :: parts) written =
      write .backward part (writeBackward parts written).lead := rfl

theorem write_alt (direction : Direction) {branches : List Outline}
    (noWords : branches.mapM chars? = none) (tally : Tally) :
    write direction (.alt branches) tally =
      ⟨writeBranches direction 0 branches tally, false⟩ := by
  rw [write, noWords]

theorem writeBranches_cons (direction : Direction) (done : Nat) (branch : Outline)
    (branches : List Outline) (tally : Tally) :
    writeBranches direction done (branch :: branches) tally =
      writeBranches direction (done + 1) branches
        (if done = 1 then (write direction branch tally).lead.addExit.addPlain 2
          else (write direction branch tally).lead.addExit) := rfl

end Equations

theorem takesAtMost_set (direction : Direction) (ranges : CodeRanges) :
    (write direction (.set ranges)).TakesAtMost
      (64 + 8 * ranges.length + Network.weight direction ranges.byteSequences) := by
  rw [write_set]
  exact CodeRanges.write_bytes_le direction ranges

theorem takesAtMost_literal (direction : Direction) (chars : List Char) :
    (write direction (.literal chars)).TakesAtMost (32 * String.utf8Len chars) := by
  intro tally
  rw [write_literal, Direction.length_bytes]
  exact Nat.le_refl _

theorem takesAtMost_look (direction : Direction) (condition : Look) :
    (write direction (.look condition)).TakesAtMost 32 := by
  intro tally
  rw [write_look]
  exact Nat.le_refl _

/-- A single character has four bytes at most. -/
theorem takesAtMost_ofRanges {ranges : CodeRanges}
    (set : 64 + 8 * ranges.length + Network.weight direction ranges.byteSequences ≤ bytes)
    (single : 128 ≤ bytes) : (write direction (.ofRanges ranges)).TakesAtMost bytes := by
  rcases ofRanges_eq_set_or_literal ranges with isSet | ⟨c, isLiteral⟩
  · rw [isSet]
    exact (takesAtMost_set direction ranges).mono set
  · rw [isLiteral]
    refine (takesAtMost_literal direction [c]).mono (Nat.le_trans ?_ single)
    have short := c.utf8Size_le_four
    rw [String.utf8Len_cons, String.utf8Len_nil]
    omega

theorem takesAtMost_anyNumber {greedy : Bool} {least : Nat}
    (some : body.leastLength? = some (least + 1))
    (takes : (write direction body).TakesAtMost bytes) :
    (write direction (.repeats 0 none greedy body)).TakesAtMost (bytes + 40) := by
  intro tally
  have once := takes (tally.add 4)
  have lead := (write direction body (tally.add 4)).lead_bytes.2
  have begins : (tally.add 4).bytes = tally.bytes + 36 := rfl
  have takesOne : (body.leastLength?.all (· == 0)) = false := by
    rw [some]
    rfl
  have unfolded : write direction (.repeats 0 none greedy body) tally =
      ⟨(write direction body (tally.add 4)).lead, true⟩ := by
    rw [write_repeats, takesOne]
    rfl
  rw [unfolded]
  dsimp only
  omega

theorem takesAtMost_onceOrMore {greedy : Bool} (takes : (write direction body).TakesAtMost bytes) :
    (write direction (.repeats 1 none greedy body)).TakesAtMost (bytes + 40) := by
  intro tally
  have once := takes tally
  have lead := (write direction body tally).lead_bytes.2
  rw [write_repeats, Writer.repeats, Writer.times, Written.again]
  · simp only [Tally.add]
    omega
  · nofun

theorem takesAtMost_group (takes : (write direction body).TakesAtMost bytes) :
    (write direction (.group index body)).TakesAtMost (bytes + 68) := by
  intro tally
  cases direction with
  | forward =>
      have within := takes (tally.addPlain 1)
      have lead := (write .forward body (tally.addPlain 1)).lead_bytes.2
      rw [write_forward_group]
      simp only [Written.close, Tally.addPlain] at within lead ⊢
      omega
  | backward =>
      have within := takes tally
      rw [write_backward_group]
      omega

/-- Parts in a row take what they take one by one, and four bytes for each way to the next. -/
theorem takesAtMost_concat {parts : List Outline} {each : List Nat}
    (takes : List.Forall₂ (fun part bytes => (write direction part).TakesAtMost bytes)
      parts each) :
    (write direction (.concat parts)).TakesAtMost (each.sum + 4 * parts.length) := by
  cases direction with
  | forward =>
      have row (written : Written) : (writeForward parts written).tally.bytes ≤
          written.tally.bytes + (each.sum + 4 * parts.length) := by
        induction takes generalizing written with
        | nil => exact Nat.le_refl _
        | @cons part bytes parts each here _ inductionHypothesis =>
            have lead := written.lead_bytes.2
            have first := here written.lead
            have behind := inductionHypothesis (write .forward part written.lead)
            rw [writeForward_cons, List.sum_cons, List.length_cons]
            omega
      intro tally
      rw [write_forward_concat]
      exact row ⟨tally, false⟩
  | backward =>
      have row (written : Written) : (writeBackward parts written).tally.bytes ≤
          written.tally.bytes + (each.sum + 4 * parts.length) := by
        induction takes with
        | nil => exact Nat.le_refl _
        | @cons part bytes parts each here _ inductionHypothesis =>
            have lead := (writeBackward parts written).lead_bytes.2
            have first := here (writeBackward parts written).lead
            rw [writeBackward_cons, List.sum_cons, List.length_cons]
            omega
      intro tally
      rw [write_backward_concat]
      exact row ⟨tally, false⟩

/-- Alternatives that are no words take what they take one by one, eight bytes for each of them and
two states more. -/
theorem takesAtMost_alt {branches : List Outline} {each : List Nat}
    (noWords : branches.mapM chars? = none)
    (takes : List.Forall₂ (fun branch bytes => (write direction branch).TakesAtMost bytes)
      branches each) :
    (write direction (.alt branches)).TakesAtMost (each.sum + 8 * branches.length + 64) := by
  -- the two states follow the second alternative, so they are still to come up to there
  have row (done : Nat) (tally : Tally) :
      (writeBranches direction done branches tally).bytes ≤
        tally.bytes + (each.sum + 8 * branches.length + if done ≤ 1 then 64 else 0) := by
    clear noWords
    induction takes generalizing done tally with
    | nil => exact Nat.le_add_right _ _
    | @cons branch bytes branches each here _ inductionHypothesis =>
        have written := here tally
        have lead := (write direction branch tally).lead_bytes.2
        have exit : (write direction branch tally).lead.addExit.bytes =
            (write direction branch tally).lead.bytes + 4 := rfl
        have plain : ((write direction branch tally).lead.addExit.addPlain 2).bytes =
            (write direction branch tally).lead.addExit.bytes + 64 := rfl
        have behind := inductionHypothesis (done + 1)
          (if done = 1 then (write direction branch tally).lead.addExit.addPlain 2
            else (write direction branch tally).lead.addExit)
        rw [writeBranches_cons, List.sum_cons, List.length_cons]
        refine behind.trans ?_
        split_ifs <;> omega
  intro tally
  rw [write_alt direction noWords]
  exact row 0 tally

/-! ## Rows of parts -/

/-- Parts of which none is a row itself, and the bytes that they take with the ways from each of
them to the next. -/
inductive Row (direction : Direction) : List Outline → Nat → Prop where
  | nil : Row direction [] 0
  | cons {part : Outline} {parts : List Outline} {here behind : Nat}
      (alone : part.parts = [part]) (takes : (write direction part).TakesAtMost here)
      (row : Row direction parts behind) : Row direction (part :: parts) (here + 4 + behind)

namespace Row

variable {part : Outline} {parts others : List Outline} {here behind : Nat}

theorem parts_ofParts (row : Row direction parts bytes) : (ofParts parts).parts = parts := by
  cases row with
  | nil => rfl
  | cons alone takes row =>
      cases row with
      | nil => exact alone
      | cons _ _ _ => rfl

/-- Literals that meet take as one what they took apart. -/
theorem before (alone : part.parts = [part]) (takes : (write direction part).TakesAtMost here)
    (row : Row direction parts behind) :
    Row direction (Outline.before part parts) (here + 4 + behind) := by
  unfold Outline.before
  split
  · next chars others rest =>
      cases row with
      | @cons _ _ bytes behind _ takesToo row =>
          have first := takes ⟨0, 0⟩
          have second := takesToo ⟨0, 0⟩
          rw [write_literal, Direction.length_bytes] at first second
          simp only [Tally.addPlain] at first second
          have together : (write direction (.literal (chars ++ others))).TakesAtMost
              (here + 4 + bytes) := by
            refine (takesAtMost_literal direction (chars ++ others)).mono ?_
            rw [String.utf8Len_append]
            omega
          have joined := row.cons rfl together
          have total : here + 4 + bytes + 4 + behind = here + 4 + (bytes + 4 + behind) := by omega
          rwa [total] at joined
  · exact row.cons alone takes

theorem foldr_before (row : Row direction parts here) (rowToo : Row direction others behind) :
    Row direction (parts.foldr Outline.before others) (here + behind) := by
  induction row with
  | nil =>
      rw [Nat.zero_add]
      exact rowToo
  | cons alone takes _ inductionHypothesis =>
      rw [Nat.add_assoc]
      exact inductionHypothesis.before alone takes

theorem exists_each (row : Row direction parts bytes) :
    ∃ each, List.Forall₂ (fun part bytes => (write direction part).TakesAtMost bytes) parts each ∧
      each.sum + 4 * parts.length = bytes := by
  induction row with
  | nil => exact ⟨[], .nil, rfl⟩
  | @cons part parts here behind _ takes _ inductionHypothesis =>
      obtain ⟨each, all, sum⟩ := inductionHypothesis
      refine ⟨here :: each, .cons takes all, ?_⟩
      rw [List.sum_cons, List.length_cons]
      omega

/-- A row takes what its parts take, and no parts at all are one empty state. -/
theorem takesAtMost (row : Row direction parts bytes) :
    (write direction (ofParts parts)).TakesAtMost (bytes + 32) := by
  obtain ⟨each, all, sum⟩ := row.exists_each
  cases row with
  | nil => exact fun tally => Nat.le_refl _
  | cons _ takes row =>
      cases row with
      | nil => exact takes.mono (by omega)
      | cons _ _ _ => exact (takesAtMost_concat all).mono (by omega)

end Row

/-- An outline is a row of parts that take so many bytes at most. -/
def IsRow (direction : Direction) (bytes : Nat) (outline : Outline) : Prop :=
  ∃ parts taken, outline = ofParts parts ∧ Row direction parts taken ∧ taken ≤ bytes

theorem isRow_empty : IsRow direction 0 .empty :=
  ⟨[], 0, rfl, .nil, Nat.le_refl 0⟩

theorem isRow_of_takesAtMost (alone : body.parts = [body])
    (takes : (write direction body).TakesAtMost bytes) : IsRow direction (bytes + 4) body :=
  ⟨[body], bytes + 4 + 0, rfl, .cons alone takes .nil, Nat.le_refl _⟩

theorem IsRow.mono {more : Nat} (row : IsRow direction bytes body) (le : bytes ≤ more) :
    IsRow direction more body := by
  obtain ⟨parts, taken, outline_eq, row, taken_le⟩ := row
  exact ⟨parts, taken, outline_eq, row, taken_le.trans le⟩

theorem IsRow.append {first second : Outline} {behind : Nat} (row : IsRow direction bytes first)
    (rowToo : IsRow direction behind second) :
    IsRow direction (bytes + behind) (first.append second) := by
  obtain ⟨parts, taken, rfl, row, taken_le⟩ := row
  obtain ⟨others, takenToo, rfl, rowToo, taken_leToo⟩ := rowToo
  refine ⟨parts.foldr Outline.before others, taken + takenToo, ?_, row.foldr_before rowToo,
    Nat.add_le_add taken_le taken_leToo⟩
  rw [Outline.append, row.parts_ofParts, rowToo.parts_ofParts]

theorem IsRow.takesAtMost (row : IsRow direction bytes body) :
    (write direction body).TakesAtMost (bytes + 32) := by
  obtain ⟨parts, taken, rfl, row, taken_le⟩ := row
  exact row.takesAtMost.mono (Nat.add_le_add_right taken_le 32)

theorem takesAtLeast_set (ranges : CodeRanges) :
    (write .backward (.set ranges)).TakesAtLeast 0 := by
  rw [write_set]
  exact CodeRanges.le_write_backward_bytes ranges

theorem takesAtLeast_literal (direction : Direction) (chars : List Char) :
    (write direction (.literal chars)).TakesAtLeast (32 * chars.length) := by
  intro tally
  have enough := length_le_utf8Len chars
  rw [write_literal, Direction.length_bytes]
  simp only [Tally.addPlain]
  omega

theorem takesAtLeast_ofRanges (ranges : CodeRanges) :
    (write .backward (.ofRanges ranges)).TakesAtLeast 0 := by
  rcases ofRanges_eq_set_or_literal ranges with set | ⟨c, literal⟩
  · rw [set]
    exact takesAtLeast_set ranges
  · intro tally
    rw [literal]
    exact Nat.le_trans (Nat.le_add_right _ _) (takesAtLeast_literal .backward [c] tally)

theorem takesAtLeast_look (direction : Direction) (condition : Look) :
    (write direction (.look condition)).TakesAtLeast 0 := by
  intro tally
  rw [write_look]
  exact Nat.le_add_right _ _

/-- Alternatives that are no words take no less than what stands before them. -/
theorem takesAtLeast_alt {branches : List Outline} (noWords : branches.mapM chars? = none)
    (takes : ∀ branch ∈ branches, (write direction branch).TakesAtLeast 0) :
    (write direction (.alt branches)).TakesAtLeast 0 := by
  have row (done : Nat) (tally : Tally) :
      tally.bytes ≤ (writeBranches direction done branches tally).bytes := by
    clear noWords
    induction branches generalizing done tally with
    | nil => exact Nat.le_refl _
    | cons branch branches inductionHypothesis =>
        obtain ⟨here, others⟩ := List.forall_mem_cons.mp takes
        have written := here tally
        have lead := (write direction branch tally).lead_bytes.1
        have exit : (write direction branch tally).lead.addExit.bytes =
            (write direction branch tally).lead.bytes + 4 := rfl
        rw [writeBranches_cons]
        split
        · have behind := inductionHypothesis others (done + 1)
            ((write direction branch tally).lead.addExit.addPlain 2)
          have plain : ((write direction branch tally).lead.addExit.addPlain 2).bytes =
            (write direction branch tally).lead.addExit.bytes + 64 := rfl
          omega
        · have behind := inductionHypothesis others (done + 1)
            (write direction branch tally).lead.addExit
          omega
  intro tally
  rw [write_alt direction noWords]
  exact row 0 tally

theorem takesAtLeast_concat {parts : List Outline} {each : List Nat}
    (takes : List.Forall₂ (fun part bytes => (write .backward part).TakesAtLeast bytes)
      parts each) :
    (write .backward (.concat parts)).TakesAtLeast each.sum := by
  have row (written : Written) :
      written.tally.bytes + each.sum ≤ (writeBackward parts written).tally.bytes := by
    induction takes with
    | nil => exact Nat.le_refl _
    | @cons part bytes parts each here _ inductionHypothesis =>
        have lead := (writeBackward parts written).lead_bytes.1
        have first := here (writeBackward parts written).lead
        rw [writeBackward_cons, List.sum_cons]
        omega
  intro tally
  rw [write_backward_concat]
  exact row ⟨tally, false⟩

end Outline

namespace Expr

variable {expr : Expr} {bytes : Nat}

/-- An automaton begins with a loop over any bytes or with one state. -/
theorem exists_opening (direction : Direction) (outline : Outline) (expr : Expr) :
    ∃ opening : Tally, opening.bytes ≤ 112 ∧
      expr.tally direction outline =
        ((Outline.group 0 outline).write direction opening).lead.addPlain 1 := by
  have bound (tied : Bool) : (if tied = true then (⟨0, 0⟩ : Tally).addPlain 1
      else ((⟨0, 0⟩ : Tally).addFork.addPlain 1).addRanges 1).bytes ≤ 112 := by
    cases tied <;> decide
  exact ⟨_, bound _, rfl⟩

/-- An expression fits if its outline stays clear of the limit in both directions. -/
theorem fits_of_takesAtMost
    (takes : ∀ direction, (expr.outline.write direction).TakesAtMost bytes)
    (clear : bytes + 216 ≤ Tally.limit) : expr.fits = true := by
  have within (direction : Direction) : (expr.tally direction expr.outline).exceeds = false := by
    obtain ⟨opening, opening_le, tally_eq⟩ := exists_opening direction expr.outline expr
    have grouped : ((Outline.group 0 expr.outline).write direction).TakesAtMost (bytes + 68) :=
      Outline.takesAtMost_group (takes direction)
    have whole := grouped opening
    have lead := ((Outline.group 0 expr.outline).write direction opening).lead_bytes.2
    rw [tally_eq, Tally.exceeds, decide_eq_false_iff_not, Tally.addPlain]
    dsimp only
    omega
  rw [fits]
  simp only [within, Bool.not_false, Bool.and_self, Bool.or_true]

/-- An expression does not fit if its outline outgrows the limit when it is read backward. -/
theorem fits_eq_false_of_takesAtLeast (searched : expr.outline.isWordList = false)
    (takes : (expr.outline.write .backward).TakesAtLeast bytes)
    (outgrown : Tally.limit < bytes) : expr.fits = false := by
  have exceeds : (expr.tally .backward expr.outline).exceeds = true := by
    obtain ⟨opening, -, tally_eq⟩ := exists_opening .backward expr.outline expr
    have whole := takes opening
    have lead := ((Outline.group 0 expr.outline).write .backward opening).lead_bytes.1
    rw [Outline.write_backward_group] at lead
    rw [tally_eq, Tally.exceeds, decide_eq_true_eq, Outline.write_backward_group, Tally.addPlain]
    dsimp only
    omega
  rw [fits]
  simp only [searched, exceeds, Bool.not_true, Bool.false_and, Bool.or_false]

end Expr

end LogQuery.Regex
