import LogQuery.Proofs.Text.CodeRanges
import LogQuery.Text.ByteSequences
import Mathlib

/-!
# How many byte sequences there are

The blocks of a range share no code point, so there are no more of them than code points.
-/

namespace LogQuery.Text

namespace ByteSequence

variable {sequence : ByteSequence} {low high : Nat}

theorem length_of_mem_blocks {trailing offset : Nat}
    (member : sequence ∈ blocks trailing offset low high) : sequence.length = trailing + 1 := by
  induction trailing generalizing offset low high sequence with
  | zero =>
      rw [blocks, List.mem_singleton] at member
      rw [member, List.length_singleton]
  | succ trailing inductionHypothesis =>
      have under {lead low high : Nat} (member : sequence ∈
          (blocks trailing 0x80 low high).map ((offset + lead, offset + lead) :: ·)) :
          sequence.length = trailing + 1 + 1 := by
        obtain ⟨rest, within, rfl⟩ := List.mem_map.mp member
        rw [List.length_cons, inductionHypothesis within]
      rw [blocks] at member
      dsimp only at member
      split at member
      · exact under member
      · simp only [List.mem_append, List.mem_ite_nil_right, List.mem_singleton] at member
        rcases member with (⟨-, below⟩ | ⟨-, rfl⟩) | ⟨-, above⟩
        · exact under below
        · rw [List.length_cons, List.length_replicate]
        · exact under above

theorem length_ite_le {condition : Prop} [Decidable condition] {sequences : List ByteSequence}
    {bound : Nat} (enough : condition → sequences.length ≤ bound) :
    (if condition then sequences else []).length ≤ if condition then bound else 0 := by
  split
  · next holds => exact enough holds
  · exact Nat.le_refl 0

theorem length_blocks_le {trailing offset : Nat} (ordered : low ≤ high) :
    (blocks trailing offset low high).length ≤ high + 1 - low := by
  induction trailing generalizing offset low high with
  | zero =>
      rw [blocks, List.length_singleton]
      omega
  | succ trailing inductionHypothesis =>
      have under {lead low high : Nat} (ordered : low ≤ high) :
          ((blocks trailing 0x80 low high).map ((offset + lead, offset + lead) :: ·)).length ≤
            high + 1 - low := by
        rw [List.length_map]
        exact inductionHypothesis ordered
      have positive : 0 < Nat.pow 64 (trailing + 1) := Nat.pow_pos (by decide)
      rw [blocks]
      generalize Nat.pow 64 (trailing + 1) = size at positive
      have low_eq := Nat.div_add_mod low size
      have high_eq := Nat.div_add_mod high size
      have lowRest := Nat.mod_lt low positive
      have highRest := Nat.mod_lt high positive
      dsimp only
      split
      · next same =>
          rw [same] at low_eq
          have rests : low % size ≤ high % size := by omega
          exact (under rests).trans (by omega)
      · next differ =>
          -- the leading digits differ by one more than the whole blocks between them
          obtain ⟨whole, lead_eq⟩ := Nat.exists_eq_add_of_lt
            (Nat.lt_of_le_of_ne (Nat.div_le_div_right ordered) differ)
          have digits : size * (high / size) = size * (low / size) + size * whole + size := by
            rw [lead_eq, Nat.mul_succ, Nat.mul_add]
          have atLeast : whole ≤ size * whole := Nat.le_mul_of_pos_left _ positive
          rw [List.length_append, List.length_append]
          refine (Nat.add_le_add (Nat.add_le_add
            (length_ite_le fun _ => under (Nat.le_sub_one_of_lt lowRest))
            (length_ite_le fun _ => Nat.le_refl 1))
            (length_ite_le fun _ => under (Nat.zero_le _))).trans ?_
          simp only [decide_eq_true_eq]
          split_ifs <;> omega

/-- How many numbers from `low` to `high` lie between two others. -/
def shared (low high first last : Nat) : Nat :=
  Nat.min last high + 1 - Nat.max first low

theorem length_blocks_shared_le (low high first last trailing offset : Nat) :
    (if Nat.max first low ≤ Nat.min last high then
        blocks trailing offset (Nat.max first low) (Nat.min last high) else []).length ≤
      shared low high first last := by
  split
  · next some => exact length_blocks_le some
  · exact Nat.zero_le _

theorem shared_add_le {first middle next last : Nat} (before : first ≤ middle)
    (apart : middle < next) (behind : next ≤ last) :
    shared low high first middle + shared low high next last ≤ shared low high first last := by
  simp only [shared, Nat.max_eq_max, Nat.min_eq_min]
  omega

/-- The four lengths of encodings share no code point either. -/
theorem length_ofRange_le (low high : Nat) : (ofRange low high).length ≤ high + 1 - low := by
  have parts : (ofRange low high).length ≤ shared low high 0 0x7F +
      (shared low high 0x80 0x7FF + (shared low high 0x800 0xD7FF +
        (shared low high 0xE000 0xFFFF + (shared low high 0x10000 0x10FFFF + 0)))) := by
    rw [ofRange, lengths]
    simp only [List.flatMap_cons, List.flatMap_nil, List.length_append, List.length_nil]
    exact Nat.add_le_add (length_blocks_shared_le ..) <|
      Nat.add_le_add (length_blocks_shared_le ..) <|
      Nat.add_le_add (length_blocks_shared_le ..) <|
      Nat.add_le_add (length_blocks_shared_le ..) <|
      Nat.add_le_add (length_blocks_shared_le ..) (Nat.le_refl 0)
  have two := @shared_add_le low high 0 0x7F 0x80 0x7FF (by decide) (by decide) (by decide)
  have three := @shared_add_le low high 0 0x7FF 0x800 0xD7FF (by decide) (by decide) (by decide)
  have threeToo :=
    @shared_add_le low high 0 0xD7FF 0xE000 0xFFFF (by decide) (by decide) (by decide)
  have four :=
    @shared_add_le low high 0 0xFFFF 0x10000 0x10FFFF (by decide) (by decide) (by decide)
  have all : shared low high 0 0x10FFFF ≤ high + 1 - low := by
    simp only [shared, Nat.max_eq_max, Nat.min_eq_min]
    omega
  omega

theorem length_of_mem_ofRange (member : sequence ∈ ofRange low high) : sequence.length ≤ 4 := by
  obtain ⟨⟨first, last, trailing, offset⟩, listed, member⟩ := List.mem_flatMap.mp member
  have few : ∀ entry ∈ lengths, entry.2.2.1 ≤ 3 := by decide
  have trailing_le : trailing ≤ 3 := few _ listed
  dsimp only at member
  split at member
  · rw [length_of_mem_blocks member]
    exact Nat.succ_le_succ trailing_le
  · cases member

end ByteSequence

namespace CodeRanges

open ByteSequence

theorem length_byteSequences_le (table : CodeRanges) :
    table.byteSequences.length ≤ size table := by
  induction table with
  | nil => exact Nat.le_refl 0
  | cons range table inductionHypothesis =>
      have here := length_ofRange_le range.1 range.2
      rw [byteSequences, List.flatMap_cons, List.length_append, size_cons]
      exact Nat.add_le_add here inductionHypothesis

theorem length_of_mem_byteSequences {table : CodeRanges} {sequence : ByteSequence}
    (member : sequence ∈ table.byteSequences) : sequence.length ≤ 4 := by
  obtain ⟨range, _, member⟩ := List.mem_flatMap.mp member
  exact length_of_mem_ofRange member

end CodeRanges

end LogQuery.Text
