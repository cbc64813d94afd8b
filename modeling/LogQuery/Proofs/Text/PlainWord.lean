import LogQuery.Text.Blank
import LogQuery.Text.CaseFold
import LogQuery.Text.Lowercase
import LogQuery.Text.Word
import Mathlib

/-!
# Plain words

A plain word consists of ASCII letters, digits and underscores.  Its lower case is that of its
characters one by one, and words are equal up to case if their lower case is the same.
-/

namespace LogQuery.Text

/-- An ASCII letter, a digit or the underscore. -/
def IsPlain (c : Char) : Prop :=
  c.isAlphanum = true ∨ c = '_'

instance (c : Char) : Decidable (IsPlain c) :=
  inferInstanceAs (Decidable (_ ∨ _))

/-- A word of ASCII letters, digits and underscores. -/
structure IsPlainWord (word : String) : Prop where
  some : word ≠ ""
  plain : ∀ c ∈ word.toList, IsPlain c

-- The check runs along the word, for a quantifier over characters may be decided by trying every
-- character there is.
instance (word : String) : Decidable (IsPlainWord word) :=
  decidable_of_iff (word ≠ "" ∧ word.toList.all (fun c => decide (IsPlain c)) = true)
    ⟨fun holds => ⟨holds.1, by simpa only [List.all_eq_true, decide_eq_true_eq] using holds.2⟩,
      fun plainWord => ⟨plainWord.some,
        by simpa only [List.all_eq_true, decide_eq_true_eq] using plainWord.plain⟩⟩

namespace IsPlain

variable {c d : Char}

theorem ascii (plain : IsPlain c) : c.toNat < 128 := by
  rcases plain with alphanum | rfl
  · simp only [Char.isAlphanum, Char.isAlpha, Char.isUpper, Char.isLower, Char.isDigit,
      Bool.or_eq_true, Bool.and_eq_true, decide_eq_true_eq, ge_iff_le,
      UInt32.le_iff_toNat_le] at alphanum
    change ((65 ≤ c.toNat ∧ c.toNat ≤ 90) ∨ (97 ≤ c.toNat ∧ c.toNat ≤ 122)) ∨
      (48 ≤ c.toNat ∧ c.toNat ≤ 57) at alphanum
    omega
  · decide

/-- What holds of all plain characters can be checked on the ASCII characters. -/
theorem of_codes (property : Char → Prop)
    (codes : ∀ code < 128, IsPlain (Char.ofNat code) → property (Char.ofNat code))
    (plain : IsPlain c) : property c := by
  have checked := codes c.toNat plain.ascii
  rw [Char.ofNat_toNat] at checked
  exact checked plain

theorem isWord (plain : IsPlain c) : isWord c = true := by
  rw [isWord_of_ascii plain.ascii, Bool.or_eq_true, beq_iff_eq]
  exact plain

theorem isBlank (plain : IsPlain c) : isBlank c = false :=
  of_codes (fun c => Text.isBlank c = false) (by decide) plain

theorem toLower (plain : IsPlain c) : IsPlain c.toLower :=
  of_codes (fun c => IsPlain c.toLower) (by decide) plain

theorem toLower_toLower (plain : IsPlain c) : c.toLower.toLower = c.toLower :=
  of_codes (fun c => c.toLower.toLower = c.toLower) (by decide) plain

theorem sameFold_iff (plain : IsPlain c) (plainToo : IsPlain d) :
    sameFold c d = true ↔ c.toLower = d.toLower := by
  rw [sameFold, foldCase, foldCase, if_pos plain.ascii, if_pos plainToo.ascii, beq_iff_eq]

end IsPlain

variable {word other : String}

theorem toList_lowercase (plain : ∀ c ∈ word.toList, IsPlain c) :
    (lowercase word).toList = word.toList.map Char.toLower := by
  rw [lowercase, String.toList_ofList]
  exact lowerAfter_of_ascii [] fun c member => (plain c member).ascii

theorem forall₂_sameFold_iff {text others : List Char} (plain : ∀ c ∈ text, IsPlain c)
    (plainToo : ∀ c ∈ others, IsPlain c) :
    List.Forall₂ (fun c d => sameFold c d = true) text others ↔
      text.map Char.toLower = others.map Char.toLower := by
  induction text generalizing others with
  | nil => rw [List.forall₂_nil_left_iff, List.map_nil, List.nil_eq, List.map_eq_nil_iff]
  | cons c text inductionHypothesis =>
      cases others with
      | nil => exact iff_of_false nofun nofun
      | cons d others =>
          obtain ⟨plainHere, plainBehind⟩ := List.forall_mem_cons.mp plain
          obtain ⟨plainHereToo, plainBehindToo⟩ := List.forall_mem_cons.mp plainToo
          rw [List.forall₂_cons, List.map_cons, List.map_cons, List.cons.injEq,
            plainHere.sameFold_iff plainHereToo, inductionHypothesis plainBehind plainBehindToo]

namespace IsPlainWord

theorem lowercase (plainWord : IsPlainWord word) : IsPlainWord (lowercase word) where
  some := by
    rw [ne_eq, ← String.toList_eq_nil_iff, toList_lowercase plainWord.plain, List.map_eq_nil_iff,
      String.toList_eq_nil_iff]
    exact plainWord.some
  plain := by
    rw [toList_lowercase plainWord.plain]
    intro c lowered
    obtain ⟨d, member, rfl⟩ := List.mem_map.mp lowered
    exact (plainWord.plain d member).toLower

theorem lowercase_lowercase (plainWord : IsPlainWord word) :
    Text.lowercase (Text.lowercase word) = Text.lowercase word := by
  refine String.toList_inj.mp ?_
  rw [toList_lowercase plainWord.lowercase.plain, toList_lowercase plainWord.plain, List.map_map]
  exact List.map_congr_left fun c member => (plainWord.plain c member).toLower_toLower

/-- Plain words are equal up to case if their lower case is the same. -/
theorem sameFold_iff (plainWord : IsPlainWord word) (plainToo : IsPlainWord other) :
    List.Forall₂ (fun c d => sameFold c d = true) word.toList other.toList ↔
      Text.lowercase word = Text.lowercase other := by
  rw [← String.toList_inj, toList_lowercase plainWord.plain, toList_lowercase plainToo.plain]
  exact forall₂_sameFold_iff plainWord.plain plainToo.plain

end IsPlainWord

end LogQuery.Text
