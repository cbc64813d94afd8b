import LogQuery.Proofs.Text.CodeRanges
import LogQuery.Text.CaseFold
import Mathlib

/-!
# Characters that are equal up to case

The table of foldings is in order, its runs do not overlap, and no run holds what another one maps
to.  A character therefore folds in one step, what it folds to stays as it is, and looking the table
up backwards gives exactly the characters that fold alike.
-/

namespace LogQuery.Text

namespace CaseRun

/-- A run of scalar values that are mapped to scalar values. -/
def MapsScalars (run : CaseRun) : Prop :=
  0 ≤ run.first + run.shift ∧
    (run.last < 0xD800 ∨ (0xDFFF < run.first ∧ run.last < 0x110000)) ∧
    (run.last + run.shift < 0xD800 ∨
      (0xDFFF < run.first + run.shift ∧ run.last + run.shift < 0x110000))

instance (run : CaseRun) : Decidable run.MapsScalars :=
  inferInstanceAs (Decidable (_ ∧ _ ∧ _))

/-- One run stands before another one. -/
def Precedes (run next : CaseRun) : Prop :=
  run.last < next.first ∧ next.first ≤ next.last

instance (run next : CaseRun) : Decidable (run.Precedes next) :=
  inferInstanceAs (Decidable (_ ∧ _))

instance : IsTrans CaseRun Precedes where
  trans _ _ _ earlier later :=
    ⟨Nat.lt_of_lt_of_le earlier.1 (earlier.2.trans later.1.le), later.2⟩

/-- No member of the second run is an image of the first: their ranges do not meet, or they take
turns. -/
def misses (run other : CaseRun) : Bool :=
  let first := (run.first + run.shift).toNat
  let last := (run.last + run.shift).toNat
  Nat.blt last other.first || Nat.blt other.last first ||
    ((run.stride == 2 || run.first == run.last) && other.stride == 2 &&
      (first + other.first) % 2 == 1)

variable {run other : CaseRun} {code image : Nat}

theorem image?_eq_some_iff :
    run.image? code = some image ↔
      (run.first ≤ code ∧ code ≤ run.last ∧ (code - run.first) % run.stride = 0) ∧
        (code + run.shift).toNat = image := by
  rw [image?]
  split
  · next held => simp [held]
  · next missing => simp [missing]

theorem preimage?_eq_some_iff :
    run.preimage? image = some code ↔
      (image - run.shift).toNat = code ∧ run.image? code = some image := by
  have unfolded : run.preimage? image =
      if run.image? (image - run.shift).toNat = some image then some (image - run.shift).toNat
      else none := rfl
  rw [unfolded]
  split
  · next found =>
      rw [Option.some.injEq]
      exact ⟨fun same => ⟨same, same ▸ found⟩, And.left⟩
  · next missing =>
      refine iff_of_false nofun ?_
      rintro ⟨rfl, found⟩
      exact missing found

theorem misses_image (misses : run.misses other = true) (scalars : run.MapsScalars)
    (found : run.image? code = some image) : other.image? image = none := by
  obtain ⟨⟨fromFirst, toLast, inStride⟩, rfl⟩ := image?_eq_some_iff.mp found
  have positive := scalars.1
  rw [image?, if_neg]
  rintro ⟨fromFirstToo, toLastToo, inStrideToo⟩
  simp only [CaseRun.misses, Bool.or_eq_true, Bool.and_eq_true, Nat.blt_eq, beq_iff_eq] at misses
  rcases misses with (before | behind) | ⟨⟨strides | single, stridesToo⟩, turns⟩
  · omega
  · omega
  · rw [strides] at inStride
    rw [stridesToo] at inStrideToo
    omega
  · rw [stridesToo] at inStrideToo
    omega

end CaseRun

open CaseRun

theorem pairwise_foldRuns : foldRuns.Pairwise Precedes :=
  List.isChain_iff_pairwise.mp (by decide +kernel)

theorem mapsScalars_of_mem : ∀ run ∈ foldRuns, run.MapsScalars := by
  decide +kernel

theorem misses_of_mem {run other : CaseRun} (member : run ∈ foldRuns)
    (memberToo : other ∈ foldRuns) : run.misses other = true := by
  have all : (foldRuns.all fun run => foldRuns.all run.misses) = true := by decide +kernel
  exact List.all_eq_true.mp (List.all_eq_true.mp all run member) other memberToo

/-! ## One step of folding -/

section Runs

variable {runs : List CaseRun} {run : CaseRun} {code image : Nat}

/-- No other run holds a code point of a run. -/
theorem mapRuns_of_image? (inOrder : runs.Pairwise Precedes) (member : run ∈ runs)
    (found : run.image? code = some image) : mapRuns runs code = image := by
  unfold mapRuns
  induction runs with
  | nil => cases member
  | cons first others inductionHypothesis =>
      rw [List.findSome?_cons]
      rcases List.mem_cons.mp member with rfl | later
      · rw [found]
        rfl
      · have before := List.rel_of_pairwise_cons inOrder later
        have missing : first.image? code = none := by
          rw [image?, if_neg]
          rintro ⟨-, toLast, -⟩
          have fromFirst := (image?_eq_some_iff.mp found).1.1
          have apart := before.1
          omega
        rw [missing]
        exact inductionHypothesis inOrder.of_cons later

/-- A code point is mapped by a run, or it stays. -/
theorem mapRuns_cases (runs : List CaseRun) (code : Nat) :
    (∃ run ∈ runs, run.image? code = some (mapRuns runs code)) ∨ mapRuns runs code = code := by
  unfold mapRuns
  cases found : runs.findSome? (·.image? code) with
  | none => exact .inr rfl
  | some image =>
      obtain ⟨run, member, maps⟩ := List.exists_of_findSome?_eq_some found
      exact .inl ⟨run, member, maps⟩

end Runs

variable {run : CaseRun} {code image : Nat} {c d : Char}

/-- What one run maps to is mapped by none. -/
theorem mapRuns_foldRuns_of_image? (member : run ∈ foldRuns)
    (found : run.image? code = some image) : mapRuns foldRuns image = image := by
  rcases mapRuns_cases foldRuns image with ⟨other, memberToo, maps⟩ | stays
  · rw [misses_image (misses_of_mem member memberToo) (mapsScalars_of_mem run member) found]
      at maps
    cases maps
  · exact stays

theorem toNat_ofNat_of_image? (member : run ∈ foldRuns) (found : run.image? code = some image) :
    (Char.ofNat code).toNat = code ∧ (Char.ofNat image).toNat = image := by
  obtain ⟨⟨fromFirst, toLast, -⟩, rfl⟩ := image?_eq_some_iff.mp found
  obtain ⟨positive, scalars, images⟩ := mapsScalars_of_mem run member
  constructor
  · rw [Char.toNat_ofNat, if_pos]
    rw [Nat.isValidChar]
    omega
  · rw [Char.toNat_ofNat, if_pos]
    rw [Nat.isValidChar]
    omega

/-- Letters of ASCII have one run in the table, which says the same as the shorter way. -/
theorem foldCase_eq (c : Char) : foldCase c = Char.ofNat (mapRuns foldRuns c.toNat) := by
  rw [foldCase]
  split
  · next isAscii =>
      have lowered : ∀ code < 128, (Char.ofNat code).toLower =
          Char.ofNat (if 65 ≤ code ∧ code ≤ 90 then code + 32 else code) := by
        decide
      have onlyRun : ∀ run ∈ foldRuns, run.first < 128 →
          run.first = 65 ∧ run.last = 90 ∧ run.shift = 32 := by
        decide +kernel
      have letters : ∃ run ∈ foldRuns, run.first = 65 ∧ run.last = 90 ∧ run.stride = 1 ∧
          run.shift = 32 := by
        decide +kernel
      have lowered_eq := lowered c.toNat isAscii
      rw [Char.ofNat_toNat] at lowered_eq
      rw [lowered_eq]
      refine congrArg Char.ofNat (Eq.symm ?_)
      split
      · next isLetter =>
          obtain ⟨run, member, first_eq, last_eq, stride_eq, shift_eq⟩ := letters
          refine mapRuns_of_image? pairwise_foldRuns member (image?_eq_some_iff.mpr ?_)
          rw [first_eq, last_eq, stride_eq, shift_eq]
          omega
      · next noLetter =>
          rcases mapRuns_cases foldRuns c.toNat with ⟨run, member, maps⟩ | stays
          · obtain ⟨⟨fromFirst, toLast, -⟩, -⟩ := image?_eq_some_iff.mp maps
            obtain ⟨first_eq, last_eq, -⟩ := onlyRun run member (by omega)
            omega
          · exact stays
  · rfl

/-- A character folds to itself, or a run maps it to what it folds to. -/
theorem foldCase_cases (c : Char) :
    (∃ run ∈ foldRuns, run.image? c.toNat = some (foldCase c).toNat) ∨ foldCase c = c := by
  rw [foldCase_eq]
  rcases mapRuns_cases foldRuns c.toNat with ⟨run, member, maps⟩ | stays
  · rw [(toNat_ofNat_of_image? member maps).2]
    exact .inl ⟨run, member, maps⟩
  · rw [stays, Char.ofNat_toNat]
    exact .inr rfl

theorem foldCase_foldCase (c : Char) : foldCase (foldCase c) = foldCase c := by
  rcases foldCase_cases c with ⟨run, member, maps⟩ | stays
  · rw [foldCase_eq (foldCase c), mapRuns_foldRuns_of_image? member maps, Char.ofNat_toNat]
  · rw [stays, stays]

/-- The variants of a character are the characters that fold alike. -/
theorem mem_foldVariants_iff : c ∈ foldVariants d ↔ sameFold c d = true := by
  have listed : c ∈ foldVariants d ↔
      c = foldCase d ∨ ∃ run ∈ foldRuns, ∃ code,
        run.preimage? (foldCase d).toNat = some code ∧ Char.ofNat code = c := by
    simp only [foldVariants, List.mem_cons, List.mem_map, List.mem_filterMap]
    exact or_congr_right ⟨fun ⟨code, ⟨run, member, maps⟩, same⟩ => ⟨run, member, code, maps, same⟩,
      fun ⟨run, member, code, maps, same⟩ => ⟨code, ⟨run, member, maps⟩, same⟩⟩
  rw [listed, sameFold, beq_iff_eq]
  constructor
  · rintro (rfl | ⟨run, member, code, maps, rfl⟩)
    · exact foldCase_foldCase d
    · have image := (preimage?_eq_some_iff.mp maps).2
      rw [foldCase_eq, (toNat_ofNat_of_image? member image).1,
        mapRuns_of_image? pairwise_foldRuns member image, Char.ofNat_toNat]
  · intro same
    rcases foldCase_cases c with ⟨run, member, maps⟩ | stays
    · refine .inr ⟨run, member, c.toNat, preimage?_eq_some_iff.mpr ⟨?_, ?_⟩, Char.ofNat_toNat c⟩
      · obtain ⟨⟨fromFirst, -, -⟩, image_eq⟩ := image?_eq_some_iff.mp maps
        have positive := (mapsScalars_of_mem run member).1
        rw [← same]
        omega
      · rw [← same]
        exact maps
    · exact .inl (stays.symm.trans same)

/-! ## The table of what is equal up to case -/

namespace CaseRun

open CodeRanges

variable {run : CaseRun} {table : CodeRanges} {code : Nat}

/-- The members of a run are taken from the table, in steps of the stride. -/
theorem mem_members {range : Nat × Nat} (member : range ∈ run.members table) :
    range.1 ≤ range.2 ∧ ∀ code, range.1 ≤ code → code ≤ range.2 →
      Holds table code ∧ run.first ≤ code ∧ code ≤ run.last ∧
        (code - run.first) % run.stride = 0 := by
  obtain ⟨⟨low, high⟩, clipped, member⟩ := List.mem_flatMap.mp member
  have ordered : low ≤ high := proper_clip _ _ _ _ clipped
  have inside (code : Nat) (fromLow : low ≤ code) (toHigh : code ≤ high) :
      Holds table code ∧ run.first ≤ code ∧ code ≤ run.last :=
    Holds.of_clip ⟨(low, high), clipped, fromLow, toHigh⟩
  dsimp only at member
  split at member
  · next everyCode =>
      rw [List.mem_singleton.mp member, everyCode]
      refine ⟨ordered, fun code fromLow toHigh => ?_⟩
      obtain ⟨holds, fromFirst, toLast⟩ := inside code fromLow toHigh
      exact ⟨holds, fromFirst, toLast, Nat.mod_one _⟩
  · obtain ⟨index, indexed, rfl⟩ := List.mem_map.mp member
    have index_lt := List.mem_range.mp indexed
    refine ⟨Nat.le_refl _, fun code least most => ?_⟩
    obtain rfl := Nat.le_antisymm most least
    have positive : 0 < run.stride := by
      rcases Nat.eq_zero_or_pos run.stride with zero | positive
      · rw [zero, Nat.div_zero] at index_lt
        exact absurd index_lt (Nat.not_lt_zero _)
      · exact positive
    have aboveFirst : run.first ≤ low := (inside low (Nat.le_refl _) ordered).2.1
    have enough := Nat.lt_div_mul_add (a := low - run.first + run.stride - 1) positive
    have below := Nat.mul_le_of_le_div _ _ _ index_lt
    rw [Nat.succ_mul] at below
    obtain ⟨holds, fromFirst, toLast⟩ := inside (run.first +
      (low - run.first + run.stride - 1) / run.stride * run.stride + index * run.stride)
      (by omega) (by omega)
    refine ⟨holds, fromFirst, toLast, ?_⟩
    rw [Nat.add_assoc, Nat.add_sub_cancel_left, ← Nat.add_mul, Nat.mul_mod_left]

theorem proper_images : Proper (run.images table) :=
  Proper.shift (fun _ member => (mem_members member).1) run.shift

theorem proper_preimages : Proper (run.preimages table) :=
  fun _ member => (mem_members member).1

theorem holds_images (scalars : run.MapsScalars) (holds : Holds (run.images table) code) :
    ∃ origin, Holds table origin ∧ run.image? origin = some code := by
  obtain ⟨_, moved, above, below⟩ := holds
  obtain ⟨range, member, rfl⟩ := List.mem_map.mp moved
  obtain ⟨ordered, inside⟩ := mem_members member
  have positive := scalars.1
  have fromFirst := (inside range.1 (Nat.le_refl _) ordered).2.1
  dsimp only at above below
  obtain ⟨holds, held⟩ := inside (code - run.shift).toNat (by omega) (by omega)
  exact ⟨_, holds, image?_eq_some_iff.mpr ⟨held, by omega⟩⟩

theorem holds_preimages (scalars : run.MapsScalars) (holds : Holds (run.preimages table) code) :
    ∃ image, Holds table image ∧ run.image? code = some image := by
  obtain ⟨range, member, above, below⟩ := holds
  obtain ⟨⟨_, moved, aboveMoved, belowMoved⟩, held⟩ := (mem_members member).2 code above below
  obtain ⟨target, clipped, rfl⟩ := List.mem_map.mp moved
  have ordered := proper_clip _ _ _ _ clipped
  have positive := scalars.1
  have fromFirst := (Holds.of_clip ⟨target, clipped, Nat.le_refl _, ordered⟩).2.1
  dsimp only at aboveMoved belowMoved
  have image : Holds table (code + run.shift).toNat :=
    (Holds.of_clip ⟨target, clipped, by omega, by omega⟩).1
  exact ⟨_, image, image?_eq_some_iff.mpr ⟨held, rfl⟩⟩

/-- A code point falls between the first and the last one that the run maps to. -/
def reaches (run : CaseRun) (code : Nat) : Bool :=
  Nat.ble (run.first + run.shift).toNat code && Nat.ble code (run.last + run.shift).toNat

theorem reaches_of_preimage? {image : Nat} (found : (run.preimage? image).isSome = true) :
    run.reaches image = true := by
  obtain ⟨code, found⟩ := Option.isSome_iff_exists.mp found
  obtain ⟨⟨fromFirst, toLast, -⟩, rfl⟩ := image?_eq_some_iff.mp (preimage?_eq_some_iff.mp found).2
  rw [reaches, Bool.and_eq_true, Nat.ble_eq, Nat.ble_eq]
  omega

end CaseRun

/-- How many runs reach a code point grows only where one of them begins. -/
theorem countP_reaches_le (code : Nat) : foldRuns.countP (·.reaches code) ≤ 3 := by
  have atBeginnings : ∀ run ∈ foldRuns,
      foldRuns.countP (·.reaches (run.first + run.shift).toNat) ≤ 3 := by
    decide +kernel
  have atBeginning {code : Nat}
      (begins : ∃ run ∈ foldRuns, (run.first + run.shift).toNat = code) :
      foldRuns.countP (·.reaches code) ≤ 3 := by
    obtain ⟨run, member, rfl⟩ := begins
    exact atBeginnings run member
  induction code with
  | zero =>
      by_cases begins : ∃ run ∈ foldRuns, (run.first + run.shift).toNat = 0
      · exact atBeginning begins
      · have none : foldRuns.countP (·.reaches 0) = 0 := by
          refine List.countP_eq_zero.mpr fun run member reached => ?_
          rw [CaseRun.reaches, Bool.and_eq_true, Nat.ble_eq] at reached
          exact begins ⟨run, member, Nat.le_zero.mp reached.1⟩
        exact none.trans_le (Nat.zero_le 3)
  | succ code inductionHypothesis =>
      by_cases begins : ∃ run ∈ foldRuns, (run.first + run.shift).toNat = code + 1
      · exact atBeginning begins
      · refine Nat.le_trans (List.countP_mono_left fun run member reached => ?_)
          inductionHypothesis
        have elsewhere : (run.first + run.shift).toNat ≠ code + 1 :=
          fun first_eq => begins ⟨run, member, first_eq⟩
        simp only [CaseRun.reaches, Bool.and_eq_true, Nat.ble_eq] at reached ⊢
        omega

section Closure

open CodeRanges

variable {code other : Nat}

/-- What equals a code point up to case. -/
def foldCodes (code : Nat) : List Nat :=
  mapRuns foldRuns code :: foldRuns.filterMap (·.preimage? (mapRuns foldRuns code))

theorem length_foldCodes_le (code : Nat) : (foldCodes code).length ≤ 4 := by
  rw [foldCodes, List.length_cons, List.length_filterMap_eq_countP]
  have few := (List.countP_mono_left (l := foldRuns)
    fun _ _ => reaches_of_preimage?).trans (countP_reaches_le (mapRuns foldRuns code))
  exact Nat.succ_le_succ few

theorem mem_foldCodes_of_image? {run : CaseRun} (member : run ∈ foldRuns)
    (found : run.image? other = some (mapRuns foldRuns code)) : other ∈ foldCodes code := by
  refine List.mem_cons_of_mem _ (List.mem_filterMap.mpr ⟨run, member, ?_⟩)
  obtain ⟨⟨fromFirst, -⟩, image_eq⟩ := image?_eq_some_iff.mp found
  have positive := (mapsScalars_of_mem run member).1
  exact preimage?_eq_some_iff.mpr ⟨by omega, found⟩

theorem mem_foldCodes_self (code : Nat) : code ∈ foldCodes code := by
  rcases mapRuns_cases foldRuns code with ⟨run, member, maps⟩ | stays
  · exact mem_foldCodes_of_image? member maps
  · exact List.mem_cons.mpr (.inl stays.symm)

/-- The images of one code point are what it folds to. -/
theorem eq_mapRuns_of_holds_images
    (holds : Holds (foldRuns.flatMap (·.images [(code, code)])) other) :
    other = mapRuns foldRuns code := by
  obtain ⟨range, member, within⟩ := holds
  obtain ⟨run, inTable, member⟩ := List.mem_flatMap.mp member
  obtain ⟨origin, held, maps⟩ :=
    holds_images (mapsScalars_of_mem run inTable) ⟨range, member, within⟩
  obtain ⟨_, only, above, below⟩ := held
  rw [List.mem_singleton.mp only] at above below
  obtain rfl := Nat.le_antisymm below above
  exact (mapRuns_of_image? pairwise_foldRuns inTable maps).symm

/-- The table for one code point holds nothing but what equals it up to case. -/
theorem mem_foldCodes_of_holds (holds : Holds (foldClosure [(code, code)]) other) :
    other ∈ foldCodes code := by
  have ofFolded {image : Nat}
      (holds : Holds (CodeRanges.union [(code, code)]
        (foldRuns.flatMap (·.images [(code, code)]))) image) :
      image = code ∨ image = mapRuns foldRuns code := by
    rcases holds_append.mp holds.of_ofRanges with ⟨_, only, above, below⟩ | images
    · rw [List.mem_singleton.mp only] at above below
      exact .inl (Nat.le_antisymm below above)
    · exact .inr (eq_mapRuns_of_holds_images images)
  rcases holds_append.mp (Holds.of_ofRanges holds) with folded | preimages
  · rcases ofFolded folded with rfl | rfl
    · exact mem_foldCodes_self other
    · exact List.mem_cons_self
  · obtain ⟨range, member, within⟩ := preimages
    obtain ⟨run, inTable, member⟩ := List.mem_flatMap.mp member
    obtain ⟨image, held, maps⟩ :=
      holds_preimages (mapsScalars_of_mem run inTable) ⟨range, member, within⟩
    rcases ofFolded held with rfl | rfl
    · rw [← mapRuns_foldRuns_of_image? inTable maps] at maps
      exact mem_foldCodes_of_image? inTable maps
    · exact mem_foldCodes_of_image? inTable maps

theorem ascending_foldClosure (code : Nat) : Ascending (foldClosure [(code, code)]) := by
  have single : Proper [(code, code)] := List.forall_mem_singleton.mpr (Nat.le_refl _)
  have append {ranges others : List (Nat × Nat)} (proper : Proper ranges)
      (properToo : Proper others) : Proper (ranges ++ others) :=
    List.forall_mem_append.mpr ⟨proper, properToo⟩
  have images : Proper (foldRuns.flatMap (·.images [(code, code)])) :=
    List.forall_mem_flatMap.mpr fun _ _ => proper_images
  exact ascending_ofRanges (append (ascending_ofRanges (append single images)).proper
    (List.forall_mem_flatMap.mpr fun _ _ => proper_preimages))

/-- No more than four characters are equal up to case. -/
theorem size_foldClosure_le (code : Nat) : size (foldClosure [(code, code)]) ≤ 4 :=
  ((ascending_foldClosure code).size_le fun _ => mem_foldCodes_of_holds).trans
    (length_foldCodes_le code)

end Closure

end LogQuery.Text
