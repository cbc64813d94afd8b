import LogQuery.Wildcard.Sequence

/-!
# What tables of suffixes tell

A table holds one truth value for every suffix of a text.  Putting an item in front of what a table
tells gives the table that tells where the item can begin, so the table of a whole sequence tells
where the sequence can begin, and its first entry whether it can begin at the whole text.
-/

namespace LogQuery.Wildcard

/-- The suffixes at which an item can begin, if something has to hold behind it. -/
def Item.Leads (item : Item) (holds : List Char → Prop) (suffix : List Char) : Prop :=
  ∃ front back, suffix = front ++ back ∧ item.Covers front ∧ holds back

/-- The suffixes at which a sequence can begin, if something has to hold behind it. -/
def LeadsAll (items : List Item) (holds : List Char → Prop) (suffix : List Char) : Prop :=
  ∃ front back, suffix = front ++ back ∧ Generates items front ∧ holds back

variable {holds : List Char → Prop} {accepts : Char → Bool} {c : Char} {text : List Char}
  {item : Item} {items : List Item}

namespace Item

theorem not_leads_one_nil : ¬ (one accepts).Leads holds [] := by
  rintro ⟨front, back, split, ⟨c, rfl, -⟩, -⟩
  cases split

theorem leads_one_cons : (one accepts).Leads holds (c :: text) ↔ accepts c = true ∧ holds text := by
  constructor
  · rintro ⟨front, back, split, ⟨first, rfl, accepted⟩, behind⟩
    obtain ⟨rfl, rfl⟩ := List.cons.inj split
    exact ⟨accepted, behind⟩
  · rintro ⟨accepted, behind⟩
    exact ⟨[c], text, rfl, ⟨c, rfl, accepted⟩, behind⟩

theorem leads_many_nil : (many accepts).Leads holds [] ↔ holds [] := by
  constructor
  · rintro ⟨front, back, split, -, behind⟩
    rwa [(List.append_eq_nil_iff.mp split.symm).2] at behind
  · intro behind
    exact ⟨[], [], rfl, fun _ member => absurd member List.not_mem_nil, behind⟩

/-- A run is empty, or it takes one character and goes on. -/
theorem leads_many_cons :
    (many accepts).Leads holds (c :: text) ↔
      holds (c :: text) ∨ (accepts c = true ∧ (many accepts).Leads holds text) := by
  constructor
  · rintro ⟨_ | ⟨first, front⟩, back, split, accepted, behind⟩
    · rw [List.nil_append] at split
      rw [split]
      exact .inl behind
    · obtain ⟨rfl, rfl⟩ := List.cons.inj split
      obtain ⟨acceptedHere, acceptedBehind⟩ := List.forall_mem_cons.mp accepted
      exact .inr ⟨acceptedHere, front, back, rfl, acceptedBehind, behind⟩
  · rintro (behind | ⟨acceptedHere, front, back, rfl, acceptedBehind, behind⟩)
    · exact ⟨[], c :: text, rfl, fun _ member => absurd member List.not_mem_nil, behind⟩
    · exact ⟨c :: front, back, rfl, List.forall_mem_cons.mpr ⟨acceptedHere, acceptedBehind⟩, behind⟩

end Item

theorem generates_nil_iff : Generates [] text ↔ text = [] := by
  constructor
  · rintro ⟨⟩
    rfl
  · rintro rfl
    exact .nil

theorem generates_cons_iff :
    Generates (item :: items) text ↔
      ∃ front back, text = front ++ back ∧ item.Covers front ∧ Generates items back := by
  constructor
  · rintro (_ | ⟨covers, behind⟩)
    exact ⟨_, _, rfl, covers, behind⟩
  · rintro ⟨front, back, rfl, covers, behind⟩
    exact .cons covers behind

theorem generates_one_cons_iff :
    Generates (.one accepts :: items) text ↔
      ∃ c rest, text = c :: rest ∧ accepts c = true ∧ Generates items rest := by
  rw [generates_cons_iff]
  constructor
  · rintro ⟨_, rest, rfl, ⟨c, rfl, accepted⟩, generated⟩
    exact ⟨c, rest, rfl, accepted, generated⟩
  · rintro ⟨c, rest, rfl, accepted, generated⟩
    exact ⟨[c], rest, rfl, ⟨c, rfl, accepted⟩, generated⟩

theorem leadsAll_nil : LeadsAll [] holds text ↔ holds text := by
  constructor
  · rintro ⟨front, back, rfl, empty, behind⟩
    rwa [generates_nil_iff.mp empty]
  · intro behind
    exact ⟨[], text, rfl, .nil, behind⟩

theorem leadsAll_cons :
    LeadsAll (item :: items) holds text ↔ item.Leads (LeadsAll items holds) text := by
  constructor
  · rintro ⟨front, back, rfl, generated, behind⟩
    obtain ⟨first, others, rfl, covers, generatedBehind⟩ := generates_cons_iff.mp generated
    exact ⟨first, others ++ back, List.append_assoc _ _ _, covers, others, back, rfl,
      generatedBehind, behind⟩
  · rintro ⟨first, _, rfl, covers, others, back, rfl, generatedBehind, behind⟩
    exact ⟨first ++ others, back, (List.append_assoc _ _ _).symm, .cons covers generatedBehind,
      behind⟩

namespace SuffixTable

/-- A table tells of each suffix of a text whether something holds of it. -/
inductive Tells (holds : List Char → Prop) : List Char → SuffixTable → Prop where
  | nil {here : Bool} (here_iff : here = true ↔ holds []) : Tells holds [] [here]
  | cons {c : Char} {rest : List Char} {here : Bool} {table : SuffixTable}
      (here_iff : here = true ↔ holds (c :: rest)) (below : Tells holds rest table) :
      Tells holds (c :: rest) (here :: table)

variable {table : SuffixTable}

/-- The first entry is about the whole text. -/
theorem Tells.headD_iff (tells : Tells holds text table) :
    table.headD false = true ↔ holds text := by
  cases tells with
  | nil here_iff => exact here_iff
  | cons here_iff below => exact here_iff

theorem Tells.congr {others : List Char → Prop} (tells : Tells holds text table)
    (same : ∀ suffix, holds suffix ↔ others suffix) : Tells others text table := by
  induction tells with
  | nil here_iff => exact .nil (here_iff.trans (same []))
  | cons here_iff _ inductionHypothesis =>
      exact .cons (here_iff.trans (same _)) inductionHypothesis

theorem tells_ofCondition (condition : List Char → Bool) (text : List Char) :
    Tells (condition · = true) text (ofCondition condition text) := by
  induction text with
  | nil => exact .nil Iff.rfl
  | cons c rest inductionHypothesis => exact .cons Iff.rfl inductionHypothesis

theorem Tells.afterOne (tells : Tells holds text table) :
    Tells ((Item.one accepts).Leads holds) text (SuffixTable.afterOne accepts text table) := by
  induction tells with
  | nil here_iff => exact .nil (iff_of_false Bool.false_ne_true Item.not_leads_one_nil)
  | cons here_iff below inductionHypothesis =>
      refine .cons ?_ inductionHypothesis
      rw [Bool.and_eq_true, below.headD_iff, Item.leads_one_cons]

theorem Tells.afterMany (tells : Tells holds text table) :
    Tells ((Item.many accepts).Leads holds) text (SuffixTable.afterMany accepts text table) := by
  induction tells with
  | nil here_iff => exact .nil (here_iff.trans Item.leads_many_nil.symm)
  | cons here_iff below inductionHypothesis =>
      refine .cons ?_ inductionHypothesis
      rw [Bool.or_eq_true, Bool.and_eq_true, here_iff, inductionHypothesis.headD_iff,
        Item.leads_many_cons]

theorem Tells.before (tells : Tells holds text table) (item : Item) :
    Tells (item.Leads holds) text (SuffixTable.before text item table) := by
  cases item with
  | one accepts => exact tells.afterOne
  | many accepts => exact tells.afterMany

theorem Tells.beforeAll (tells : Tells holds text table) (items : List Item) :
    Tells (LeadsAll items holds) text (SuffixTable.beforeAll text items table) := by
  induction items with
  | nil => exact tells.congr fun _ => leadsAll_nil.symm
  | cons item items inductionHypothesis =>
      exact (inductionHypothesis.before item).congr fun _ => leadsAll_cons.symm

end SuffixTable

/-- A sequence covers exactly the texts that it stands for. -/
theorem coversAll_iff : coversAll items text = true ↔ Generates items text := by
  have table := (SuffixTable.tells_ofCondition List.isEmpty text).beforeAll items
  rw [coversAll, table.headD_iff]
  constructor
  · rintro ⟨front, back, rfl, generated, isEmpty⟩
    rw [List.isEmpty_iff.mp isEmpty, List.append_nil]
    exact generated
  · intro generated
    exact ⟨text, [], (List.append_nil text).symm, generated, rfl⟩

end LogQuery.Wildcard
