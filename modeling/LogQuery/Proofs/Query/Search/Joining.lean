import LogQuery.Proofs.Query.Search.Matching
import LogQuery.Proofs.Query.Search.Spelling
import LogQuery.Proofs.Query.Token.Partition
import Mathlib

/-!
# Searches put together

Two searches with white space between them are one search, whose clauses are those of the first and
then those of the second: no clause at the end of a search takes up what a further search begins
with.  What it finds in a text is what both find there.  The same goes for fields as long as
no field has to be one of the values of both searches, since then those of the second alone count.
-/

namespace LogQuery.Query

/-! ## Clauses of both -/

/-- Nothing that spells clauses by itself belongs to a clause before it. -/
theorem SpellsClauses.append {tokens further : List Token} {clauses others : List Clause}
    (spelled : SpellsClauses tokens clauses) (spelledFurther : Spells further others) :
    Spells (tokens ++ further) (clauses ++ others) := by
  induction spelled with
  | nil => exact spelledFurther
  | @cons written blanks rest clause clauses spelled blank _ inductionHypothesis =>
      generalize joined_eq : rest ++ further = joined at inductionHypothesis
      obtain @⟨before, behind, _, blankBefore, spelledBehind⟩ := inductionHypothesis
      have blankBetween : AllBlank (blanks ++ before) :=
        List.forall_mem_append.mpr ⟨blank, blankBefore⟩
      have regroup : written ++ blanks ++ rest ++ further =
          [] ++ (written ++ (blanks ++ before) ++ behind) := by
        simp [joined_eq]
      rw [regroup]
      exact .behind allBlank_nil (.cons spelled blankBetween spelledBehind)

theorem Spells.append {tokens further : List Token} {clauses others : List Clause}
    (spelled : Spells tokens clauses) (spelledFurther : Spells further others) :
    Spells (tokens ++ further) (clauses ++ others) := by
  obtain @⟨blanks, rest, _, blank, spelled⟩ := spelled
  have joined := spelled.append spelledFurther
  generalize joined_eq : rest ++ further = tokens at joined
  obtain @⟨before, behind, _, blankBefore, spelledBehind⟩ := joined
  rw [List.append_assoc, joined_eq, ← List.append_assoc]
  exact .behind (List.forall_mem_append.mpr ⟨blank, blankBefore⟩) spelledBehind

theorem readClauses_append {finish : Stop} {tokens further : List Token}
    {clauses others : List Clause} (read : readClauses finish tokens = .ok clauses)
    (readFurther : readClauses finish further = .ok others) :
    readClauses finish (tokens ++ further) = .ok (clauses ++ others) := by
  rw [readClauses_eq_ok_iff_spells] at read readFurther ⊢
  exact read.append readFurther

/-- The clauses of two searches with white space in between are those of both. -/
theorem exists_clauses_of_read_append {text other : String} {first second : Search}
    (readFirst : Search.read text = .ok first) (readSecond : Search.read other = .ok second) :
    ∃ clauses others, first = Search.ofClauses clauses ∧ second = Search.ofClauses others ∧
      Search.read (text ++ " " ++ other) = .ok (Search.ofClauses (clauses ++ others)) := by
  let finish : Stop := .endOfInput none
  obtain ⟨tokens, clauses, cut, readTokens, rfl⟩ := (Search.read_eq_ok_iff finish).mp readFirst
  obtain ⟨further, others, furtherCut, readFurther, rfl⟩ :=
    (Search.read_eq_ok_iff finish).mp readSecond
  have spaced_eq : (" " ++ other).toList = ' ' :: other.toList := String.toList_append
  have spacedCut : tokensFrom 0 (" " ++ other).toList =
      .ok (⟨.blank, " ", 0⟩ :: further.map (Token.shift 1)) := by
    rw [spaced_eq]
    exact (ReadsTo.blank rfl).tokensFrom (tokensFrom_add furtherCut 1)
  have breaks : BreaksWord text.toList (" " ++ other).toList :=
    spaced_eq ▸ breaksWord_blank rfl text.toList other.toList
  have readSpaced : readClauses finish (⟨.blank, " ", 0⟩ :: further.map (Token.shift 1)) =
      .ok others := by
    have behind := readClauses_of_alike finish (ReadsAlike.map_shift further 1) readFurther
    rwa [← readClauses_skipBlanks] at behind ⊢
  have joinedCut := (tokensFrom_append_eq_ok_iff cut fun _ _ _ => breaks).mpr
    ⟨_, spacedCut, rfl⟩
  rw [← String.toList_append, ← String.append_assoc] at joinedCut
  refine ⟨clauses, others, rfl, rfl, (Search.read_eq_ok_iff finish).mpr
    ⟨_, _, joinedCut, ?_, rfl⟩⟩
  exact readClauses_append readTokens
    (readClauses_of_alike finish (ReadsAlike.map_shift _ _) readSpaced)

namespace Search

/-- The search makes the conditions of both: a list that a field is to be one of replaces that of
the first, and lists that it must not be any of are joined.  The sources and hosts that it asks for
or excludes are the values of the fields of these names. -/
structure Joins (first second search : Search) : Prop where
  mem_fragments : ∀ text,
    text ∈ search.fragments ↔ text ∈ first.fragments ∨ text ∈ second.fragments
  mem_notFragments : ∀ text,
    text ∈ search.notFragments ↔ text ∈ first.notFragments ∨ text ∈ second.notFragments
  getElem?_fields : ∀ name : String,
    search.fields[name]? = second.fields[name]?.or first.fields[name]?
  getElem?_notFields : ∀ name : String,
    search.notFields[name]? = .merge (· ++ ·) first.notFields[name]? second.notFields[name]?
  mem_sources : ∀ text, text ∈ search.sources ↔
    ∃ values, search.fields["source"]? = some values ∧ text ∈ values
  mem_notSources : ∀ text, text ∈ search.notSources ↔
    ∃ values, search.notFields["source"]? = some values ∧ text ∈ values
  mem_hosts : ∀ text, text ∈ search.hosts ↔
    ∃ values, search.fields["host"]? = some values ∧ text ∈ values
  mem_notHosts : ∀ text, text ∈ search.notHosts ↔
    ∃ values, search.notFields["host"]? = some values ∧ text ∈ values

theorem joins_ofClauses_append (clauses others : List Clause) :
    Joins (ofClauses clauses) (ofClauses others) (ofClauses (clauses ++ others)) := by
  have first := comprises_ofClauses clauses
  have second := comprises_ofClauses others
  have both := comprises_ofClauses (clauses ++ others)
  exact {
    mem_fragments text := by
      rw [both.mem_fragments, List.mem_append, first.mem_fragments, second.mem_fragments]
    mem_notFragments text := by
      rw [both.mem_notFragments, List.mem_append, first.mem_notFragments,
        second.mem_notFragments]
    getElem?_fields name := by
      rw [both.getElem?_fields, List.filterMap_append, List.getLast?_append,
        first.getElem?_fields, second.getElem?_fields]
    getElem?_notFields name := by
      rw [both.getElem?_notFields, List.filterMap_append, joined_append,
        first.getElem?_notFields, second.getElem?_notFields]
    mem_sources := both.mem_sources
    mem_notSources := both.mem_notSources
    mem_hosts := both.mem_hosts
    mem_notHosts := both.mem_notHosts }

namespace Joins

variable {first second search : Search}

theorem matchesRaw_eq (joins : Joins first second search) (raw : String) :
    search.matchesRaw raw = (first.matchesRaw raw && second.matchesRaw raw) := by
  rw [Bool.eq_iff_iff, Bool.and_eq_true, matchesRaw_iff, matchesRaw_iff, matchesRaw_iff]
  simp only [joins.mem_fragments, joins.mem_notFragments, or_imp, forall_and]
  exact and_and_and_comm

/-- A field that only one of the searches has values for has these values. -/
theorem getElem?_fields_eq_some_iff (joins : Joins first second search)
    (apart : ∀ name : String, first.fields[name]? = none ∨ second.fields[name]? = none)
    {name : String} {values : List String} :
    search.fields[name]? = some values ↔
      first.fields[name]? = some values ∨ second.fields[name]? = some values := by
  rw [joins.getElem?_fields]
  rcases apart name with absent | absent
  · rw [absent]
    simp
  · rw [absent]
    simp

/-- A value that the search excludes is one that the first or the second excludes. -/
theorem notFields_iff (joins : Joins first second search) (fields : Fields) (name : String) :
    (∀ values, search.notFields[name]? = some values → matchesAny fields name values = false) ↔
      (∀ values, first.notFields[name]? = some values → matchesAny fields name values = false) ∧
      ∀ values, second.notFields[name]? = some values → matchesAny fields name values = false := by
  rw [joins.getElem?_notFields]
  cases first.notFields[name]? with
  | none => simp
  | some values =>
      cases second.notFields[name]? with
      | none => simp
      | some others => simp [matchesAny_append]

theorem matchesFields_eq (joins : Joins first second search)
    (apart : ∀ name : String, first.fields[name]? = none ∨ second.fields[name]? = none)
    (fields : Fields) :
    search.matchesFields fields = (first.matchesFields fields && second.matchesFields fields) := by
  rw [Bool.eq_iff_iff, Bool.and_eq_true, matchesFields_iff, matchesFields_iff, matchesFields_iff]
  simp only [joins.getElem?_fields_eq_some_iff apart, joins.notFields_iff, or_imp, forall_and]
  exact and_and_and_comm

end Joins

end Search

/-- Two texts that can be read as searches are read as one with white space in between, which makes
the conditions of both.  A text meets it exactly if it meets both, and so do fields, unless both
searches have values for the same field. -/
theorem joined_search_makes_both_conditions {text other : String} {first second : Search}
    (readFirst : Search.read text = .ok first) (readSecond : Search.read other = .ok second) :
    ∃ search, Search.read (text ++ " " ++ other) = .ok search ∧
      Search.Joins first second search ∧
      (∀ raw, search.matchesRaw raw = (first.matchesRaw raw && second.matchesRaw raw)) ∧
      ((∀ name : String, first.fields[name]? = none ∨ second.fields[name]? = none) →
        ∀ fields, search.matchesFields fields =
          (first.matchesFields fields && second.matchesFields fields)) := by
  obtain ⟨clauses, others, rfl, rfl, read⟩ := exists_clauses_of_read_append readFirst readSecond
  have joins := Search.joins_ofClauses_append clauses others
  exact ⟨_, read, joins, joins.matchesRaw_eq, joins.matchesFields_eq⟩

/-- A `NOT` at the front of a further search does not belong to the comparison before it. -/
theorem comparison_does_not_take_up_a_further_not :
    let first := Search.ofClauses [.fragment "a", .equals "X" "1"]
    let second := Search.ofClauses [.notFragment "in", .notEquals "x" "2"]
    ∃ search, Search.read ("a X=1" ++ " " ++ "NOT \"in\" x!=2") = .ok search ∧
      ∀ fields, search.matchesFields fields =
        (first.matchesFields fields && second.matchesFields fields) := by
  intro first second
  have readFirst : Search.read "a X=1" = .ok first :=
    (Search.read_eq_ok_iff (.endOfInput none)).mpr ⟨[⟨.word, "a", 0⟩, ⟨.blank, " ", 1⟩,
      ⟨.word, "X", 2⟩, ⟨.equals, "=", 3⟩, ⟨.word, "1", 4⟩], _, by cbv, by cbv, rfl⟩
  have readSecond : Search.read "NOT \"in\" x!=2" = .ok second :=
    (Search.read_eq_ok_iff (.endOfInput none)).mpr ⟨[⟨.notKeyword, "NOT", 0⟩,
      ⟨.blank, " ", 3⟩, ⟨.quoted, "in", 4⟩, ⟨.blank, " ", 8⟩, ⟨.word, "x", 9⟩,
      ⟨.notEquals, "!=", 10⟩, ⟨.word, "2", 12⟩], _, by cbv, by cbv, rfl⟩
  have apart (name : String) : first.fields[name]? = none ∨ second.fields[name]? = none :=
    .inr Std.ExtTreeMap.getElem?_empty
  obtain ⟨search, read, -, -, matchesFields_eq⟩ :=
    joined_search_makes_both_conditions readFirst readSecond
  exact ⟨search, read, matchesFields_eq apart⟩

end LogQuery.Query
