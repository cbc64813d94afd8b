import LogQuery.Proofs.Extraction.Pairs
import LogQuery.Proofs.Fields
import LogQuery.Proofs.Pipeline.Emission
import LogQuery.Proofs.Query.Search.Clauses
import LogQuery.Proofs.Query.Search.Matching
import LogQuery.Proofs.Query.Search.Pushdown
import LogQuery.Proofs.Query.Search.Reader
import LogQuery.Proofs.Query.Stage.Writing
import LogQuery.Proofs.Text.PlainWord
import LogQuery.Proofs.Wildcard.Fragment
import LogQuery.Proofs.Wildcard.Glob
import LogQuery.Proofs.Wildcard.Limit

/-!
# Searches for pairs

The fields of an event that is written in pairs are its last values in lower case, and the search
for a pair compares its value with them up to case.  Since words are bounded by what is no word
character, a plain word is found in a plain word only as the whole of it, so the search finds the
pair exactly if its value is the last one of its key.
-/

namespace LogQuery

open Extraction Query Text Wildcard

/-! ## The fields of pairs -/

namespace Extraction

variable {pairs : List (String × String)} {config : Config.LogConfig} {source : String}

/-- Both words of a pair are plain. -/
def IsPlainPair (pair : String × String) : Prop :=
  IsPlainWord pair.1 ∧ IsPlainWord pair.2

instance (pair : String × String) : Decidable (IsPlainPair pair) :=
  inferInstanceAs (Decidable (_ ∧ _))

/-- Both words of a pair in lower case. -/
def lowerPair (pair : String × String) : String × String :=
  (lowercase pair.1, lowercase pair.2)

/-- The value of the last pair with a key, both in lower case. -/
def lastValue? (pairs : List (String × String)) (key : String) : Option String :=
  (pairs.map lowerPair).reverse.lookup key

theorem exists_pair_of_lastValue? {key value : String} (last : lastValue? pairs key = some value) :
    ∃ pair ∈ pairs, lowercase pair.2 = value := by
  obtain ⟨front, back, split, -⟩ := List.lookup_eq_some_iff.mp last
  have member : (key, value) ∈ pairs.map lowerPair := by
    rw [← List.mem_reverse, split]
    exact List.mem_append_right front List.mem_cons_self
  obtain ⟨pair, member, lowered⟩ := List.mem_map.mp member
  exact ⟨pair, member, congrArg Prod.snd lowered⟩

theorem isWordRun_of_isPlainWord {word : String} (plainWord : IsPlainWord word) :
    IsWordRun word.toList where
  some empty := plainWord.some (String.toList_eq_nil_iff.mp empty)
  words c member := (plainWord.plain c member).isWord

theorem isPlainPair_lowerPair {pair : String × String} (plainPair : IsPlainPair pair) :
    IsPlainPair (lowerPair pair) :=
  ⟨plainPair.1.lowercase, plainPair.2.lowercase⟩

theorem toList_pairsText_lowerPair (plainPairs : ∀ pair ∈ pairs, IsPlainPair pair) :
    (pairsText (pairs.map lowerPair)).toList = (pairsText pairs).toList.map Char.toLower := by
  induction pairs with
  | nil => simp [pairsText]
  | cons pair pairs inductionHypothesis =>
      obtain ⟨⟨plainKey, plainValue⟩, plainBehind⟩ := List.forall_mem_cons.mp plainPairs
      have behind : behindPair (pairs.map lowerPair) = (behindPair pairs).map Char.toLower := by
        cases pairs with
        | nil => rfl
        | cons next pairs => exact congrArg (' ' :: ·) (inductionHypothesis plainBehind)
      rw [List.map_cons, toList_pairsText_cons, toList_pairsText_cons, behind]
      simp only [lowerPair, toList_lowercase plainKey.plain, toList_lowercase plainValue.plain,
        List.map_append, List.map_cons]
      rfl

theorem lowercase_pairsText (plainPairs : ∀ pair ∈ pairs, IsPlainPair pair) :
    lowercase (pairsText pairs) = pairsText (pairs.map lowerPair) := by
  refine String.toList_inj.mp ?_
  rw [toList_pairsText_lowerPair plainPairs, lowercase, String.toList_ofList]
  refine lowerAfter_of_ascii [] fun c member => ?_
  rcases mem_pairsText member with ⟨pair, member, inKey | inValue⟩ | rfl | rfl
  · exact ((plainPairs pair member).1.plain c inKey).ascii
  · exact ((plainPairs pair member).2.plain c inValue).ascii
  · decide
  · decide

/-- The parser of files that have no types of their own. -/
def builtinParser : FileParser :=
  .ofFileType .builtin

theorem getElem?_nameTime {parser : FileParser} (named : parser.timeField = timeName)
    (fields : Fields) (name : String) : (parser.nameTime fields)[name]? = fields[name]? := by
  rw [FileParser.nameTime, named]
  split
  · next time found =>
      rw [Std.ExtTreeMap.getElem?_insert]
      split
      · next same =>
          obtain rfl := Std.compare_eq_iff_eq.mp same
          exact found.symm
      · rfl
  · rfl

/-- The fields of an event that is written in pairs are the values of its last pairs. -/
theorem getElem?_fieldsOf_pairsText {event : Event} {name : String}
    (plainPairs : ∀ pair ∈ pairs, IsPlainPair pair) (written : event.raw = pairsText pairs)
    (noHost : name ≠ "host") (noSource : name ≠ "source") :
    (builtinParser.fieldsOf event)[name]? = lastValue? pairs name := by
  have wordPairs : ∀ pair ∈ pairs.map lowerPair, IsWordPair pair := by
    intro pair lowered
    obtain ⟨original, member, rfl⟩ := List.mem_map.mp lowered
    have plain := isPlainPair_lowerPair (plainPairs original member)
    exact ⟨isWordRun_of_isPlainWord plain.1, isWordRun_of_isPlainWord plain.2⟩
  have found : builtinParser.extract (lowercase event.raw) =
      .ok (builtinParser.nameTime (Fields.ofPairs (pairs.map lowerPair))) := by
    rw [written, lowercase_pairsText plainPairs, ← fieldsByRegex_pairsText wordPairs]
    rfl
  rw [FileParser.fieldsOf, found,
    Std.ExtTreeMap.getElem?_insert, if_neg (by simpa using noSource.symm),
    Std.ExtTreeMap.getElem?_insert, if_neg (by simpa using noHost.symm)]
  exact (getElem?_nameTime rfl _ name).trans (Fields.getElem?_ofPairs _ name)

/-! ## The parser of every file -/

/-- The configuration has one entry, which names every file and no types, and no type of its own
that belongs to all files. -/
structure IsUntyped (config : Config.LogConfig) : Prop where
  files : config.files = [{ fileName := "**" }]
  noDefault : config.fileTypes[Config.defaultTypeName]? = none

theorem globMatches_doubleStar (oneLine : '\n' ∉ source.toList) :
    globMatches "**" source = true := by
  refine coversAll_iff.mpr (generates_globItems_iff.mpr (Names.doubleStar_iff.mpr ?_))
  refine ⟨source.toList, [], (List.append_nil _).symm, fun c member newline => ?_, .nil⟩
  exact oneLine (newline ▸ member)

theorem entries_of_isUntyped (untyped : IsUntyped config) :
    (FileMatcher.ofConfig config).entries = [("**", builtinParser)] := by
  have types : config.typesOf { fileName := "**" } = [.builtin] := by
    simp [Config.LogConfig.typesOf, Config.LogConfig.fileType?, untyped.noDefault]
  have fits : globFits "**" = true := globFits_of_length_le (by decide)
  simp only [FileMatcher.ofConfig, untyped.files, List.filter_singleton, fits, cond_true,
    List.filterMap_cons, List.filterMap_nil, types]
  rfl

theorem parserFor?_of_isUntyped (untyped : IsUntyped config) (oneLine : '\n' ∉ source.toList) :
    (FileMatcher.ofConfig config).parserFor? source = some builtinParser := by
  rw [FileMatcher.parserFor?, entries_of_isUntyped untyped, List.find?_cons,
    globMatches_doubleStar oneLine]
  rfl

theorem isUntyped_everyFile : IsUntyped .everyFile where
  files := rfl
  noDefault := Std.ExtTreeMap.getElem?_empty

end Extraction

/-! ## The search for one pair -/

namespace Query

variable {key value : String}

theorem endsWord_of_isPlain {c : Char} (plain : IsPlain c) (rest : List Char) :
    endsWord (c :: rest) = false := by
  refine endsWord_eq_false_iff.mpr ⟨?_, ?_, ?_, ?_, ?_, ?_, plain.isBlank⟩
  · rintro left rfl -
    exact absurd plain (by decide)
  all_goals
    rintro rfl
    exact absurd plain (by decide)

theorem takeWord_of_isPlain {text : List Char} (plain : ∀ c ∈ text, IsPlain c) :
    takeWord text = (text, []) := by
  induction text with
  | nil => rfl
  | cons c rest inductionHypothesis =>
      obtain ⟨plainHere, plainBehind⟩ := List.forall_mem_cons.mp plain
      rw [takeWord, if_neg (by rw [endsWord_of_isPlain plainHere]; decide),
        inductionHypothesis plainBehind]

theorem readsTo_of_isPlainWord {word : String} (plainWord : IsPlainWord word)
    (noIn : lowercase word ≠ "in") (noNot : lowercase word ≠ "not") :
    ReadsTo word.toList .word word.toList [] := by
  have lowered := toList_lowercase plainWord.plain
  have unclassified : classifyWord word.toList = .word := by
    rw [classifyWord, ← lowered, if_neg, if_neg]
    · rw [beq_iff_eq]
      exact fun same => noNot (String.toList_inj.mp same)
    · rw [beq_iff_eq]
      exact fun same => noIn (String.toList_inj.mp same)
  obtain ⟨c, rest, word_eq⟩ :=
    List.exists_cons_of_ne_nil (mt String.toList_eq_nil_iff.mp plainWord.some)
  have plain := plainWord.plain
  rw [word_eq] at unclassified plain ⊢
  obtain ⟨plainHere, plainBehind⟩ := List.forall_mem_cons.mp plain
  have notQuote : c ≠ '"' := by
    rintro rfl
    exact absurd plainHere (by decide)
  have reads := ReadsTo.word (endsWord_of_isPlain plainHere rest) notQuote
  rwa [takeWord_of_isPlain plainBehind, unclassified] at reads

/-- The search for a pair. -/
def pairSearch (key value : String) : Search :=
  .ofClauses [.equals key value]

/-- A key, an equals sign and a value are read as the search for a pair. -/
theorem read_of_pairTokens {text : String} {keyKind valueKind : TokenKind}
    {keyOffset signOffset valueOffset : Nat}
    (cut : tokensFrom 0 text.toList = .ok [⟨keyKind, key, keyOffset⟩, ⟨.equals, "=", signOffset⟩,
      ⟨valueKind, value, valueOffset⟩])
    (isKey : keyKind = .word ∨ keyKind = .quoted)
    (isValue : valueKind = .word ∨ valueKind = .quoted) :
    Search.read text = .ok (pairSearch key value) := by
  refine (Search.read_eq_ok_iff (.endOfInput none)).mpr ⟨_, _, cut, ?_, rfl⟩
  have readPair : readClause (.endOfInput none) ⟨keyKind, key, keyOffset⟩
      [⟨.equals, "=", signOffset⟩, ⟨valueKind, value, valueOffset⟩] =
        .ok (.equals key value, []) := by
    rcases isKey with rfl | rfl
    · rcases isValue with rfl | rfl
      · rfl
      · rfl
    · rcases isValue with rfl | rfl
      · rfl
      · rfl
  have notBlank : Token.isBlank ⟨keyKind, key, keyOffset⟩ = false := by
    rcases isKey with rfl | rfl
    · rfl
    · rfl
  exact readClauses_eq_ok_iff.mpr (.inr ⟨_, _, _, [], [], skipBlanks_of_not_isBlank notBlank _,
    readPair, readClauses_eq_ok_iff.mpr (.inl ⟨rfl, rfl⟩), rfl⟩)

theorem read_pairText (plainPair : IsPlainPair (key, value))
    (keyIsNoKeyword : lowercase key ≠ "in" ∧ lowercase key ≠ "not")
    (valueIsNoKeyword : lowercase value ≠ "in" ∧ lowercase value ≠ "not") :
    Search.read (pairText (key, value)) = .ok (pairSearch key value) := by
  have apart : key.toList.getLast? ≠ some '!' := fun bang =>
    absurd (plainPair.1.plain '!' (List.mem_of_getLast? bang)) (by decide)
  have text_eq : (pairText (key, value)).toList = key.toList ++ '=' :: value.toList := by
    simp [pairText]
  have keyReads : ReadsTo (key.toList ++ '=' :: value.toList) .word key.toList
      ('=' :: value.toList) :=
    (readsTo_of_isPlainWord plainPair.1 keyIsNoKeyword.1 keyIsNoKeyword.2).append
      fun _ _ => breaksWord_equals apart _
  have valueReads :=
    readsTo_of_isPlainWord plainPair.2 valueIsNoKeyword.1 valueIsNoKeyword.2
  have cut : tokensFrom 0 (key.toList ++ '=' :: value.toList) =
      .ok [⟨.word, String.ofList key.toList, 0⟩, ⟨.equals, "=", _⟩,
        ⟨.word, String.ofList value.toList, _⟩] :=
    keyReads.tokensFrom ((ReadsTo.equals _).tokensFrom
      (valueReads.tokensFrom (tokensFrom_nil_eq_ok_iff.mpr rfl)))
  rw [String.ofList_toList, String.ofList_toList, ← text_eq] at cut
  exact read_of_pairTokens cut (.inl rfl) (.inl rfl)

theorem matchesRaw_pairSearch (raw : String) : (pairSearch key value).matchesRaw raw = true := by
  have comprises := Search.comprises_ofClauses [.equals key value]
  refine Search.matchesRaw_iff.mpr ⟨fun fragment member => ?_, fun fragment member => ?_⟩
  · simpa using (comprises.mem_fragments fragment).mp member
  · simpa using (comprises.mem_notFragments fragment).mp member

theorem matchesFields_pairSearch {fields : Fields} :
    (pairSearch key value).matchesFields fields = true ↔
      ∃ found, fields[lowercase key]? = some found ∧ fragmentFits value = true ∧
        fragmentMatches value found = true := by
  have comprises := Search.comprises_ofClauses [.equals key value]
  have wanted (name : String) : (pairSearch key value).fields[name]? =
      if lowercase key = name then some [value] else none := by
    rw [pairSearch, comprises.getElem?_fields]
    by_cases same : lowercase key = name
    · simp [Clause.replacement?, same]
    · simp [Clause.replacement?, same]
  have excluded (name : String) : (pairSearch key value).notFields[name]? = none :=
    (comprises.getElem?_notFields name).trans rfl
  have single : (pairSearch key value).matchesFields fields = true ↔
      Search.matchesAny fields (lowercase key) [value] = true := by
    rw [Search.matchesFields_iff]
    constructor
    · rintro ⟨held, -⟩
      exact held (lowercase key) [value] (by rw [wanted, if_pos rfl])
    · refine fun held => ⟨fun name values asked => ?_, fun name values asked => ?_⟩
      · rw [wanted, Option.ite_none_right_eq_some, Option.some.injEq] at asked
        obtain ⟨rfl, rfl⟩ := asked
        exact held
      · rw [excluded] at asked
        cases asked
  rw [single, Search.matchesAny]
  cases fields[lowercase key]? with
  | none => simp
  | some found => simp [Search.matchesOne]

/-- A plain word is found in another one if it is that word up to case. -/
theorem fragmentMatches_iff_of_isPlainWord {found : String} (plainValue : IsPlainWord value)
    (plainFound : IsPlainWord found) :
    fragmentMatches value found = true ↔ lowercase value = lowercase found := by
  have unstarred : '*' ∉ value.toList := fun member =>
    absurd (plainValue.plain '*' member) (by decide)
  have words (c : Char) (member : c ∈ found.toList) : isWord c = true :=
    (plainFound.plain c member).isWord
  rw [fragmentMatches_iff, ← plainValue.sameFold_iff plainFound]
  constructor
  · rintro ⟨before, middle, after, split, strung, opens, closes⟩
    -- Around the whole value there is nothing, for a neighbour would be a word character too.
    have noneBefore : before = [] := by
      rcases before.eq_nil_or_concat with empty | ⟨front, c, rfl⟩
      · exact empty
      · rcases opens with star | free
        · exact absurd (List.mem_of_head? star) unstarred
        · have word := words c (by rw [split]; simp)
          rw [free c (by simp)] at word
          cases word
    have noneAfter : after = [] := by
      cases after with
      | nil => rfl
      | cons c back =>
          rcases closes with star | free
          · exact absurd (List.mem_of_getLast? star) unstarred
          · have word := words c (by rw [split]; simp)
            rw [free c rfl] at word
            cases word
    rw [split, noneBefore, noneAfter, List.nil_append, List.append_nil]
    exact (strung_splitOn_of_notMem unstarred).mp strung
  · intro alike
    exact ⟨[], found.toList, [], (List.append_nil _).symm,
      (strung_splitOn_of_notMem unstarred).mpr alike, .inr nofun, .inr nofun⟩

end Query

namespace Pipeline

variable {config : Config.LogConfig} {pairs : List (String × String)} {event : Event}

/-- The search for a pair selects an event for the fields that its parser finds. -/
theorem select?_pairSearch {range : TimeRange} {key value : String}
    (untyped : IsUntyped config) (oneLine : '\n' ∉ event.source.toList) :
    ((⟨pairSearch key value, range⟩ : SearchStep).select? (.ofConfig config) event).isSome = true ↔
      ∃ found, (builtinParser.fieldsOf event)[lowercase key]? = some found ∧
        fragmentFits value = true ∧ fragmentMatches value found = true := by
  rw [Option.isSome_iff_exists]
  simp only [SearchStep.select?_eq_some_iff, matchesRaw_pairSearch, matchesFields_pairSearch,
    parserFor?_of_isUntyped untyped oneLine, true_and, Option.some.injEq, exists_eq_left',
    exists_and_left, exists_eq', and_true]

/-- The event that is written in the given pairs. -/
def eventOf (pairs : List (String × String)) (source : String) : Event :=
  { id := 1, raw := pairsText pairs, timestamp := Time.Instant.epoch, host := "h", source }

/-- In an event that is written in pairs, the fields are the values of the last pairs, and a pair is
found exactly if its value is the last one of its key, unless the value is too long to be searched
for.  The event's own host and source stand above pairs of these names, and the entry for all files
is for sources of one line. -/
theorem pairs_are_found_by_their_last_values (untyped : IsUntyped config)
    (plainPairs : ∀ pair ∈ pairs, IsPlainPair pair) (written : event.raw = pairsText pairs)
    (oneLine : '\n' ∉ event.source.toList) :
    (∃ parser, (FileMatcher.ofConfig config).parserFor? event.source = some parser ∧
      ∀ name, name ≠ "host" → name ≠ "source" →
        (parser.fieldsOf event)[name]? = lastValue? pairs name) ∧
    ∀ key value, IsPlainPair (key, value) →
      lowercase key ∉ ["in", "not", "host", "source"] → lowercase value ∉ ["in", "not"] →
      (value.length ≤ 9000 → fragmentFits value = true) ∧
      ∃ search, Search.read (pairText (key, value)) = .ok search ∧
        ∀ range, ((⟨search, range⟩ : SearchStep).select? (.ofConfig config) event).isSome = true ↔
          fragmentFits value = true ∧
            lastValue? pairs (lowercase key) = some (lowercase value) := by
  refine ⟨⟨builtinParser, parserFor?_of_isUntyped untyped oneLine, fun name noHost noSource =>
    getElem?_fieldsOf_pairsText plainPairs written noHost noSource⟩, ?_⟩
  intro key value plainPair keyIsFree valueIsFree
  simp only [List.mem_cons, List.not_mem_nil, or_false, not_or] at keyIsFree valueIsFree
  obtain ⟨keyNotIn, keyNotNot, noHost, noSource⟩ := keyIsFree
  refine ⟨fragmentFits_of_length_le, pairSearch key value,
    read_pairText plainPair ⟨keyNotIn, keyNotNot⟩ valueIsFree, fun range => ?_⟩
  rw [select?_pairSearch untyped oneLine, getElem?_fieldsOf_pairsText plainPairs written noHost
    noSource]
  constructor
  · rintro ⟨found, last, fits, matched⟩
    obtain ⟨pair, member, rfl⟩ := exists_pair_of_lastValue? last
    have plainFound := (plainPairs pair member).2
    rw [fragmentMatches_iff_of_isPlainWord plainPair.2 plainFound.lowercase,
      plainFound.lowercase_lowercase] at matched
    exact ⟨fits, matched ▸ last⟩
  · rintro ⟨fits, last⟩
    refine ⟨_, last, fits, ?_⟩
    rw [fragmentMatches_iff_of_isPlainWord plainPair.2 plainPair.2.lowercase,
      plainPair.2.lowercase_lowercase]

/-- Of two values of one key the later one is found, in any case. -/
theorem later_value_is_found :
    ∃ later earlier, Search.read "a=x" = .ok later ∧ Search.read "A=y" = .ok earlier ∧
      let event := eventOf [("A", "y"), ("b_1", "z"), ("a", "X")] "s"
      let files := FileMatcher.ofConfig .everyFile
      ((⟨later, {}⟩ : SearchStep).select? files event).isSome = true ∧
        ((⟨earlier, {}⟩ : SearchStep).select? files event).isSome = false := by
  have plainPairs : ∀ pair ∈ [("A", "y"), ("b_1", "z"), ("a", "X")], IsPlainPair pair := by
    decide
  have written : (eventOf [("A", "y"), ("b_1", "z"), ("a", "X")] "s").raw =
    pairsText [("A", "y"), ("b_1", "z"), ("a", "X")] := rfl
  obtain ⟨-, finds⟩ :=
    pairs_are_found_by_their_last_values isUntyped_everyFile plainPairs written (by decide)
  obtain ⟨laterFits, later, readLater, laterFinds⟩ :=
    finds "a" "x" (by decide) (by decide) (by decide)
  obtain ⟨-, earlier, readEarlier, earlierFinds⟩ :=
    finds "A" "y" (by decide) (by decide) (by decide)
  refine ⟨later, earlier, readLater, readEarlier, (laterFinds {}).mpr ?_, ?_⟩
  · exact ⟨laterFits (by decide), by decide⟩
  · refine Bool.eq_false_iff.mpr fun found => ?_
    exact absurd ((earlierFinds {}).mp found).2 (by decide)

/-- The pair of plain words, of which none is a keyword and the key names neither host nor source as
they are written, is not found in an event that is nothing but the pair. -/
structure IsMissed (pair : String × String) (source : String) : Prop where
  plain : IsPlainPair pair
  keyIsFree : lowercase pair.1 ∉ ["in", "not"] ∧ pair.1 ∉ ["host", "source"]
  valueIsFree : lowercase pair.2 ∉ ["in", "not"]
  missed : ∃ search, Search.read (pairText pair) = .ok search ∧
    ((⟨search, {}⟩ : SearchStep).select? (.ofConfig .everyFile)
      (eventOf [pair] source)).isSome = false

theorem IsMissed.of_pairSearch {pair : String × String} {source : String}
    (plain : IsPlainPair pair)
    (keyIsFree : lowercase pair.1 ∉ ["in", "not"] ∧ pair.1 ∉ ["host", "source"])
    (valueIsFree : lowercase pair.2 ∉ ["in", "not"])
    (missed : ((⟨pairSearch pair.1 pair.2, {}⟩ : SearchStep).select? (.ofConfig .everyFile)
      (eventOf [pair] source)).isSome = false) : IsMissed pair source where
  plain := plain
  keyIsFree := keyIsFree
  valueIsFree := valueIsFree
  missed := ⟨pairSearch pair.1 pair.2,
    read_pairText plain (by simpa using keyIsFree.1) (by simpa using valueIsFree), missed⟩

theorem isPlainWord_zeros (count : Nat) : IsPlainWord (zeros (count + 1)) where
  some empty := by
    rw [zeros, ← String.toList_eq_nil_iff, String.toList_ofList] at empty
    cases empty
  plain c member := by
    rw [eq_of_mem_zeros member]
    decide

theorem lowercase_zeros (count : Nat) : lowercase (zeros count) = zeros count := by
  refine String.toList_inj.mp ?_
  rw [toList_lowercase, zeros, String.toList_ofList, List.map_replicate]
  · rfl
  · intro c member
    rw [eq_of_mem_zeros member]
    decide

theorem lowercase_zeros_notMem (count : Nat) : lowercase (zeros count) ∉ ["in", "not"] := by
  rw [lowercase_zeros]
  intro keyword
  simp only [List.mem_cons, List.not_mem_nil, or_false] at keyword
  rcases keyword with same | same
  · exact absurd (eq_of_mem_zeros (c := 'i') (by rw [same]; decide)) (by decide)
  · exact absurd (eq_of_mem_zeros (c := 'n') (by rw [same]; decide)) (by decide)

/-- A pair is not found if its key is another spelling of the host, if its value is too long, or if
the source is no single line. -/
theorem some_pairs_are_missed :
    IsMissed ("HOST", "x") "s" ∧ IsMissed ("a", zeros 330000) "s" ∧
      IsMissed ("a", "x") "p\nq" := by
  refine ⟨.of_pairSearch (by decide) (by decide) (by decide) ?_,
    .of_pairSearch ⟨by decide, isPlainWord_zeros 329999⟩ (by decide)
      (lowercase_zeros_notMem 330000) ?_,
    .of_pairSearch (by decide) (by decide) (by decide) ?_⟩
  · refine Bool.eq_false_iff.mpr fun selected => ?_
    obtain ⟨found, hostField, -, matched⟩ :=
      (select?_pairSearch isUntyped_everyFile (by decide)).mp selected
    rw [show lowercase "HOST" = "host" by decide, FileParser.getElem?_fieldsOf_host] at hostField
    cases hostField
    exact absurd matched (by decide)
  · refine Bool.eq_false_iff.mpr fun selected => ?_
    obtain ⟨-, -, fits, -⟩ := (select?_pairSearch isUntyped_everyFile (by decide)).mp selected
    rw [fragmentFits_zeros (by decide)] at fits
    cases fits
  · refine Bool.eq_false_iff.mpr fun selected => ?_
    obtain ⟨extracted, selected⟩ := Option.isSome_iff_exists.mp selected
    obtain ⟨-, parser, parsed, -⟩ := SearchStep.select?_eq_some_iff.mp selected
    rw [FileMatcher.parserFor?, entries_of_isUntyped isUntyped_everyFile] at parsed
    cases parsed

end Pipeline

end LogQuery
