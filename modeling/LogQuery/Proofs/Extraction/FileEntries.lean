import LogQuery.Extraction.FileMatcher
import LogQuery.Proofs.Extraction.Merging
import LogQuery.Proofs.Outcome
import LogQuery.Proofs.Wildcard.Glob
import LogQuery.Proofs.Wildcard.Limit

/-!
# The entry that counts

The names of types that an entry lists stand for types of the configuration; a name that the
configuration does not know stands for nothing, and `DEFAULT` is known in any case, so there is
always a type.  An entry gives a source its parser if its glob names the source, is not too large to
be compiled, and the types behind the first one suit it.  Any other entry is passed over, so that a
later one may still count.
-/

namespace LogQuery

open Config Wildcard

namespace Config.LogConfig

/-- What the names of types stand for, with the type that belongs to every file behind them. -/
inductive Resolves (config : LogConfig) : List String → List FileType → Prop where
  | last : Resolves config [] [config.fileTypes[defaultTypeName]?.getD .builtin]
  | known {name : String} {type : FileType} {names : List String} {types : List FileType}
      (found : config.fileTypes[name]? = some type) (behind : Resolves config names types) :
      Resolves config (name :: names) (type :: types)
  /-- `DEFAULT` may be listed although the configuration does not have it. -/
  | builtin {names : List String} {types : List FileType}
      (missing : config.fileTypes[defaultTypeName]? = none)
      (behind : Resolves config names types) :
      Resolves config (defaultTypeName :: names) (.builtin :: types)
  | unknown {name : String} {names : List String} {types : List FileType}
      (missing : config.fileTypes[name]? = none) (other : name ≠ defaultTypeName)
      (behind : Resolves config names types) : Resolves config (name :: names) types

variable {config : LogConfig} {names : List String} {types : List FileType}

theorem fileType?_of_found {name : String} {type : FileType}
    (found : config.fileTypes[name]? = some type) : config.fileType? name = some type := by
  rw [fileType?, found]

theorem fileType?_defaultTypeName (config : LogConfig) :
    config.fileType? defaultTypeName =
      some (config.fileTypes[defaultTypeName]?.getD .builtin) := by
  rw [fileType?]
  cases config.fileTypes[defaultTypeName]? with
  | some type => rfl
  | none => rfl

theorem fileType?_of_missing {name : String} (missing : config.fileTypes[name]? = none)
    (other : name ≠ defaultTypeName) : config.fileType? name = none := by
  rw [fileType?, missing]
  exact if_neg (by simpa using other)

theorem Resolves.filterMap_eq (resolves : config.Resolves names types) :
    (names ++ [defaultTypeName]).filterMap config.fileType? = types := by
  induction resolves with
  | last => rw [List.nil_append, List.filterMap_cons, fileType?_defaultTypeName, List.filterMap_nil]
  | known found _ inductionHypothesis =>
      rw [List.cons_append, List.filterMap_cons, fileType?_of_found found, inductionHypothesis]
  | builtin missing _ inductionHypothesis =>
      rw [List.cons_append, List.filterMap_cons, fileType?_defaultTypeName, missing,
        Option.getD_none, inductionHypothesis]
  | unknown missing other _ inductionHypothesis =>
      rw [List.cons_append, List.filterMap_cons, fileType?_of_missing missing other,
        inductionHypothesis]

theorem resolves_filterMap (config : LogConfig) (names : List String) :
    config.Resolves names ((names ++ [defaultTypeName]).filterMap config.fileType?) := by
  induction names with
  | nil =>
      rw [List.nil_append, List.filterMap_cons, fileType?_defaultTypeName, List.filterMap_nil]
      exact .last
  | cons name names inductionHypothesis =>
      rw [List.cons_append, List.filterMap_cons]
      cases found : config.fileTypes[name]? with
      | some type =>
          rw [fileType?_of_found found]
          exact .known found inductionHypothesis
      | none =>
          by_cases isDefault : name = defaultTypeName
          · subst isDefault
            rw [fileType?_defaultTypeName, found, Option.getD_none]
            exact .builtin found inductionHypothesis
          · rw [fileType?_of_missing found isDefault]
            exact .unknown found isDefault inductionHypothesis

/-- The types of an entry are those that its names stand for. -/
theorem resolves_iff {entry : FileEntry} :
    config.Resolves entry.fileTypes types ↔ config.typesOf entry = types :=
  ⟨Resolves.filterMap_eq, fun types_eq => types_eq ▸ resolves_filterMap config entry.fileTypes⟩

end Config.LogConfig

namespace Extraction

/-- The regular expressions that patterns stand for, in their order.  A pattern that stands for none
is passed over. -/
inductive Compiles : List String → List Regex → Prop where
  | nil : Compiles [] []
  | regex {pattern : String} {patterns : List String} {regex : Regex} {regexes : List Regex}
      (compiled : Regex.compile pattern = .ok regex) (behind : Compiles patterns regexes) :
      Compiles (pattern :: patterns) (regex :: regexes)
  | broken {pattern : String} {patterns : List String} {reason : Regex.PatternError}
      {regexes : List Regex} (fails : Regex.compile pattern = .error reason)
      (behind : Compiles patterns regexes) : Compiles (pattern :: patterns) regexes

/-- The parser of types that are read as the first one is: it has the time field of the first one,
and if they are read with regular expressions, those of all the types. -/
inductive ReadsAs (first : FileType) (others : List FileType) : FileParser → Prop where
  | regex {extractors : List Regex} (isRegex : first.kind = .regex)
      (compiles : Compiles ((first :: others).flatMap FileType.patterns) extractors) :
      ReadsAs first others ⟨.regex extractors, first.parser.timeField⟩
  | json (isJson : first.kind = .json) : ReadsAs first others ⟨.json, first.parser.timeField⟩

/-- The types of the entry agree: each one behind the first is of its kind unless it is called
`DEFAULT`.  Then this is the parser of the entry. -/
structure Usable (config : LogConfig) (entry : FileEntry) (parser : FileParser) : Prop where
  agrees : ∃ first others, config.Resolves entry.fileTypes (first :: others) ∧
    (∀ other ∈ others, other.name = defaultTypeName ∨ other.kind = first.kind) ∧
    ReadsAs first others parser

/-- The entry names the source with a glob that can be compiled, and this is its parser. -/
structure Gives (config : LogConfig) (source : String) (entry : FileEntry) (parser : FileParser) :
    Prop where
  fits : globFits entry.fileName = true
  named : Names entry.fileName.toList source.toList
  usable : Usable config entry parser

theorem compiles_iff {patterns : List String} {regexes : List Regex} :
    Compiles patterns regexes ↔ compilable patterns = regexes := by
  constructor
  · intro compiles
    induction compiles with
    | nil => rfl
    | regex compiled _ inductionHypothesis =>
        rw [compilable_cons_of_ok compiled, inductionHypothesis]
    | broken fails _ inductionHypothesis =>
        rw [compilable_cons_of_error fails, inductionHypothesis]
  · rintro rfl
    induction patterns with
    | nil => exact .nil
    | cons pattern patterns inductionHypothesis =>
        cases compiled : Regex.compile pattern with
        | ok regex =>
            rw [compilable_cons_of_ok compiled]
            exact .regex compiled inductionHypothesis
        | error reason =>
            rw [compilable_cons_of_error compiled]
            exact .broken compiled inductionHypothesis

theorem readsAs_iff {first : FileType} {others : List FileType} {parser : FileParser} :
    ReadsAs first others parser ↔ parser = .ofTypes first others := by
  cases firstKind : first.kind with
  | regex =>
      rw [FileParser.ofTypes_of_regex firstKind]
      constructor
      · intro reads
        cases reads with
        | regex _ compiles => rw [compiles_iff.mp compiles]
        | json isJson => cases firstKind.symm.trans isJson
      · rintro rfl
        exact .regex firstKind (compiles_iff.mpr rfl)
  | json =>
      rw [FileParser.ofTypes_of_json firstKind]
      constructor
      · intro reads
        cases reads with
        | regex isRegex => cases firstKind.symm.trans isRegex
        | json => rfl
      · rintro rfl
        exact .json firstKind

namespace FileMatcher

variable {config : LogConfig} {source : String} {entry : FileEntry} {parser : FileParser}

/-- Every entry has a type. -/
theorem exists_typesOf_eq_cons (config : LogConfig) (entry : FileEntry) :
    ∃ first others, config.typesOf entry = first :: others := by
  refine List.exists_cons_of_ne_nil fun none => ?_
  have isLast := LogConfig.fileType?_defaultTypeName config
  rw [LogConfig.typesOf, List.filterMap_eq_nil_iff] at none
  rw [none defaultTypeName (by simp)] at isLast
  cases isLast

/-- The parser that an entry gives to a source. -/
def parserOf? (config : LogConfig) (source : String) (entry : FileEntry) : Option FileParser :=
  if globFits entry.fileName && globMatches entry.fileName source then
    (FileParser.merge entry.fileName (config.typesOf entry)).toOption
  else none

theorem merge_typesOf_eq_ok_iff {file : String} :
    FileParser.merge file (config.typesOf entry) = .ok parser ↔ Usable config entry parser := by
  have suits_iff (other first : FileType) :
      other.Suits first ↔ other.name = defaultTypeName ∨ other.kind = first.kind := by
    rw [FileType.Suits, FileType.isDefault, beq_iff_eq]
  obtain ⟨first, others, types_eq⟩ := exists_typesOf_eq_cons config entry
  rw [types_eq, FileParser.merge_cons_eq_ok_iff]
  simp only [suits_iff]
  constructor
  · rintro ⟨suit, made⟩
    exact ⟨first, others, LogConfig.resolves_iff.mpr types_eq, suit, readsAs_iff.mpr made⟩
  · rintro ⟨first', others', resolves, suit, reads⟩
    obtain ⟨rfl, rfl⟩ :=
      List.cons.inj (types_eq.symm.trans (LogConfig.resolves_iff.mp resolves))
    exact ⟨suit, readsAs_iff.mp reads⟩

theorem globMatches_iff_names {glob : String} :
    globMatches glob source = true ↔ Names glob.toList source.toList :=
  coversAll_iff.trans generates_globItems_iff

theorem parserOf?_eq_some_iff :
    parserOf? config source entry = some parser ↔ Gives config source entry parser := by
  rw [parserOf?, Option.ite_none_right_eq_some, Bool.and_eq_true, globMatches_iff_names,
    toOption_eq_some_iff, merge_typesOf_eq_ok_iff]
  constructor
  · rintro ⟨⟨fits, named⟩, usable⟩
    exact ⟨fits, named, usable⟩
  · rintro ⟨fits, named, usable⟩
    exact ⟨⟨fits, named⟩, usable⟩

/-- The parser for a source is the first one that an entry gives. -/
theorem parserFor?_ofConfig (config : LogConfig) (source : String) :
    (ofConfig config).parserFor? source = config.files.findSome? (parserOf? config source) := by
  rw [parserFor?, ofConfig]
  induction config.files with
  | nil => rfl
  | cons entry entries inductionHypothesis =>
      rw [List.findSome?_cons, ← inductionHypothesis, List.filter_cons, parserOf?]
      cases globFits entry.fileName with
      | false => rfl
      | true =>
          simp only [if_true, List.filterMap_cons, Bool.true_and]
          cases FileParser.merge entry.fileName (config.typesOf entry) with
          | error error =>
              cases globMatches entry.fileName source with
              | false | true => rfl
          | ok parser =>
              dsimp only
              rw [List.find?_cons]
              cases globMatches entry.fileName source with
              | false | true => rfl

/-- A source is read with the parser of the first entry that gives it one, and with none if no entry
does.  A glob of moderate length can always be compiled.  An entry always has types, so it is never
for the lack of them that it is passed over. -/
theorem source_is_read_by_its_first_usable_entry (config : LogConfig) (source : String) :
    (∀ parser, (ofConfig config).parserFor? source = some parser ↔
      ∃ before entry behind, config.files = before ++ entry :: behind ∧
        Gives config source entry parser ∧
        ∀ earlier ∈ before, ∀ other, ¬Gives config source earlier other) ∧
    ((ofConfig config).parserFor? source = none ↔
      ∀ entry ∈ config.files, ∀ parser, ¬Gives config source entry parser) ∧
    (∀ glob : String, glob.length ≤ 9000 → globFits glob = true) ∧
    ∀ (entry : FileEntry) (file : String),
      FileParser.merge entry.fileName (config.typesOf entry) ≠ .error (.noFileTypes file) := by
  have none_iff (entry : FileEntry) : parserOf? config source entry = none ↔
      ∀ parser, ¬Gives config source entry parser := by
    rw [Option.eq_none_iff_forall_ne_some]
    exact forall_congr' fun parser => not_congr parserOf?_eq_some_iff
  rw [parserFor?_ofConfig]
  refine ⟨fun parser => ?_, ?_, fun glob => globFits_of_length_le, fun entry file noTypes => ?_⟩
  · simp only [List.findSome?_eq_some_iff, parserOf?_eq_some_iff, none_iff]
  · simp only [List.findSome?_eq_none_iff, none_iff]
  · obtain ⟨first, others, types_eq⟩ := exists_typesOf_eq_cons config entry
    rw [types_eq, FileParser.merge_cons_eq_error_iff] at noTypes
    cases noTypes.2

/-- Two types of a file with patterns of which one is no regular expression and one finds a field.
The first type says which field holds the time, and the other pattern is passed over. -/
theorem broken_pattern_is_passed_over :
    let type : FileType :=
      { name := "t", timeLayout := "", parser := .regex defaultDelimiter ["(", "(?P<x>a)"] "when" }
    let default : FileType :=
      { name := defaultTypeName, timeLayout := "", parser := .regex defaultDelimiter ["b*"] "_time" }
    let config : LogConfig :=
      { files := [{ fileName := "s*", fileTypes := ["t", "unknown"] }]
        fileTypes := .ofList [(type.name, type), (default.name, default)] }
    ∃ named plain, Regex.compile "(?P<x>a)" = .ok named ∧ Regex.compile "b*" = .ok plain ∧
      named.groupNames = [some "x"] ∧
      (ofConfig config).parserFor? "source" = some ⟨.regex [named, plain], "when"⟩ := by
  intro type default config
  obtain ⟨named, named_eq⟩ : ∃ named, Regex.compile "(?P<x>a)" = .ok named := ⟨_, by cbv⟩
  obtain ⟨plain, plain_eq⟩ : ∃ plain, Regex.compile "b*" = .ok plain := ⟨_, by cbv⟩
  obtain ⟨reason, broken⟩ : ∃ reason, Regex.compile "(" = .error reason := ⟨_, by cbv⟩
  have found : config.fileTypes["t"]? = some type := by cbv
  have missing : config.fileTypes["unknown"]? = none := by cbv
  have isLast : config.fileTypes[defaultTypeName]? = some default := by cbv
  have resolves : config.Resolves ["t", "unknown"] [type, default] := by
    refine .known found (.unknown missing (by decide) ?_)
    have behind : config.Resolves [] [config.fileTypes[defaultTypeName]?.getD .builtin] := .last
    rwa [isLast] at behind
  have compiles : Compiles ["(", "(?P<x>a)", "b*"] [named, plain] :=
    .broken broken (.regex named_eq (.regex plain_eq .nil))
  have isNamed : Names "s*".toList "source".toList := globMatches_iff_names.mp (by cbv)
  have usable : Usable config { fileName := "s*", fileTypes := ["t", "unknown"] }
      ⟨.regex [named, plain], "when"⟩ :=
    ⟨type, [default], resolves, by decide, .regex rfl compiles⟩
  refine ⟨named, plain, named_eq, plain_eq, ?_, ?_⟩
  · obtain rfl := Except.ok.inj (named_eq.symm.trans (by cbv))
    rfl
  · exact ((source_is_read_by_its_first_usable_entry config "source").1 _).mpr
      ⟨[], _, [], rfl, ⟨globFits_of_length_le (by decide), isNamed, usable⟩, by simp⟩

/-- A glob may name a source in vain: its entry can be used, but the glob is too large. -/
theorem large_glob_names_in_vain :
    let glob := zeros 330000
    let config : LogConfig := { files := [{ fileName := glob }] }
    Names glob.toList glob.toList ∧ (∃ parser, Usable config { fileName := glob } parser) ∧
      (ofConfig config).parserFor? glob = none := by
  intro glob config
  have ordinary (c : Char) (member : c ∈ glob.toList) : c ≠ '*' ∧ c ≠ '?' := by
    rw [eq_of_mem_zeros member]
    decide
  have missing : config.fileTypes[defaultTypeName]? = none := by
    rw [Std.ExtTreeMap.getElem?_empty]
  have resolves : config.Resolves [] [.builtin] := by
    have behind : config.Resolves [] [config.fileTypes[defaultTypeName]?.getD .builtin] := .last
    rwa [missing] at behind
  refine ⟨.of_ordinary ordinary, ⟨_, .builtin, [], resolves, by simp, .regex rfl
    (compiles_iff.mpr rfl)⟩, ?_⟩
  have tooLarge : globFits glob = false := globFits_zeros (by decide)
  rw [parserFor?_ofConfig, List.findSome?_singleton, parserOf?, tooLarge]
  rfl

end FileMatcher

end Extraction

end LogQuery
