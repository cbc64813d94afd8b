import LogQuery.Proofs.Pipeline.PairSearch
import LogQuery.Proofs.Pipeline.QuotedConditions
import LogQuery.Proofs.Pipeline.SearchResults

/-!
# Searching for what is shown

A text holds itself, and a star in it stands for a star too.  So the search for a field and its
value, both in quotes, finds every event that has been shown with them, whichever parser has found
the field.  Two things stand against it: fields are looked up in lower case, so one whose name is
not in lower case cannot be searched for by it, and a value may be too long to be searched for.
-/

namespace LogQuery.Pipeline

open LogQuery.Config LogQuery.Extraction LogQuery.Query LogQuery.Text LogQuery.Wildcard

/-- A condition in quotes is read as the search for a pair. -/
theorem Condition.IsQuotable.read_quoted {condition : Condition}
    (isQuotable : condition.IsQuotable) :
    Search.read condition.quoted = .ok (pairSearch condition.field condition.value) := by
  have nothingBehind (offset : Nat) :
      ∃ tokens, Query.tokensFrom offset "".toList = .ok tokens ∧ tokens = [] :=
    ⟨[], tokensFrom_nil_eq_ok_iff.mpr rfl, rfl⟩
  obtain ⟨sign, value, _, cut, rfl⟩ := isQuotable.exists_tokensFrom nothingBehind 0
  rw [String.append_empty] at cut
  exact read_of_pairTokens cut (.inr rfl) (.inr rfl)

variable {store : EventStore} {config : LogConfig} {step : SearchStep} {input : List Batch}
  {extracted : ExtractedEvent} {name value : String} {range : TimeRange}

/-- With one configuration a search step emits what it finds in the store. -/
theorem SearchStep.mem_events_run_iff :
    extracted ∈ ((Step.search step).run ⟨store, .constant config⟩ false false input).events ↔
      ∃ event ∈ store.events, step.Finds (.ofConfig config) event extracted := by
  rw [SearchStep.run_eq_scan, SearchStep.events_scan_constant, EventStore.flatten_pages]
  exact SearchStep.mem_filterMap_candidates

/-- An event that one search has emitted is emitted by the search for a pair as well, if the value
is found in the field that the key names in lower case. -/
theorem mem_events_run_pairSearch_iff
    (emitted : extracted ∈
      ((Step.search step).run ⟨store, .constant config⟩ false false input).events) :
    extracted ∈ ((Step.search ⟨pairSearch name value, range⟩).run
        ⟨store, .constant config⟩ false false []).events ↔
      range.contains extracted.timestamp = true ∧
        ∃ found, extracted.fields[lowercase name]? = some found ∧ fragmentFits value = true ∧
          fragmentMatches value found = true := by
  rw [SearchStep.mem_events_run_iff]
  constructor
  · rintro ⟨event, -, inRange, -, parser, -, matched, rfl⟩
    exact ⟨inRange, matchesFields_pairSearch.mp matched⟩
  · rintro ⟨inRange, held⟩
    obtain ⟨event, stored, -, -, parser, parsed, -, rfl⟩ :=
      SearchStep.mem_events_run_iff.mp emitted
    exact ⟨event, stored, inRange, matchesRaw_pairSearch event.raw, parser, parsed,
      matchesFields_pairSearch.mpr held, rfl⟩

/-- An event that a search emits with a field in lower case is emitted by the search for the field
and its value in quotes too, unless the value is too long to be searched for. -/
theorem shown_fields_are_searched_for
    (emitted : extracted ∈
      ((Step.search step).run ⟨store, .constant config⟩ false false input).events)
    (held : extracted.fields[name]? = some value) (lower : lowercase name = name)
    (quotable : Condition.IsQuotable ⟨name, value⟩) :
    (value.length ≤ 9000 → fragmentFits value = true) ∧
      ∃ search, Search.read (Condition.quoted ⟨name, value⟩) = .ok search ∧
        ∀ range : TimeRange, range.contains extracted.timestamp = true →
          (extracted ∈ ((Step.search ⟨search, range⟩).run
              ⟨store, .constant config⟩ false false []).events ↔ fragmentFits value = true) := by
  refine ⟨fragmentFits_of_length_le, _, quotable.read_quoted, fun range inRange => ?_⟩
  rw [mem_events_run_pairSearch_iff emitted]
  constructor
  · rintro ⟨-, found, -, fits, -⟩
    exact fits
  · intro fits
    exact ⟨inRange, value, lower.symm ▸ held, fits, fragmentMatches_self value⟩

/-- The search for everything emits an event of one line with the fields that its parser finds. -/
theorem apply_mem_events_run_everyFile (event : Event) (stored : event ∈ store.events)
    (oneLine : '\n' ∉ event.source.toList) :
    builtinParser.apply event ∈ ((Step.search ⟨{}, {}⟩).run
      ⟨store, .constant .everyFile⟩ false false []).events := by
  have rawMatches : Search.matchesRaw {} event.raw = true := by simp [Search.matchesRaw_iff]
  have fieldsMatch : Search.matchesFields {} (builtinParser.fieldsOf event) = true := by
    simp [Search.matchesFields_iff]
  exact SearchStep.mem_events_run_iff.mpr ⟨event, stored, rfl, rawMatches, builtinParser,
    parserFor?_of_isUntyped isUntyped_everyFile oneLine, fieldsMatch, rfl⟩

/-- A store with one event, which is from the given host. -/
def storeOfHost (host : String) : EventStore where
  added := [⟨"", .epoch, host, "s"⟩]

/-- Stars, quotes and backslashes in the name of a host are found as they are. -/
theorem host_with_star_is_searched_for :
    let name := "a*\"b\\c"
    let sources : Sources := ⟨storeOfHost name, .constant .everyFile⟩
    ∃ extracted ∈ ((Step.search ⟨{}, {}⟩).run sources false false []).events,
      extracted.fields["host"]? = some name ∧
        ∃ search, Search.read "\"host\"=\"a*\\\"b\\c\"" = .ok search ∧
          extracted ∈ ((Step.search ⟨search, {}⟩).run sources false false []).events := by
  intro name sources
  let event : Event := ⟨⟨"", .epoch, name, "s"⟩, 1⟩
  have stored : event ∈ (storeOfHost name).events := List.mem_cons_self
  have emitted := apply_mem_events_run_everyFile event stored (by decide)
  have held := builtinParser.getElem?_fieldsOf_host event
  obtain ⟨short, search, read, found⟩ :=
    shown_fields_are_searched_for emitted held (by decide) ⟨by decide, by decide⟩
  have written : Condition.quoted ⟨"host", name⟩ = "\"host\"=\"a*\\\"b\\c\"" := by decide
  rw [written] at read
  exact ⟨_, emitted, held, search, read, (found {} rfl).mpr (short (by decide))⟩

/-- An event is shown with a field, but the search for the field and its value does not find it. -/
structure IsLost (store : EventStore) (config : LogConfig) (name value : String) : Prop where
  quotable : Condition.IsQuotable ⟨name, value⟩
  lost : ∃ extracted ∈ ((Step.search ⟨{}, {}⟩).run
      ⟨store, .constant config⟩ false false []).events,
    extracted.fields[name]? = some value ∧
      ∃ search, Search.read (Condition.quoted ⟨name, value⟩) = .ok search ∧
        extracted ∉ ((Step.search ⟨search, {}⟩).run
          ⟨store, .constant config⟩ false false []).events

theorem IsLost.of_emitted (quotable : Condition.IsQuotable ⟨name, value⟩)
    (emitted : extracted ∈ ((Step.search ⟨{}, {}⟩).run
      ⟨store, .constant config⟩ false false []).events)
    (held : extracted.fields[name]? = some value)
    (missed : ¬∃ found, extracted.fields[lowercase name]? = some found ∧
      fragmentFits value = true ∧ fragmentMatches value found = true) :
    IsLost store config name value where
  quotable := quotable
  lost := ⟨extracted, emitted, held, _, quotable.read_quoted,
    fun found => missed ((mem_events_run_pairSearch_iff emitted).mp found).2⟩

theorem isQuotable_zeros (count : Nat) : Query.IsQuotable (zeros count) :=
  fun isLast => absurd (eq_of_mem_zeros (List.mem_of_getLast? isLast)) (by decide)

/-- A field whose name has a capital letter is not found by it, and neither is a value that is too
long. -/
theorem some_fields_are_lost :
    let type : FileType :=
      { name := defaultTypeName, timeLayout := "",
        parser := .regex defaultDelimiter ["(?P<Level>x)"] defaultTimeField }
    IsLost { added := [⟨"x", .epoch, "h", "s"⟩] }
        { files := [{ fileName := "s" }], fileTypes := .ofList [(type.name, type)] } "Level" "x" ∧
      IsLost (storeOfHost (zeros 330000)) .everyFile "host" (zeros 330000) := by
  intro type
  constructor
  · let store : EventStore := { added := [⟨"x", .epoch, "h", "s"⟩] }
    let config : LogConfig :=
      { files := [{ fileName := "s" }], fileTypes := .ofList [(type.name, type)] }
    have shown : ((Step.search ⟨{}, {}⟩).run
        ⟨store, .constant config⟩ false false []).events.map
          (fun extracted => (extracted.fields["Level"]?, extracted.fields["level"]?)) =
        [(some "x", none)] := by
      cbv
    obtain ⟨extracted, events_eq, fields_eq⟩ := List.map_eq_singleton_iff.mp shown
    obtain ⟨held, notLower⟩ := Prod.mk.inj fields_eq
    have emitted := events_eq ▸ List.mem_singleton_self extracted
    refine .of_emitted ⟨by decide, by decide⟩ emitted held ?_
    rw [show lowercase "Level" = "level" by decide, notLower]
    rintro ⟨found, none, -⟩
    cases none
  · let event : Event := ⟨⟨"", .epoch, zeros 330000, "s"⟩, 1⟩
    have stored : event ∈ (storeOfHost (zeros 330000)).events := List.mem_cons_self
    have emitted := apply_mem_events_run_everyFile event stored (by decide)
    refine .of_emitted ⟨by decide, isQuotable_zeros 330000⟩ emitted
      (builtinParser.getElem?_fieldsOf_host event) ?_
    rintro ⟨found, -, fits, -⟩
    rw [fragmentFits_zeros (by decide)] at fits
    cases fits

end LogQuery.Pipeline
