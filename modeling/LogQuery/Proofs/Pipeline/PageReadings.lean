import LogQuery.Proofs.Pipeline.Run
import LogQuery.Proofs.Pipeline.SearchResults

/-!
# Readings and pages

A search reads the configuration anew for each page, so what comes out is settled page by page: each
page is parsed with the reading that belongs to it.  The first reading that fails ends the search in
front of its page; what the pages before it contribute stays, and the failure is recorded.
-/

namespace LogQuery

open LogQuery.Config LogQuery.Query

namespace Config.ConfigSource

/-- What a source shows when it has been read so many times already. -/
def reading (configs : ConfigSource) : Nat → Reading
  | 0 => configs.read.1
  | index + 1 => configs.read.2.reading index

/-- All of the first readings show a configuration. -/
def Readable (configs : ConfigSource) (count : Nat) : Prop :=
  ∀ index < count, ∃ config, configs.reading index = .ok config

/-- Just so many readings show a configuration before one fails. -/
structure FailsAfter (configs : ConfigSource) (count : Nat) (reason : String) : Prop where
  readable : configs.Readable count
  fails : configs.reading count = .error reason

variable {configs : ConfigSource} {count : Nat} {reason : String}

theorem readable_succ_iff :
    configs.Readable (count + 1) ↔
      (∃ config, configs.read.1 = .ok config) ∧ configs.read.2.Readable count :=
  Nat.forall_lt_succ_left

theorem FailsAfter.not_readable (failsAfter : configs.FailsAfter count reason) {further : Nat}
    (reached : count < further) : ¬configs.Readable further := by
  intro readable
  obtain ⟨config, shown⟩ := readable count reached
  cases shown.symm.trans failsAfter.fails

/-- Some reading is the first that fails, unless all of them show a configuration. -/
theorem readable_or_failsAfter (configs : ConfigSource) (count : Nat) :
    configs.Readable count ∨
      ∃ earlier reason, earlier < count ∧ configs.FailsAfter earlier reason := by
  induction count with
  | zero => exact .inl fun index before => absurd before (Nat.not_lt_zero index)
  | succ count inductionHypothesis =>
      rcases inductionHypothesis with readable | ⟨earlier, reason, before, failsAfter⟩
      · cases shown : configs.reading count with
        | ok config =>
            refine .inl fun index before => ?_
            rcases Nat.lt_succ_iff_lt_or_eq.mp before with earlier | rfl
            · exact readable index earlier
            · exact ⟨config, shown⟩
        | error reason => exact .inr ⟨count, reason, Nat.lt_succ_self count, readable, shown⟩
      · exact .inr ⟨earlier, reason, Nat.lt_succ_of_lt before, failsAfter⟩

end Config.ConfigSource

namespace Pipeline

open LogQuery.Config.ConfigSource LogQuery.Extraction

namespace SearchStep

variable {step : SearchStep} {configs : ConfigSource} {count : Nat} {reason : String}

/-- Pages that a search can go through: stored events of its time range, in the order of results,
and among them each one in which something is found under some configuration.  All pages but the
last one are full. -/
structure IsPaging (step : SearchStep) (store : EventStore) (pages : List (List Event)) :
    Prop where
  stored : ∀ page ∈ pages, ∀ event ∈ page, event ∈ store.events
  inRange : ∀ page ∈ pages, ∀ event ∈ page, step.range.contains event.timestamp = true
  complete : ∀ event ∈ store.events, ∀ files extracted, step.Finds files event extracted →
    event ∈ pages.flatten
  inOrder : pages.flatten.Pairwise fun first second => first.ref.Precedes second.ref
  nonempty : ∀ page ∈ pages, page ≠ []
  limited : ∀ page ∈ pages, page.length ≤ store.pageSize
  full : ∀ page ∈ pages.dropLast, page.length = store.pageSize

/-- What a search finds on one page under the parsers of one configuration: event by event what it
finds, in the order of the page, and nothing for an event in which it finds nothing. -/
inductive FindsOnPage (step : SearchStep) (files : FileMatcher) :
    List Event → List ExtractedEvent → Prop where
  | nil : FindsOnPage step files [] []
  | found {event : Event} {extracted : ExtractedEvent} {page : List Event}
      {found : List ExtractedEvent} (finds : step.Finds files event extracted)
      (others : FindsOnPage step files page found) :
      FindsOnPage step files (event :: page) (extracted :: found)
  | missed {event : Event} {page : List Event} {found : List ExtractedEvent}
      (misses : ∀ extracted, ¬step.Finds files event extracted)
      (others : FindsOnPage step files page found) :
      FindsOnPage step files (event :: page) found

/-- The batches that pages contribute, where the first page belongs to the reading of an index and
each further page to the next one.  A page on which something is found contributes a batch of it;
a page on which nothing is found contributes nothing, but takes its reading. -/
inductive Contributes (step : SearchStep) (configs : ConfigSource) :
    Nat → List (List Event) → List Batch → Prop where
  | ends (index : Nat) : Contributes step configs index [] []
  | nothing {index : Nat} {config : LogConfig} {page : List Event} {pages : List (List Event)}
      {batches : List Batch} (shown : configs.reading index = .ok config)
      (finds : step.FindsOnPage (.ofConfig config) page [])
      (others : Contributes step configs (index + 1) pages batches) :
      Contributes step configs index (page :: pages) batches
  | batch {index : Nat} {config : LogConfig} {page : List Event} {pages : List (List Event)}
      {batches : List Batch} {found : List ExtractedEvent}
      (shown : configs.reading index = .ok config)
      (finds : step.FindsOnPage (.ofConfig config) page found) (nonempty : found ≠ [])
      (others : Contributes step configs (index + 1) pages batches) :
      Contributes step configs index (page :: pages) ({ events := found, rows := [] } :: batches)

theorem isPaging_pages (step : SearchStep) (store : EventStore) :
    step.IsPaging store (store.pages step.search step.range) := by
  have candidate {page : List Event} (isPage : page ∈ store.pages step.search step.range)
      {event : Event} (onPage : event ∈ page) :
      event ∈ store.candidates step.search step.range := by
    rw [← EventStore.flatten_pages]
    exact List.mem_flatten_of_mem isPage onPage
  refine ⟨?_, ?_, ?_, ?_, ?_, ?_, ?_⟩
  · intro page isPage event onPage
    exact ((store.mem_candidates).mp (candidate isPage onPage)).1
  · intro page isPage event onPage
    exact ((store.mem_candidates).mp (candidate isPage onPage)).2.1
  · intro event stored files extracted finds
    rw [EventStore.flatten_pages]
    exact finds.mem_candidates stored
  · rw [EventStore.flatten_pages]
    exact store.pairwise_candidates step.search step.range
  · exact fun page => EventStore.ne_nil_of_mem_paginate
  · exact fun page => EventStore.length_le_of_mem_paginate
  · exact fun page => EventStore.length_eq_of_mem_dropLast_paginate

/-- No event is found in two ways. -/
theorem Finds.unique {files : FileMatcher} {event : Event} {extracted other : ExtractedEvent}
    (finds : step.Finds files event extracted) (findsToo : step.Finds files event other) :
    extracted = other := by
  obtain ⟨parser, parsed, -, rfl⟩ := finds.parsed
  obtain ⟨parser', parsed', -, rfl⟩ := findsToo.parsed
  obtain rfl := Option.some.inj (parsed.symm.trans parsed')
  rfl

theorem FindsOnPage.unique {files : FileMatcher} {page : List Event}
    {found others : List ExtractedEvent} (finds : step.FindsOnPage files page found)
    (findsToo : step.FindsOnPage files page others) : found = others := by
  induction finds generalizing others with
  | nil =>
      cases findsToo
      rfl
  | found finds _ inductionHypothesis =>
      cases findsToo with
      | found findsToo othersToo =>
          rw [finds.unique findsToo, inductionHypothesis othersToo]
      | missed misses => exact absurd finds (misses _)
  | missed misses _ inductionHypothesis =>
      cases findsToo with
      | found findsToo => exact absurd findsToo (misses _)
      | missed _ othersToo => exact inductionHypothesis othersToo

/-- Pages contribute in one way only. -/
theorem Contributes.unique {index : Nat} {pages : List (List Event)} {batches others : List Batch}
    (contributes : step.Contributes configs index pages batches)
    (contributesToo : step.Contributes configs index pages others) : batches = others := by
  induction contributes generalizing others with
  | ends =>
      cases contributesToo
      rfl
  | nothing shown finds _ inductionHypothesis =>
      cases contributesToo with
      | nothing _ _ othersToo => exact inductionHypothesis othersToo
      | batch shownToo findsToo nonempty =>
          obtain rfl := Except.ok.inj (shown.symm.trans shownToo)
          exact absurd (findsToo.unique finds) nonempty
  | batch shown finds nonempty _ inductionHypothesis =>
      cases contributesToo with
      | nothing shownToo findsToo =>
          obtain rfl := Except.ok.inj (shown.symm.trans shownToo)
          exact absurd (finds.unique findsToo) nonempty
      | batch shownToo findsToo _ othersToo =>
          obtain rfl := Except.ok.inj (shown.symm.trans shownToo)
          rw [finds.unique findsToo, inductionHypothesis othersToo]

/-- What a source contributes after its first reading, told by the indices of all its readings. -/
theorem Contributes.of_read {index : Nat} {pages : List (List Event)} {batches : List Batch}
    (contributes : step.Contributes configs.read.2 index pages batches) :
    step.Contributes configs (index + 1) pages batches := by
  induction contributes with
  | ends index => exact .ends (index + 1)
  | nothing shown finds _ inductionHypothesis => exact .nothing shown finds inductionHypothesis
  | batch shown finds nonempty _ inductionHypothesis =>
      exact .batch shown finds nonempty inductionHypothesis

/-- Events of the time range are selected from a page exactly as the search finds them. -/
theorem findsOnPage_selectPage (config : LogConfig) {page : List Event}
    (inRange : ∀ event ∈ page, step.range.contains event.timestamp = true) :
    step.FindsOnPage (.ofConfig config) page (step.selectPage config page) := by
  induction page with
  | nil => exact .nil
  | cons event page inductionHypothesis =>
      obtain ⟨eventInRange, othersInRange⟩ := List.forall_mem_cons.mp inRange
      have others := inductionHypothesis othersInRange
      rw [selectPage, List.filterMap_cons]
      cases selected : step.select? (.ofConfig config) event with
      | none =>
          refine .missed (fun extracted finds => ?_) others
          obtain ⟨parser, parsed, matched, made⟩ := finds.parsed
          have selects := select?_eq_some_iff.mpr
            ⟨finds.rawMatches, parser, parsed, matched, made.symm⟩
          cases selected.symm.trans selects
      | some extracted =>
          obtain ⟨rawMatches, parser, parsed, matched, made⟩ := select?_eq_some_iff.mp selected
          exact .found ⟨eventInRange, rawMatches, parser, parsed, matched, made.symm⟩ others

/-- A page whose reading shows a configuration adds its contribution to that of the pages behind
it. -/
theorem contributes_scan_cons {config : LogConfig} (shown : configs.read.1 = .ok config)
    {page : List Event} (inRange : ∀ event ∈ page, step.range.contains event.timestamp = true)
    {pages behind : List (List Event)}
    (others : step.Contributes configs.read.2 0 behind
      (step.scan none pages configs.read.2).batches) :
    let scanned := step.scan none (page :: pages) configs
    step.Contributes configs 0 (page :: behind) scanned.batches ∧
      scanned.failures = (step.scan none pages configs.read.2).failures ∧
      scanned.exhausted = (step.scan none pages configs.read.2).exhausted := by
  have finds := step.findsOnPage_selectPage config inRange
  obtain ⟨left, read_eq⟩ : ∃ left, configs.read = (.ok config, left) :=
    ⟨configs.read.2, Prod.ext shown rfl⟩
  rw [scan, read_eq]
  rw [read_eq] at others
  dsimp only
  have othersBehind : step.Contributes configs 1 behind (step.scan none pages left).batches := by
    refine Contributes.of_read ?_
    rwa [read_eq]
  cases found_eq : step.selectPage config page with
  | nil =>
      rw [found_eq] at finds
      exact ⟨.nothing shown finds othersBehind, rfl, rfl⟩
  | cons event events =>
      rw [found_eq] at finds
      exact ⟨.batch shown finds (List.cons_ne_nil event events) othersBehind, rfl, rfl⟩

/-- If every page has a reading that shows a configuration, every page contributes. -/
theorem scan_of_readable {pages : List (List Event)}
    (inRange : ∀ page ∈ pages, ∀ event ∈ page, step.range.contains event.timestamp = true)
    (readable : configs.Readable pages.length) :
    step.Contributes configs 0 pages (step.scan none pages configs).batches ∧
      (step.scan none pages configs).failures = [] ∧
      (step.scan none pages configs).exhausted = true := by
  induction pages generalizing configs with
  | nil => exact ⟨.ends 0, rfl, rfl⟩
  | cons page pages inductionHypothesis =>
      obtain ⟨pageInRange, othersInRange⟩ := List.forall_mem_cons.mp inRange
      obtain ⟨⟨config, shown⟩, readableBehind⟩ := readable_succ_iff.mp readable
      obtain ⟨others, failures_eq, exhausted_eq⟩ := inductionHypothesis othersInRange readableBehind
      obtain ⟨contributes, sameFailures, sameEnd⟩ := contributes_scan_cons shown pageInRange others
      exact ⟨contributes, sameFailures.trans failures_eq, sameEnd.trans exhausted_eq⟩

/-- If a reading fails that belongs to a page, only the pages before that one contribute. -/
theorem scan_of_failsAfter {pages : List (List Event)}
    (inRange : ∀ page ∈ pages, ∀ event ∈ page, step.range.contains event.timestamp = true)
    (failsAfter : configs.FailsAfter count reason) (reached : count < pages.length) :
    step.Contributes configs 0 (pages.take count) (step.scan none pages configs).batches ∧
      (step.scan none pages configs).failures = [.ofReading searchName reason] ∧
      (step.scan none pages configs).exhausted = false := by
  induction pages generalizing configs count with
  | nil => exact absurd reached (Nat.not_lt_zero count)
  | cons page pages inductionHypothesis =>
      cases count with
      | zero =>
          obtain ⟨left, read_eq⟩ : ∃ left, configs.read = (.error reason, left) :=
            ⟨configs.read.2, Prod.ext failsAfter.fails rfl⟩
          rw [scan, read_eq]
          exact ⟨.ends 0, rfl, rfl⟩
      | succ count =>
          obtain ⟨pageInRange, othersInRange⟩ := List.forall_mem_cons.mp inRange
          obtain ⟨⟨config, shown⟩, readableBehind⟩ := readable_succ_iff.mp failsAfter.readable
          obtain ⟨others, failures_eq, exhausted_eq⟩ := inductionHypothesis othersInRange
            ⟨readableBehind, failsAfter.fails⟩ (Nat.lt_of_succ_lt_succ reached)
          obtain ⟨contributes, sameFailures, sameEnd⟩ :=
            contributes_scan_cons shown pageInRange others
          rw [List.take_succ_cons]
          exact ⟨contributes, sameFailures.trans failures_eq, sameEnd.trans exhausted_eq⟩

end SearchStep

section Run

variable {query : String} {range : TimeRange} {pipeline : Pipeline} {step : SearchStep}
  {rest : List Step}

/-- A compiled search gives what its search step gives, after the steps behind it. -/
theorem run_of_search (compiled : compile .builtin query range = .ok pipeline)
    (steps_eq : pipeline.steps = .search step :: rest) (store : EventStore)
    (configs : ConfigSource) :
    let scanned := step.scan none (store.pages step.search step.range) configs
    pipeline.run ⟨store, configs⟩ false =
      { scanned with batches := passAll rest scanned.batches } := by
  obtain ⟨first, others, steps_eq', -, goOn⟩ := exists_steps_of_compile compiled
  obtain ⟨rfl, rfl⟩ := List.cons.inj (steps_eq.symm.trans steps_eq')
  exact run_eq steps_eq goOn ⟨store, configs⟩

/-- If every page has a reading that shows a configuration, every page contributes to the result and
no failure is recorded. -/
theorem run_of_readable (compiled : compile .builtin query range = .ok pipeline)
    (steps_eq : pipeline.steps = .search step :: rest) {store : EventStore}
    {configs : ConfigSource}
    (readable : configs.Readable (store.pages step.search step.range).length) :
    let emission := pipeline.run ⟨store, configs⟩ false
    (∃ batches, step.Contributes configs 0 (store.pages step.search step.range) batches ∧
        emission.batches = passAll rest batches) ∧
      emission.failures = [] ∧ emission.exhausted = true := by
  obtain ⟨contributes, failures_eq, exhausted_eq⟩ :=
    SearchStep.scan_of_readable (step.isPaging_pages store).inRange readable
  rw [run_of_search compiled steps_eq]
  exact ⟨⟨_, contributes, rfl⟩, failures_eq, exhausted_eq⟩

/-- If a reading fails that belongs to a page, only the pages before that one contribute to the
result, and the failure is recorded. -/
theorem run_of_failsAfter (compiled : compile .builtin query range = .ok pipeline)
    (steps_eq : pipeline.steps = .search step :: rest) {store : EventStore}
    {configs : ConfigSource} {count : Nat} {reason : String}
    (failsAfter : configs.FailsAfter count reason)
    (reached : count < (store.pages step.search step.range).length) :
    let emission := pipeline.run ⟨store, configs⟩ false
    (∃ batches,
        step.Contributes configs 0 ((store.pages step.search step.range).take count) batches ∧
          emission.batches = passAll rest batches) ∧
      emission.failures = [.ofReading searchName reason] ∧ emission.exhausted = false := by
  obtain ⟨contributes, failures_eq, exhausted_eq⟩ :=
    SearchStep.scan_of_failsAfter (step.isPaging_pages store).inRange failsAfter reached
  rw [run_of_search compiled steps_eq]
  exact ⟨⟨_, contributes, rfl⟩, failures_eq, exhausted_eq⟩

end Run

end Pipeline

end LogQuery
