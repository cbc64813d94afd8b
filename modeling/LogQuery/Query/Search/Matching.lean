import LogQuery.Fields
import LogQuery.Query.Search
import LogQuery.Wildcard.Fragment
import LogQuery.Wildcard.Limit

/-!
# What a search finds

All conditions of a search hold at once.  A field that has to match must exist and match one of its
values; a field that must not match may also be missing.  Patterns that are too large to search for
count as if they were not there; a field whose values are all too large matches nothing.
-/

namespace LogQuery.Query.Search

open LogQuery.Wildcard

/-- Whether a value matches one of some patterns. -/
def matchesOne (patterns : List String) (value : String) : Bool :=
  patterns.any fun pattern => fragmentFits pattern && fragmentMatches pattern value

/-- Whether a value matches all of some patterns. -/
def matchesEach (patterns : List String) (value : String) : Bool :=
  patterns.all fun pattern => !fragmentFits pattern || fragmentMatches pattern value

/-- Whether the text of an event holds what it has to and nothing that it must not. -/
def matchesRaw (search : Search) (raw : String) : Bool :=
  matchesEach search.fragments.toList raw && !matchesOne search.notFragments.toList raw

/-- Whether a field exists and matches one of the values. -/
def matchesAny (fields : Fields) (name : String) (values : List String) : Bool :=
  match fields[name]? with
  | some value => matchesOne values value
  | none => false

/-- Whether the fields of an event are what they have to be. -/
def matchesFields (search : Search) (fields : Fields) : Bool :=
  search.fields.toList.all (fun condition => matchesAny fields condition.1 condition.2) &&
    !search.notFields.toList.any fun condition => matchesAny fields condition.1 condition.2

/-- Whether a set of patterns allows a value: there is none in it, or one of them matches. -/
def allows (patterns : TextSet) (value : String) : Bool :=
  !patterns.toList.any fragmentFits || matchesOne patterns.toList value

/-- Whether a set of patterns rules a value out. -/
def rulesOut (patterns : TextSet) (value : String) : Bool :=
  matchesOne patterns.toList value

/-- Whether the search may find events of a source on a host, which a store can tell before it
looks at the events. -/
def admits (search : Search) (source host : String) : Bool :=
  allows search.sources source && allows search.hosts host &&
    !rulesOut search.notSources source && !rulesOut search.notHosts host

end LogQuery.Query.Search
