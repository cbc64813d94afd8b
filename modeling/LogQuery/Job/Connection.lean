import LogQuery.Job.Store

/-!
# Connections to a store of jobs

A connection hands requests on to a store.  Some kinds of requests may fail on the way, and then
nothing happens to the store.
-/

namespace LogQuery

/-- The kinds of requests that may fail. -/
inductive StoreRequest where
  | insert
  | addResults
  | addRows
  | addCounts
  | setState
  | get
  deriving Repr, DecidableEq

/-- A store, and why requests to it fail at present. -/
structure JobConnection where
  store : JobStore := .empty
  outage : StoreRequest → Option String := fun _ => none

namespace JobConnection

/-- Let a request through unless its kind fails. -/
def attempt {α : Type} (connection : JobConnection) (request : StoreRequest)
    (answer : Except StoreError α) : Except StoreError α :=
  match connection.outage request with
  | some reason => .error (.backend reason)
  | none => answer

/-- Make a change to the store. -/
def apply (connection : JobConnection) (request : StoreRequest)
    (changed : Except StoreError JobStore) : Except StoreError JobConnection :=
  (connection.attempt request changed).map fun store => { connection with store }

/-- Insert a job; its number is returned. -/
def insert (connection : JobConnection) (job : NewJob) :
    Except StoreError (Int × JobConnection) :=
  let (id, store) := connection.store.insert job
  connection.attempt .insert (.ok (id, { connection with store }))

/-- Add references to events. -/
def addResults (connection : JobConnection) (id : Int) (refs : List EventRef) :
    Except StoreError JobConnection :=
  connection.apply .addResults (connection.store.addResults id refs)

/-- Add rows. -/
def addRows (connection : JobConnection) (id : Int) (rows : List TableRow) :
    Except StoreError JobConnection :=
  connection.apply .addRows (connection.store.addRows id rows)

/-- Add to the counts of values. -/
def addCounts (connection : JobConnection) (id : Int) (counts : List FieldCount) :
    Except StoreError JobConnection :=
  connection.apply .addCounts (connection.store.addCounts id counts)

/-- Move a running job to a state. -/
def setState (connection : JobConnection) (id : Int) (state : JobState) :
    Except StoreError JobConnection :=
  connection.apply .setState (connection.store.setState id state)

/-- The job of a number. -/
def get (connection : JobConnection) (id : Int) : Except StoreError Job :=
  connection.attempt .get (connection.store.get id)

/-- The numbers that sum up a job, for which it is fetched first. -/
def stats (connection : JobConnection) (id : Int) : Except StoreError JobStats :=
  connection.attempt .get (connection.store.stats id)

end JobConnection

end LogQuery
