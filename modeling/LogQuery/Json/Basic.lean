/-!
# JSON values

Besides the six kinds of values there is one for text that is well formed but has no value: a number
beyond the doubles, a surrogate without its partner in a string or in the name of a member, or
nesting deeper than 127 levels.  It may stand only where a reader skips the value.
-/

namespace LogQuery

/-- JSON values.  The members of an object are kept as they are written, repeated names included. -/
inductive Json where
  | null
  | bool (value : Bool)
  | integer (value : Int)
  | double (value : Float)
  | string (value : String)
  | array (items : List Json)
  | object (members : List (String × Json))
  | unreadable

namespace Json

mutual

/-- Whether a value can be read down to its last part. -/
def isReadable : Json → Bool
  | .unreadable => false
  | .array items => allReadable items
  | .object members => allMembersReadable members
  | _ => true

/-- Whether all items can be read. -/
def allReadable : List Json → Bool
  | [] => true
  | item :: items => item.isReadable && allReadable items

/-- Whether the values of all members can be read. -/
def allMembersReadable : List (String × Json) → Bool
  | [] => true
  | (_, value) :: members => value.isReadable && allMembersReadable members

end

end Json

end LogQuery
