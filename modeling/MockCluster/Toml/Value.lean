import MockCluster.Decimal.Reading
import MockCluster.KeyedList
import MockCluster.Toml.Moment

/-!
Values of TOML files, with the rules for where tables may be opened and keys assigned.
-/

namespace MockCluster

namespace Toml

/-- How a table came to be, which settles what may be added to it. -/
inductive TableKind where
  | implied
  | opened
  | dotted
  | inline
  deriving DecidableEq, Repr

end Toml

inductive Toml where
  | string (value : String)
  | integer (value : Int)
  | float (value : FloatValue)
  | bool (value : Bool)
  | time (value : Toml.Moment)
  | array (items : List Toml)
  | table (kind : Toml.TableKind) (members : List (String × Toml))
  /-- Tables under one name, each opened by a header of its own; the latest comes first. -/
  | tables (last : List (String × Toml)) (before : List (List (String × Toml)))
  deriving Repr, Inhabited

namespace Toml

abbrev Members := List (String × Toml)

namespace Members

open KeyedList (put)

/-- Changes the members of the table that a header's path leads to through tables and the latest of
tables under one name.  Tables on the way that are not there are implied. -/
def descend (change : Members → Option Members) : List String → Members → Option Members
  | [], members => change members
  | key :: rest, members =>
    match members.lookup key with
    | none => (descend change rest []).map fun inner => put key (.table .implied inner) members
    | some (.table .inline _) => none
    | some (.table kind inner) =>
      (descend change rest inner).map fun inner => put key (.table kind inner) members
    | some (.tables last before) =>
      (descend change rest last).map fun last => put key (.tables last before) members
    | some _ => none

def openHere (key : String) (members : Members) : Option Members :=
  match members.lookup key with
  | none => some (put key (.table .opened []) members)
  | some (.table .implied inner) => some (put key (.table .opened inner) members)
  | some _ => none

def addHere (key : String) (members : Members) : Option Members :=
  match members.lookup key with
  | none => some (put key (.tables [] []) members)
  | some (.tables last before) => some (put key (.tables [] (last :: before)) members)
  | some _ => none

def openTable (adds : Bool) (path : List String) (members : Members) : Option Members :=
  match path.getLast? with
  | none => none
  | some key => descend (if adds then addHere key else openHere key) path.dropLast members

/-- Assigns a dotted key.  Tables that a header has opened are closed to dotted keys, and the last
table on the way must be one that dotted keys have named. -/
def assign (value : Toml) : List String → Members → Option Members
  | [], _ => none
  | [key], members =>
    if (members.lookup key).isSome then none else some (put key value members)
  | key :: rest, members =>
    match members.lookup key with
    | none => (assign value rest []).map fun inner => put key (.table .dotted inner) members
    | some (.table .dotted inner) =>
      (assign value rest inner).map fun inner => put key (.table .dotted inner) members
    | some (.table .implied inner) =>
      if rest.length = 1 then none
      else (assign value rest inner).map fun inner => put key (.table .implied inner) members
    | some (.tables last before) =>
      if rest.length = 1 then none
      else (assign value rest last).map fun last => put key (.tables last before) members
    | some _ => none

end Members

end Toml

end MockCluster
