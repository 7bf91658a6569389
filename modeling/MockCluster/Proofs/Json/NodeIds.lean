import Mathlib.Logic.Basic
import MockCluster.Repair.Renames

/-!
Where untyped data names nodes, said by the way from a record to a string: the search for node IDs
replaces exactly the strings whose way ends in one of two forms, each of them once.

So replacing node IDs twice is replacing them once, and where every ID is replaced by itself nothing
changes.
-/

namespace MockCluster.Json

/-- A step from a value to one inside it. -/
inductive Step where
  | member (key : String)
  | item
  deriving DecidableEq, Repr

/-- The way from a record to a value inside it, last step first. -/
abbrev Way := List Step

/-- Items of an array under the name `Nodes` come next. -/
def Way.AmongNodes : Way → Bool
  | .member key :: _ => key = "Nodes"
  | _ => false

/-- The value is an item of an array under the name `Nodes`. -/
def Way.ToNode : Way → Bool
  | .item :: way => AmongNodes way
  | _ => false

/-- The value is a member under the name `NodeID`, or one under the name `ID` of an item of an array
under the name `Nodes`. -/
def Way.NamesNode : Way → Bool
  | .member key :: way => key = "NodeID" || ToNode way && key = "ID"
  | _ => false

mutual

/-- Replaces every string by what `f` makes of it, which knows the way to it. -/
def mapStrings (f : Way → String → String) (way : Way) : Json → Json
  | .string value => .string (f way value)
  | .array items => .array (mapItems f way items)
  | .object members => .object (mapMembers f way members)
  | value => value

def mapItems (f : Way → String → String) (way : Way) : List Json → List Json
  | [] => []
  | item :: rest => mapStrings f (.item :: way) item :: mapItems f way rest

def mapMembers (f : Way → String → String) (way : Way) : Members → Members
  | [] => []
  | (key, value) :: rest =>
    (key, mapStrings f (.member key :: way) value) :: mapMembers f way rest

end

/-- Replaces the strings that name nodes. -/
def replaceNodeIds (f : String → String) (way : Way) (value : String) : String :=
  if way.NamesNode then f value else value

section Compose

variable (f g : Way → String → String)

mutual

theorem mapStrings_twice (way : Way) : ∀ value : Json,
    mapStrings g way (mapStrings f way value) =
      mapStrings (fun way value => g way (f way value)) way value
  | .array items => congrArg Json.array (mapItems_twice way items)
  | .object members => congrArg Json.object (mapMembers_twice way members)
  | .null | .bool _ | .number _ | .string _ => rfl

theorem mapItems_twice (way : Way) : ∀ items : List Json,
    mapItems g way (mapItems f way items) =
      mapItems (fun way value => g way (f way value)) way items
  | [] => rfl
  | item :: rest =>
      congrArg₂ (· :: ·) (mapStrings_twice (.item :: way) item) (mapItems_twice way rest)

theorem mapMembers_twice (way : Way) : ∀ members : Members,
    mapMembers g way (mapMembers f way members) =
      mapMembers (fun way value => g way (f way value)) way members
  | [] => rfl
  | (key, value) :: rest =>
      congrArg₂ (fun value rest => (key, value) :: rest)
        (mapStrings_twice (.member key :: way) value) (mapMembers_twice way rest)

end

mutual

theorem mapStrings_self (way : Way) : ∀ value : Json,
    mapStrings (fun _ value => value) way value = value
  | .array items => congrArg Json.array (mapItems_self way items)
  | .object members => congrArg Json.object (mapMembers_self way members)
  | .null | .bool _ | .number _ | .string _ => rfl

theorem mapItems_self (way : Way) : ∀ items : List Json,
    mapItems (fun _ value => value) way items = items
  | [] => rfl
  | item :: rest =>
      congrArg₂ (· :: ·) (mapStrings_self (.item :: way) item) (mapItems_self way rest)

theorem mapMembers_self (way : Way) : ∀ members : Members,
    mapMembers (fun _ value => value) way members = members
  | [] => rfl
  | (key, value) :: rest =>
      congrArg₂ (fun value rest => (key, value) :: rest)
        (mapStrings_self (.member key :: way) value) (mapMembers_self way rest)

end

end Compose

section Visit

variable (f g : String → String)

theorem visitMembers_string (isNode : Bool) (key value : String) (rest : Members) :
    Id.run (visitMembers (fun id => pure (f id)) isNode ((key, .string value) :: rest)) =
      (key, .string (if key = "NodeID" ∨ (isNode ∧ key = "ID") then f value else value)) ::
        Id.run (visitMembers (fun id => pure (f id)) isNode rest) := by
  rw [visitMembers]
  split <;> rfl

mutual

theorem visitItems_eq (way : Way) : ∀ items : List Json,
    Id.run (visitItems (fun id => pure (f id)) way.AmongNodes items) =
      mapItems (replaceNodeIds f) way items
  | [] => rfl
  | .object members :: rest =>
      congrArg₂ (Json.object · :: ·) (visitMembers_eq (.item :: way) members)
        (visitItems_eq way rest)
  | .array items :: rest =>
      congrArg₂ (Json.array · :: ·) (visitItems_eq (.item :: way) items) (visitItems_eq way rest)
  | .null :: rest | .bool _ :: rest | .number _ :: rest | .string _ :: rest =>
      congrArg (_ :: ·) (visitItems_eq way rest)

theorem visitMembers_eq (way : Way) : ∀ members : Members,
    Id.run (visitMembers (fun id => pure (f id)) way.ToNode members) =
      mapMembers (replaceNodeIds f) way members
  | [] => rfl
  | (key, .string value) :: rest => by
      rw [visitMembers_string, visitMembers_eq way rest, mapMembers, mapStrings, replaceNodeIds]
      simp [Way.NamesNode]
  | (key, .object members) :: rest =>
      congrArg₂ (fun members rest => (key, Json.object members) :: rest)
        (visitMembers_eq (.member key :: way) members) (visitMembers_eq way rest)
  | (key, .array items) :: rest =>
      congrArg₂ (fun items rest => (key, Json.array items) :: rest)
        (visitItems_eq (.member key :: way) items) (visitMembers_eq way rest)
  | (_, .null) :: rest | (_, .bool _) :: rest | (_, .number _) :: rest =>
      congrArg (_ :: ·) (visitMembers_eq way rest)

end

theorem keys_visitMembers (isNode : Bool) : ∀ members : Members,
    (Id.run (visitMembers (fun id => pure (f id)) isNode members)).map Prod.fst =
      members.map Prod.fst
  | [] => rfl
  | (key, .string value) :: rest => by
      rw [visitMembers_string]
      exact congrArg (key :: ·) (keys_visitMembers isNode rest)
  | (key, .null) :: rest | (key, .bool _) :: rest | (key, .number _) :: rest
  | (key, .array _) :: rest | (key, .object _) :: rest =>
      congrArg (key :: ·) (keys_visitMembers isNode rest)

theorem visitMembers_self (members : Members) :
    Id.run (visitMembers (fun id => pure id) false members) = members := by
  have hself : replaceNodeIds (fun id => id) = fun _ value => value := by
    funext way value
    exact ite_self value
  have hvisit := visitMembers_eq (fun id => id) [] members
  rw [hself, mapMembers_self] at hvisit
  exact hvisit

theorem visitMembers_twice (members : Members) :
    Id.run (visitMembers (fun id => pure (g id)) false
        (Id.run (visitMembers (fun id => pure (f id)) false members))) =
      Id.run (visitMembers (fun id => pure (g (f id))) false members) := by
  have hboth : (fun way value => replaceNodeIds g way (replaceNodeIds f way value)) =
      replaceNodeIds fun id => g (f id) := by
    funext way value
    unfold replaceNodeIds
    split <;> rfl
  have hvisit (h : String → String) (members : Members) :
      Id.run (visitMembers (fun id => pure (h id)) false members) =
        mapMembers (replaceNodeIds h) [] members := visitMembers_eq h [] members
  rw [hvisit, hvisit, hvisit fun id => g (f id), mapMembers_twice, hboth]

end Visit

end MockCluster.Json
