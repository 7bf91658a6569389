import MockCluster.Decimal.Shortest
import MockCluster.KeyedList

/-!
Untyped data: JSON values whose object members keep their order.

Setting a member that is already there replaces its value and keeps its place, so a list of members
built by setting has each key once.
-/

namespace MockCluster

namespace Json

/-- An integer literal that fits a machine word stays an integer, every other number is a float. -/
inductive Number where
  | integer (value : Int)
  | float (value : Binary64)
  deriving DecidableEq, Repr

end Json

inductive Json where
  | null
  | bool (value : Bool)
  | number (value : Json.Number)
  | string (value : String)
  | array (items : List Json)
  | object (members : List (String × Json))
  deriving Repr, Inhabited

abbrev Members := List (String × Json)

namespace Members

def get? (members : Members) (key : String) : Option Json :=
  members.lookup key

def set (key : String) (value : Json) (members : Members) : Members :=
  KeyedList.put key value members

def keys (members : Members) : List String :=
  members.map Prod.fst

/-- Members set one after another: the last value of a key counts, at its first place. -/
def ofList (pairs : List (String × Json)) : Members :=
  pairs.foldl (fun members pair => members.set pair.1 pair.2) []

@[simp] theorem set_nil (key : String) (value : Json) : set key value [] = [(key, value)] := rfl

theorem get?_set (members : Members) (key other : String) (value : Json) :
    (members.set key value).get? other =
      if other = key then some value else members.get? other :=
  KeyedList.lookup_put key other value members

end Members

namespace Json

mutual

def decEq : (a b : Json) → Decidable (a = b)
  | .null, .null => isTrue rfl
  | .bool x, .bool y =>
    if h : x = y then isTrue (h ▸ rfl) else isFalse fun e => h (Json.bool.inj e)
  | .number x, .number y =>
    if h : x = y then isTrue (h ▸ rfl) else isFalse fun e => h (Json.number.inj e)
  | .string x, .string y =>
    if h : x = y then isTrue (h ▸ rfl) else isFalse fun e => h (Json.string.inj e)
  | .array x, .array y =>
    match decEqItems x y with
    | isTrue h => isTrue (h ▸ rfl)
    | isFalse h => isFalse fun e => h (Json.array.inj e)
  | .object x, .object y =>
    match decEqMembers x y with
    | isTrue h => isTrue (h ▸ rfl)
    | isFalse h => isFalse fun e => h (Json.object.inj e)
  | .null, .bool _ | .null, .number _ | .null, .string _ | .null, .array _ | .null, .object _
  | .bool _, .null | .bool _, .number _ | .bool _, .string _ | .bool _, .array _
  | .bool _, .object _ | .number _, .null | .number _, .bool _ | .number _, .string _
  | .number _, .array _ | .number _, .object _ | .string _, .null | .string _, .bool _
  | .string _, .number _ | .string _, .array _ | .string _, .object _ | .array _, .null
  | .array _, .bool _ | .array _, .number _ | .array _, .string _ | .array _, .object _
  | .object _, .null | .object _, .bool _ | .object _, .number _ | .object _, .string _
  | .object _, .array _ => isFalse (by simp)

def decEqItems : (a b : List Json) → Decidable (a = b)
  | [], [] => isTrue rfl
  | x :: xs, y :: ys =>
    match decEq x y, decEqItems xs ys with
    | isTrue h, isTrue hs => isTrue (h ▸ hs ▸ rfl)
    | isFalse h, _ => isFalse fun e => h (List.cons.inj e).1
    | _, isFalse h => isFalse fun e => h (List.cons.inj e).2
  | [], _ :: _ => isFalse (by simp)
  | _ :: _, [] => isFalse (by simp)

def decEqMembers : (a b : List (String × Json)) → Decidable (a = b)
  | [], [] => isTrue rfl
  | (k, x) :: xs, (l, y) :: ys =>
    if hkey : k = l then
      match decEq x y, decEqMembers xs ys with
      | isTrue h, isTrue hs => isTrue (hkey ▸ h ▸ hs ▸ rfl)
      | isFalse h, _ => isFalse fun e => h (Prod.mk.inj (List.cons.inj e).1).2
      | _, isFalse h => isFalse fun e => h (List.cons.inj e).2
    else isFalse fun e => hkey (Prod.mk.inj (List.cons.inj e).1).1
  | [], _ :: _ => isFalse (by simp)
  | _ :: _, [] => isFalse (by simp)

end

instance : DecidableEq Json := decEq

def ofNat (n : Nat) : Json := .number (.integer n)

def asString? : Json → Option String
  | .string value => some value
  | _ => none

end Json

end MockCluster
