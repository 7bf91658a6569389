import Mathlib.Data.List.Basic
import MockCluster.Proofs.Json.NodeIds

/-!
The strings of a JSON value, each with the way to it, and those among them that stand in a certain
place.
-/

namespace MockCluster.Json

mutual

def strings (way : Way) : Json → List (Way × String)
  | .string value => [(way, value)]
  | .array items => itemStrings way items
  | .object members => memberStrings way members
  | .null | .bool _ | .number _ => []

def itemStrings (way : Way) : List Json → List (Way × String)
  | [] => []
  | item :: rest => strings (.item :: way) item ++ itemStrings way rest

def memberStrings (way : Way) : Members → List (Way × String)
  | [] => []
  | (key, value) :: rest => strings (.member key :: way) value ++ memberStrings way rest

end

/-- The strings at the end of ways of a kind. -/
def standing (p : Way → Bool) (found : List (Way × String)) : List String :=
  (found.filter fun place => p place.1).map Prod.snd

/-- The strings that name nodes in a record of untyped data. -/
def namedNodes (members : Members) : List String :=
  standing Way.NamesNode (memberStrings [] members)

/-- The value is a member under a name. -/
def Way.Under (name : String) : Way → Bool
  | .member key :: _ => key = name
  | _ => false

/-- The strings that are members under a name, at any depth. -/
def stringsUnder (name : String) (value : Json) : List String :=
  standing (Way.Under name) (strings [] value)

section Standing

variable (p : Way → Bool)

@[simp] theorem standing_append (first second : List (Way × String)) :
    standing p (first ++ second) = standing p first ++ standing p second := by
  simp [standing]

@[simp] theorem standing_string (way : Way) (value : String) :
    standing p (strings way (.string value)) = if p way then [value] else [] := by
  cases hway : p way <;> simp [strings, standing, hway]

variable {p}

theorem standing_map {f : Way → String → String} {g : String → String}
    (h : ∀ way value, p way = true → f way value = g value) (found : List (Way × String)) :
    standing p (found.map fun place => (place.1, f place.1 place.2)) =
      (standing p found).map g := by
  induction found with
  | nil => rfl
  | cons place rest ih =>
      unfold standing at ih ⊢
      cases hway : p place.1 with
      | false => simpa [hway] using ih
      | true => simpa [hway, h place.1 place.2 hway] using ih

end Standing

section Replaced

variable (f : Way → String → String)

mutual

theorem strings_mapStrings (way : Way) : ∀ value : Json,
    strings way (mapStrings f way value) =
      (strings way value).map fun place => (place.1, f place.1 place.2)
  | .string _ => rfl
  | .array items => itemStrings_mapItems way items
  | .object members => memberStrings_mapMembers way members
  | .null | .bool _ | .number _ => rfl

theorem itemStrings_mapItems (way : Way) : ∀ items : List Json,
    itemStrings way (mapItems f way items) =
      (itemStrings way items).map fun place => (place.1, f place.1 place.2)
  | [] => rfl
  | item :: rest => by
      rw [mapItems, itemStrings, itemStrings, List.map_append,
        strings_mapStrings (.item :: way) item, itemStrings_mapItems way rest]

theorem memberStrings_mapMembers (way : Way) : ∀ members : Members,
    memberStrings way (mapMembers f way members) =
      (memberStrings way members).map fun place => (place.1, f place.1 place.2)
  | [] => rfl
  | (key, value) :: rest => by
      rw [mapMembers, memberStrings, memberStrings, List.map_append,
        strings_mapStrings (.member key :: way) value, memberStrings_mapMembers way rest]

end

end Replaced

section Under

variable (name : String)

/-! Whether a string is a member under a name is told by the last step, so it does not matter where
the value that has it stands. -/

mutual

theorem under_strings (step : Step) (way : Way) : ∀ value : Json,
    standing (Way.Under name) (strings (step :: way) value) =
      standing (Way.Under name) (strings [step] value)
  | .string value => by
      rw [standing_string, standing_string]
      cases step <;> rfl
  | .array items => under_itemStrings (step :: way) [step] items
  | .object members => under_memberStrings (step :: way) [step] members
  | .null | .bool _ | .number _ => rfl

theorem under_itemStrings (way other : Way) : ∀ items : List Json,
    standing (Way.Under name) (itemStrings way items) =
      standing (Way.Under name) (itemStrings other items)
  | [] => rfl
  | item :: rest => by
      rw [itemStrings, itemStrings, standing_append, standing_append, under_strings .item way item,
        under_strings .item other item, under_itemStrings way other rest]

theorem under_memberStrings (way other : Way) : ∀ members : Members,
    standing (Way.Under name) (memberStrings way members) =
      standing (Way.Under name) (memberStrings other members)
  | [] => rfl
  | (key, value) :: rest => by
      rw [memberStrings, memberStrings, standing_append, standing_append,
        under_strings (.member key) way value, under_strings (.member key) other value,
        under_memberStrings way other rest]

end

variable {name}

/-! The strings under a name, value by value. -/

@[simp] theorem stringsUnder_string (value : String) : stringsUnder name (.string value) = [] := rfl

/-- An item has no name. -/
theorem under_item (way : Way) (value : Json) :
    standing (Way.Under name) (strings (.item :: way) value) = stringsUnder name value := by
  cases value with
  | string value => rfl
  | array items => exact under_itemStrings name _ _ items
  | object members => exact under_memberStrings name _ _ members
  | null | bool | number => rfl

theorem under_member (key : String) (way : Way) (value : Json) :
    standing (Way.Under name) (strings (.member key :: way) value) =
      (if key = name then value.asString?.toList else []) ++ stringsUnder name value := by
  cases value with
  | string value =>
      rw [standing_string]
      by_cases hkey : key = name <;> simp [Way.Under, hkey, asString?]
  | array items =>
      refine (under_itemStrings name _ [] items).trans ?_
      simp [asString?, stringsUnder, strings]
  | object members =>
      refine (under_memberStrings name _ [] members).trans ?_
      simp [asString?, stringsUnder, strings]
  | null | bool | number => simp [asString?, stringsUnder, strings]

theorem stringsUnder_array (items : List Json) :
    stringsUnder name (.array items) = items.flatMap (stringsUnder name) := by
  induction items with
  | nil => rfl
  | cons item rest ih =>
      rw [List.flatMap_cons, ← ih, ← under_item [] item]
      exact standing_append _ _ _

theorem stringsUnder_object_cons (key : String) (value : Json) (rest : Members) :
    stringsUnder name (.object ((key, value) :: rest)) =
      (if key = name then value.asString?.toList else []) ++ stringsUnder name value ++
        stringsUnder name (.object rest) := by
  rw [← under_member key [] value]
  exact standing_append _ _ _

theorem stringsUnder_subset_of_mem {key : String} {value : Json} {members : Members}
    (h : (key, value) ∈ members) : stringsUnder name value ⊆ stringsUnder name (.object members) := by
  induction members with
  | nil => cases h
  | cons member rest ih =>
      rw [stringsUnder_object_cons]
      rcases List.mem_cons.1 h with rfl | h
      · exact fun _ hmem => List.mem_append_left _ (List.mem_append_right _ hmem)
      · exact fun _ hmem => List.mem_append_right _ (ih h hmem)

/-- Where all strings under a name are replaced, what stands there is what they are replaced by. -/
theorem stringsUnder_mapMembers {f : Way → String → String} {g : String → String}
    (h : ∀ way value, Way.Under name way = true → f way value = g value) (members : Members) :
    stringsUnder name (.object (mapMembers f [] members)) =
      (stringsUnder name (.object members)).map g := by
  rw [stringsUnder, strings, memberStrings_mapMembers]
  exact standing_map h _

end Under

end MockCluster.Json
