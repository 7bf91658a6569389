import Mathlib.Data.List.Basic
import MockCluster.Proofs.IdSet
import MockCluster.Store

/-!
A fresh index says where the first record with an ID stands, which IDs are known in which order, and
which ones are listed twice, of the document it was made from and of no other.
-/

namespace MockCluster

theorem getElem?_foldl_firstPlaces {α : Type} (pairs : List (String × α))
    (places : Std.HashMap String α) (id : String) :
    (pairs.foldl (fun places pair => if pair.1 = "" then places
        else places.insertIfNew pair.1 pair.2) places)[id]? =
      (places[id]? <|> if id = "" then none else pairs.lookup id) := by
  induction pairs generalizing places with
  | nil => simp
  | cons pair rest ih =>
      obtain ⟨first, place⟩ := pair
      rw [List.foldl_cons, ih, List.lookup_cons]
      by_cases hempty : first = ""
      · subst hempty
        by_cases hid : id = ""
        · simp [hid]
        · have hother : (id == "") = false := by simpa using hid
          simp [hid, hother]
      · rw [if_neg hempty, Std.HashMap.getElem?_insertIfNew]
        by_cases hid : first = id
        · subst hid
          cases hplace : places[first]? <;>
            simp [hempty, hplace, ← Std.HashMap.isSome_getElem?_iff_mem]
        · have hother : (id == first) = false := by simpa using Ne.symm hid
          simp [hid, hother]

theorem getElem?_firstPlaces {α : Type} (pairs : List (String × α)) (id : String) :
    (firstPlaces pairs)[id]? = if id = "" then none else pairs.lookup id := by
  rw [firstPlaces, getElem?_foldl_firstPlaces]
  simp

theorem contains_firstPlaces {α : Type} {pairs : List (String × α)} {id : String} :
    (firstPlaces pairs).contains id = true ↔ id ∈ pairs.map Prod.fst ∧ id ≠ "" := by
  rw [Std.HashMap.contains_eq_isSome_getElem?, getElem?_firstPlaces]
  by_cases hempty : id = ""
  · simp [hempty]
  · simp [hempty, List.lookup_isSome_iff]

/-- Among records paired with their places an ID leads to the place of the first one that has it. -/
theorem lookup_map_zipIdx {α β : Type} (records : List β) (key : β → String) (place : Nat → α)
    (start : Nat) (id : String) :
    ((records.zipIdx start).map fun (record, position) => (key record, place position)).lookup id =
      ((records.map key).idxOf? id).map fun position => place (start + position) := by
  induction records generalizing start with
  | nil => rfl
  | cons record rest ih =>
      rw [List.zipIdx_cons, List.map_cons, List.lookup_cons, List.map_cons, List.idxOf?_cons, ih]
      by_cases hid : id = key record
      · simp [hid]
      · have hother : (id == key record) = false := by simpa using hid
        have hother' : (key record == id) = false := by simpa using Ne.symm hid
        have hnext : ∀ position, start + 1 + position = start + (position + 1) := by omega
        simp [hother, hother', Option.map_map, Function.comp_def, hnext]

theorem lookup_zipIdx (ids : List String) (id : String) :
    ids.zipIdx.lookup id = ids.idxOf? id := by
  have hplaces := lookup_map_zipIdx ids (fun listed => listed) (fun position => position) 0 id
  simpa using hplaces

theorem exists_getElem?_of_idxOf? {α : Type} {items : List α} {idOf : α → String} {id : String}
    {position : Nat} (h : (items.map idOf).idxOf? id = some position) :
    ∃ item, items[position]? = some item ∧ idOf item = id := by
  obtain ⟨hlt, hid, _⟩ := List.findIdx?_eq_some_iff_getElem.1 h
  rw [List.length_map] at hlt
  rw [List.getElem_map, beq_iff_eq] at hid
  exact ⟨items[position], List.getElem?_eq_getElem hlt, hid⟩

theorem find?_eq_bind_idxOf? {α : Type} (items : List α) (idOf : α → String) (id : String) :
    (items.find? fun item => idOf item = id) = ((items.map idOf).idxOf? id).bind (items[·]?) := by
  induction items with
  | nil => rfl
  | cons item rest ih =>
      rw [List.find?_cons, List.map_cons, List.idxOf?_cons, ih]
      by_cases hid : idOf item = id
      · simp [hid]
      · have hother : (idOf item == id) = false := by simpa using hid
        simp only [hid, decide_false, hother, Bool.false_eq_true, if_false, Option.bind_map]
        rfl

theorem map_fst_map_zipIdx {α β : Type} {records : List β} {key : β → String}
    {entry : β × Nat → String × α}
    (h : ∀ record position, (entry (record, position)).1 = key record) :
    (records.zipIdx.map entry).map Prod.fst = records.map key := by
  have hkey : Prod.fst ∘ entry = key ∘ Prod.fst := by
    funext place
    exact h place.1 place.2
  rw [List.map_map, hkey, ← List.map_map, List.zipIdx_map_fst]

theorem Document.allNodes_eq_flatMap (doc : Document) :
    doc.allNodes = NodeListing.all.flatMap doc.listing := by
  simp [NodeListing.all, allNodes, listing]

theorem map_fst_nodePlaces (doc : Document) :
    (Index.nodePlaces doc).map Prod.fst = doc.nodeIds := by
  rw [Index.nodePlaces, List.map_flatMap, Document.nodeIds, doc.allNodes_eq_flatMap,
    List.map_flatMap]
  congr 1
  funext listing
  exact map_fst_map_zipIdx fun _ _ => rfl

/-- The place of the first node with an ID, listing by listing. -/
def Document.nodePlace? (doc : Document) (id : String) : Option (NodeListing × Nat) :=
  NodeListing.all.findSome? fun listing =>
    (((doc.listing listing).map Node.id).idxOf? id).map fun position => (listing, position)

theorem lookup_listedPlaces (doc : Document) (listing : NodeListing) (id : String) :
    ((doc.listing listing).zipIdx.map fun (node, position) =>
        (node.id, listing, position)).lookup id =
      (((doc.listing listing).map Node.id).idxOf? id).map fun position => (listing, position) := by
  rw [lookup_map_zipIdx (doc.listing listing) Node.id (fun position => (listing, position))]
  simp

theorem lookup_nodePlaces (doc : Document) (id : String) :
    (Index.nodePlaces doc).lookup id = doc.nodePlace? id := by
  rw [Index.nodePlaces, Document.nodePlace?]
  induction NodeListing.all with
  | nil => rfl
  | cons listing rest ih =>
      rw [List.flatMap_cons, List.lookup_append, lookup_listedPlaces, ih, List.findSome?_cons]
      cases ((doc.listing listing).map Node.id).idxOf? id <;> rfl

namespace Document

variable (doc : Document)

theorem ids_entities_node : (doc.entities .node).map Entity.id = doc.nodeIds :=
  List.map_map

theorem ids_entities_service : (doc.entities .service).map Entity.id = doc.serviceIds :=
  List.map_map

theorem ids_entities_task : (doc.entities .task).map Entity.id = doc.taskIds :=
  List.map_map

theorem ids_entities_stack : (doc.entities .stack).map Entity.id = doc.stackNames :=
  List.map_map

end Document

namespace Index

/-- Everything an index says, read off the document.  The empty ID has no place. -/
structure Describes (index : Index) (doc : Document) : Prop where
  nodes : ∀ id, index.nodes[id]? = if id = "" then none else doc.nodePlace? id
  services : ∀ id, index.services[id]? = if id = "" then none else doc.serviceIds.idxOf? id
  tasks : ∀ id, index.tasks[id]? = if id = "" then none else doc.taskIds.idxOf? id
  stackPlaces : ∀ id,
    index.stackPlaces[id]? = if id = "" then none else doc.stackNames.idxOf? id
  contains_iff : ∀ role id, index.contains role id = true ↔
    id ∈ (doc.entities role).map Entity.id ∧ id ≠ ""
  knownNodes : index.knownIds .node = (doc.nodeIds.filter (· ≠ "")).eraseDups
  knownServices : index.knownIds .service = (doc.listedServiceIds.filter (· ≠ "")).eraseDups
  repeatedNodes : index.duplicates .node = secondSeen (doc.nodes.map Node.id)
  repeatedServices : index.duplicates .service = secondSeen doc.serviceIds
  repeatedTasks : index.duplicates .task = secondSeen doc.taskIds
  repeatedStacks : index.duplicates .stack = secondSeen doc.stackNames

theorem contains_of (doc : Document) (role : Role) (id : String) :
    (Index.of doc).contains role id = true ↔ id ∈ (doc.entities role).map Entity.id ∧ id ≠ "" := by
  cases role with
  | node =>
      rw [doc.ids_entities_node, ← map_fst_nodePlaces]
      exact contains_firstPlaces
  | service =>
      rw [doc.ids_entities_service, ← List.zipIdx_map_fst 0 doc.serviceIds]
      exact contains_firstPlaces
  | task =>
      rw [doc.ids_entities_task, ← List.zipIdx_map_fst 0 doc.taskIds]
      exact contains_firstPlaces
  | stack =>
      rw [doc.ids_entities_stack, ← List.zipIdx_map_fst 0 doc.stackNames]
      exact contains_firstPlaces

theorem describes_of (doc : Document) : (Index.of doc).Describes doc where
  nodes id := by rw [← lookup_nodePlaces]; exact getElem?_firstPlaces _ id
  services id := by rw [← lookup_zipIdx]; exact getElem?_firstPlaces _ id
  tasks id := by rw [← lookup_zipIdx]; exact getElem?_firstPlaces _ id
  stackPlaces id := by rw [← lookup_zipIdx]; exact getElem?_firstPlaces _ id
  contains_iff := contains_of doc
  knownNodes := IdSet.toList_ofList doc.nodeIds
  knownServices := IdSet.toList_ofList doc.listedServiceIds
  repeatedNodes := repeatedIds_eq _
  repeatedServices := repeatedIds_eq _
  repeatedTasks := repeatedIds_eq _
  repeatedStacks := repeatedIds_eq _

/-- The check of the indexed place, and the search where it fails, make no difference to a fresh
index: it finds the first record with the ID. -/
theorem lookUp_of_places {α : Type} {places : Std.HashMap String Nat} {items : List α}
    {idOf : α → String} {id : String}
    (hplaces : places[id]? = if id = "" then none else (items.map idOf).idxOf? id) :
    lookUp places items idOf id = items.find? fun item => idOf item = id := by
  rw [lookUp, hplaces]
  by_cases hempty : id = ""
  · simp [hempty]
  · rw [if_neg hempty, ← find?_eq_bind_idxOf?]
    cases hfind : items.find? fun item => idOf item = id with
    | none => rfl
    | some item =>
        rw [Option.filter_some_pos (List.find?_some hfind)]
        rfl

theorem nodePlace?_bind (doc : Document) (id : String) :
    (doc.nodePlace? id).bind (fun (listing, position) =>
      (doc.listing listing)[position]?.filter fun node => node.id = id) =
        doc.allNodes.find? fun node => node.id = id := by
  rw [doc.allNodes_eq_flatMap, Document.nodePlace?]
  induction NodeListing.all with
  | nil => rfl
  | cons listing rest ih =>
      rw [List.findSome?_cons, List.flatMap_cons, List.find?_append, ← ih]
      cases hplace : ((doc.listing listing).map Node.id).idxOf? id with
      | none =>
          rw [find?_eq_bind_idxOf?, hplace]
          rfl
      | some position =>
          obtain ⟨node, hnode, hid⟩ := exists_getElem?_of_idxOf? hplace
          have hfound : (doc.listing listing)[position]?.filter (fun node => node.id = id) =
              some node := by
            rw [hnode]
            exact Option.filter_some_pos (by simpa using hid)
          rw [find?_eq_bind_idxOf?, hplace, Option.map_some, Option.bind_some, Option.bind_some,
            hnode]
          exact hfound

/-- A fresh index leads to the first record with an ID.  No node is found by the empty ID. -/
theorem resolve_of (doc : Document) {role : Role} {id : String} (h : role = .node → id ≠ "") :
    (Index.of doc).resolve doc role id =
      (doc.entities role).find? fun entity => entity.id = id := by
  have hdescribes := describes_of doc
  cases role with
  | node =>
      rw [resolve, hdescribes.nodes, if_neg (h rfl), nodePlace?_bind, Document.entities,
        List.find?_map]
      rfl
  | service =>
      rw [resolve, lookUp_of_places (hdescribes.services id), Document.entities, List.find?_map]
      rfl
  | task =>
      rw [resolve, lookUp_of_places (hdescribes.tasks id), Document.entities, List.find?_map]
      rfl
  | stack =>
      rw [resolve, lookUp_of_places (hdescribes.stackPlaces id), Document.entities, List.find?_map]
      rfl

end Index

namespace Store

variable {source : String} {doc : Document} {id : String}

theorem contains_node_of :
    (of source doc).contains .node id = true ↔ id ∈ doc.nodeIds ∧ id ≠ "" := by
  rw [← doc.ids_entities_node]
  exact Index.contains_of doc .node id

theorem contains_service_of :
    (of source doc).contains .service id = true ↔ id ∈ doc.serviceIds ∧ id ≠ "" := by
  rw [← doc.ids_entities_service]
  exact Index.contains_of doc .service id

theorem contains_task_of :
    (of source doc).contains .task id = true ↔ id ∈ doc.taskIds ∧ id ≠ "" := by
  rw [← doc.ids_entities_task]
  exact Index.contains_of doc .task id

/-- A store with a fresh index finds whatever has a record with the ID. -/
theorem exists_resolve_of {role : Role} (source : String)
    (hmem : id ∈ (doc.entities role).map Entity.id) (hnode : role = .node → id ≠ "") :
    ∃ entity ∈ doc.entities role, entity.id = id ∧
      (of source doc).resolve role id = .ok entity := by
  have hresolve : (of source doc).index.resolve (of source doc).doc role id =
      (doc.entities role).find? fun entity => entity.id = id := Index.resolve_of doc hnode
  cases hfind : (doc.entities role).find? fun entity => entity.id = id with
  | none =>
      obtain ⟨entity, hentity, hid⟩ := List.mem_map.1 hmem
      exact absurd (by simpa using hid) (List.find?_eq_none.1 hfind entity hentity)
  | some entity =>
      refine ⟨entity, List.mem_of_find?_eq_some hfind, by simpa using List.find?_some hfind, ?_⟩
      rw [resolve, hresolve, hfind]

end Store

end MockCluster
