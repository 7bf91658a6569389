import MockCluster.Proofs.Index

/-!
What a lookup finds, set against a scan of the records: with the index of the document as it is, and
with one that was made from another document.
-/

namespace MockCluster

theorem Store.resolve_eq_ok_iff {store : Store} {role : Role} {id : String} {entity : Entity} :
    store.resolve role id = .ok entity ↔
      store.index.resolve store.doc role id = some entity := by
  unfold resolve
  cases store.index.resolve store.doc role id with
  | none => exact iff_of_false nofun nofun
  | some found => simp

theorem exists_find?_id_iff {entities : List Entity} {id : String} :
    (∃ entity, (entities.find? fun entity => entity.id = id) = some entity) ↔
      ∃ entity ∈ entities, entity.id = id := by
  rw [← Option.isSome_iff_exists, List.find?_isSome]
  simp only [decide_eq_true_eq]

theorem Document.mem_allNodes_of_listing {doc : Document} {listing : NodeListing} {node : Node}
    (h : node ∈ doc.listing listing) : node ∈ doc.allNodes := by
  rw [doc.allNodes_eq_flatMap, List.mem_flatMap]
  refine ⟨listing, ?_, h⟩
  cases listing <;> decide

namespace Index

section LookUp

variable {α : Type} {places : Std.HashMap String Nat} {items : List α} {idOf : α → String}
  {id : String}

theorem lookUp_sound {item : α} (h : lookUp places items idOf id = some item) :
    item ∈ items ∧ idOf item = id := by
  rw [lookUp, Option.orElse_eq_orElse, Option.orElse_eq_or, Option.or_eq_some_iff] at h
  rcases h with hplaced | ⟨_, hscanned⟩
  · obtain ⟨hplace, hid⟩ := Option.filter_eq_some_iff.1 hplaced
    obtain ⟨position, _, hitem⟩ := Option.bind_eq_some_iff.1 hplace
    exact ⟨List.mem_of_getElem? hitem, of_decide_eq_true hid⟩
  · exact ⟨List.mem_of_find?_eq_some hscanned, by simpa using List.find?_some hscanned⟩

/-- No place that the index has in mind keeps a search from finding an item. -/
theorem lookUp_complete {item : α} (hmem : item ∈ items) (hid : idOf item = id) :
    ∃ found, lookUp places items idOf id = some found := by
  have hscanned : (items.find? fun item => idOf item = id).isSome := by
    rw [List.find?_isSome]
    exact ⟨item, hmem, by simpa using hid⟩
  rw [← Option.isSome_iff_exists, lookUp, Option.orElse_eq_orElse, Option.orElse_eq_or,
    Option.isSome_or, hscanned, Bool.or_true]

/-- The same of items as entities. -/
theorem map_lookUp_complete {entityOf : α → Entity} (hidOf : ∀ item, (entityOf item).id = idOf item)
    {entity : Entity} (hmem : entity ∈ items.map entityOf) (hid : entity.id = id) :
    ∃ found, (lookUp places items idOf id).map entityOf = some found := by
  obtain ⟨item, hitem, rfl⟩ := List.mem_map.1 hmem
  obtain ⟨found, hfound⟩ := lookUp_complete hitem ((hidOf item).symm.trans hid)
  exact ⟨entityOf found, congrArg (Option.map entityOf) hfound⟩

end LookUp

section Resolve

variable {index : Index} {doc : Document} {role : Role} {id : String}

theorem resolve_node_eq_some_iff {entity : Entity} :
    index.resolve doc .node id = some entity ↔
      ∃ listing position node, index.nodes[id]? = some (listing, position) ∧
        (doc.listing listing)[position]? = some node ∧ node.id = id ∧ .node node = entity := by
  rw [resolve, Option.map_eq_some_iff]
  constructor
  · rintro ⟨node, hnode, rfl⟩
    obtain ⟨⟨listing, position⟩, hplace, hnode⟩ := Option.bind_eq_some_iff.1 hnode
    obtain ⟨hnode, hid⟩ := Option.filter_eq_some_iff.1 hnode
    exact ⟨listing, position, node, hplace, hnode, of_decide_eq_true hid, rfl⟩
  · rintro ⟨listing, position, node, hplace, hnode, hid, rfl⟩
    refine ⟨node, Option.bind_eq_some_iff.2 ⟨(listing, position), hplace, ?_⟩, rfl⟩
    exact Option.filter_eq_some_iff.2 ⟨hnode, decide_eq_true hid⟩

theorem resolve_sound {entity : Entity} (h : index.resolve doc role id = some entity) :
    entity ∈ doc.entities role ∧ entity.id = id := by
  cases role with
  | node =>
      obtain ⟨listing, position, node, _, hnode, hid, rfl⟩ := resolve_node_eq_some_iff.1 h
      have hmem := Document.mem_allNodes_of_listing (List.mem_of_getElem? hnode)
      exact ⟨List.mem_map_of_mem hmem, hid⟩
  | service | task | stack =>
      obtain ⟨record, hrecord, rfl⟩ := Option.map_eq_some_iff.1 h
      obtain ⟨hmem, hid⟩ := lookUp_sound hrecord
      exact ⟨List.mem_map_of_mem hmem, hid⟩

/-- A lookup among services, tasks or stacks succeeds with every index whatever. -/
theorem resolve_complete (hrole : role ≠ .node) {entity : Entity}
    (hmem : entity ∈ doc.entities role) (hid : entity.id = id) :
    ∃ found, index.resolve doc role id = some found := by
  cases role with
  | node => exact absurd rfl hrole
  | service | task | stack => exact map_lookUp_complete (fun _ => rfl) hmem hid

theorem resolve_node_empty (doc : Document) : (Index.of doc).resolve doc .node "" = none := by
  have hnone : (Index.of doc).nodes[""]? = none := (describes_of doc).nodes ""
  rw [resolve, hnone]
  rfl

end Resolve

end Index

namespace Document

/-- Whether a node with the ID stands in the place where an earlier document had its first one. -/
def KeepsNodeOf (before doc : Document) (id : String) : Prop :=
  ∃ listing position, before.nodePlace? id = some (listing, position) ∧
    (doc.listing listing)[position]?.map Node.id = some id

theorem exists_resolve_node_iff {before doc : Document} {id : String} (hne : id ≠ "") :
    (∃ entity, (Index.of before).resolve doc .node id = some entity) ↔
      before.KeepsNodeOf doc id := by
  simp only [Index.resolve_node_eq_some_iff, (Index.describes_of before).nodes, if_neg hne,
    KeepsNodeOf, Option.map_eq_some_iff]
  constructor
  · rintro ⟨_, listing, position, node, hplace, hnode, hid, _⟩
    exact ⟨listing, position, hplace, node, hnode, hid⟩
  · rintro ⟨listing, position, hplace, node, hnode, hid⟩
    exact ⟨_, listing, position, node, hplace, hnode, hid, rfl⟩

theorem KeepsNodeOf.mem_nodeIds {before doc : Document} {id : String}
    (h : before.KeepsNodeOf doc id) : id ∈ doc.nodeIds := by
  obtain ⟨listing, position, _, hid⟩ := h
  obtain ⟨node, hnode, rfl⟩ := Option.map_eq_some_iff.1 hid
  exact List.mem_map_of_mem (mem_allNodes_of_listing (List.mem_of_getElem? hnode))

end Document

/-- With a fresh index, membership is what a scan says of IDs that are not empty, and a lookup finds
the first record of the scan.  The two agree unless a service, task or stack has the empty ID: no
index has it, but a search finds it. -/
theorem fresh_lookup_scans (source : String) (doc : Document) (role : Role) (id : String) :
    let store := Store.of source doc
    let first? := (doc.entities role).find? fun entity => entity.id = id
    (store.contains role id = true ↔ (∃ entity ∈ doc.entities role, entity.id = id) ∧ id ≠ "") ∧
      (∀ entity, store.resolve role id = .ok entity → first? = some entity) ∧
      (((∃ entity, store.resolve role id = .ok entity) ↔ store.contains role id = true) ↔
        ¬ (id = "" ∧ role ≠ .node ∧ ∃ entity ∈ doc.entities role, entity.id = "")) := by
  intro store first?
  have hcontains : store.contains role id = true ↔
      (∃ entity ∈ doc.entities role, entity.id = id) ∧ id ≠ "" := by
    rw [← List.mem_map]
    exact Index.contains_of doc role id
  simp only [Store.resolve_eq_ok_iff]
  change _ ∧ (∀ entity, (Index.of doc).resolve doc role id = some entity → _) ∧
    (((∃ entity, (Index.of doc).resolve doc role id = some entity) ↔ _) ↔ _)
  refine ⟨hcontains, ?_⟩
  rw [hcontains]
  by_cases hnameless : role = .node ∧ id = ""
  · obtain ⟨rfl, rfl⟩ := hnameless
    simp [Index.resolve_node_empty]
  · have hfirst : (Index.of doc).resolve doc role id = first? :=
      Index.resolve_of doc fun hrole hid => hnameless ⟨hrole, hid⟩
    rw [hfirst, exists_find?_id_iff]
    refine ⟨fun _ hfound => hfound, ?_⟩
    by_cases hid : id = ""
    · subst hid
      have hrole : role ≠ .node := fun hrole => hnameless ⟨hrole, rfl⟩
      simp [hrole]
    · simp [hid]

/-- The index has no empty ID, and yet the service without an ID is found by it. -/
theorem nameless_service_found :
    let store := Store.of "doc.json" { services := [{ id := "" }] }
    store.contains .service "" = false ∧ store.resolve .service "" = .ok (.service { id := "" }) := by
  intro store
  constructor
  · rw [← Bool.not_eq_true, Store.contains_service_of]
    exact fun h => h.2 rfl
  · have hscan : store.index.resolve store.doc .service "" =
        (store.doc.entities .service).find? fun entity => entity.id = "" :=
      Index.resolve_of store.doc nofun
    rw [Store.resolve_eq_ok_iff, hscan]
    decide

/-- Whatever document the index was made from, a lookup returns a record of the document as it is,
with the ID in question.  Services, tasks and stacks are found whenever they are there; a node that
is there is found if and only if one with its ID stands in the place that the index has in mind. -/
theorem stale_lookup_complete_iff (source : String) (before doc : Document) (role : Role)
    {id : String} (hne : id ≠ "") :
    let store := (Store.of source before).modify fun _ => doc
    (∀ entity, store.resolve role id = .ok entity →
        entity ∈ doc.entities role ∧ entity.id = id) ∧
      (((∃ entity, store.resolve role id = .ok entity) ↔
          ∃ entity ∈ doc.entities role, entity.id = id) ↔
        (role = .node → id ∈ doc.nodeIds → before.KeepsNodeOf doc id)) := by
  intro store
  simp only [Store.resolve_eq_ok_iff]
  change (∀ entity, (Index.of before).resolve doc role id = some entity → _) ∧
    (((∃ entity, (Index.of before).resolve doc role id = some entity) ↔ _) ↔ _)
  refine ⟨fun entity => Index.resolve_sound, ?_⟩
  rw [← List.mem_map]
  by_cases hrole : role = .node
  · subst hrole
    rw [Document.exists_resolve_node_iff hne, doc.ids_entities_node]
    constructor
    · exact fun hiff _ => hiff.2
    · exact fun hkeeps => ⟨Document.KeepsNodeOf.mem_nodeIds, hkeeps rfl⟩
  · refine iff_of_true ⟨?_, ?_⟩ fun h => absurd h hrole
    · rintro ⟨entity, hentity⟩
      obtain ⟨hmem, hid⟩ := Index.resolve_sound hentity
      exact List.mem_map.2 ⟨entity, hmem, hid⟩
    · intro hmem
      obtain ⟨entity, hmem, hid⟩ := List.mem_map.1 hmem
      exact Index.resolve_complete hrole hmem hid

/-- A service that another one has pushed on is found behind it. -/
theorem stale_lookup_finds_shifted_service :
    let store := (Store.of "doc.json" { services := [{ id := "s1" }] }).modify fun _ =>
      { services := [{ id := "s0" }, { id := "s1" }] }
    "s1" ≠ "" ∧ ∃ entity, store.resolve .service "s1" = .ok entity := by
  have hne : "s1" ≠ "" := by decide
  refine ⟨hne, ?_⟩
  have hfound := stale_lookup_complete_iff "doc.json" { services := [{ id := "s1" }] }
    { services := [{ id := "s0" }, { id := "s1" }] } .service hne
  exact (hfound.2.2 nofun).2 ⟨.service { id := "s1" }, by decide, rfl⟩

/-- A node that another one has pushed on is there, and is not found. -/
theorem shifted_node_hidden :
    let doc : Document := { nodes := [{ id := "n0" }, { id := "n1" }] }
    let store := (Store.of "doc.json" { nodes := [{ id := "n1" }] }).modify fun _ => doc
    (∃ entity ∈ doc.entities .node, entity.id = "n1") ∧
      store.resolve .node "n1" = .error ⟨.node, "n1"⟩ := by
  intro doc store
  refine ⟨⟨.node { id := "n1" }, by decide, rfl⟩, ?_⟩
  have hplace : store.index.nodes["n1"]? = some (.primary, 0) :=
    (Index.describes_of { nodes := [{ id := "n1" }] }).nodes "n1"
  have hnone : store.index.resolve store.doc .node "n1" = none := by
    rw [Index.resolve, hplace]
    decide
  rw [Store.resolve, hnone]

end MockCluster
