import MockCluster.Proofs.Document.Walk
import MockCluster.Proofs.FreshName
import MockCluster.Repair.Renames

/-!
The replacements of colliding node IDs: each is new to the document and to the other replacements,
so different nodes keep different IDs and none is left with the ID of a service.
-/

namespace MockCluster

namespace Json

variable {σ : Type} {visit : String → StateM σ String} {f : String → String}

mutual

theorem returns_visitNodeIds (h : ∀ id, Returns (visit id) (f id)) (inNodes : Bool) :
    ∀ value, Returns (visitNodeIds visit inNodes value)
      (Id.run (visitNodeIds (fun id => pure (f id)) inNodes value))
  | .object members => (returns_visitMembers h false members).bind (.of_pure _)
  | .array items => (returns_visitItems h inNodes items).bind (.of_pure _)
  | .null => .of_pure _
  | .bool _ => .of_pure _
  | .number _ => .of_pure _
  | .string _ => .of_pure _

theorem returns_visitItems (h : ∀ id, Returns (visit id) (f id)) (inNodes : Bool) :
    ∀ items, Returns (visitItems visit inNodes items)
      (Id.run (visitItems (fun id => pure (f id)) inNodes items))
  | [] => .of_pure _
  | .object members :: rest =>
      (returns_visitMembers h inNodes members).bind <|
        (returns_visitItems h inNodes rest).bind (.of_pure _)
  | .array items :: rest =>
      (returns_visitNodeIds h false (.array items)).bind <|
        (returns_visitItems h inNodes rest).bind (.of_pure _)
  | .null :: rest | .bool _ :: rest | .number _ :: rest | .string _ :: rest =>
      (Returns.of_pure _).bind <| (returns_visitItems h inNodes rest).bind (.of_pure _)

theorem returns_visitMembers (h : ∀ id, Returns (visit id) (f id)) (isNode : Bool) :
    ∀ members, Returns (visitMembers visit isNode members)
      (Id.run (visitMembers (fun id => pure (f id)) isNode members))
  | [] => .of_pure _
  | (key, .string value) :: rest => by
      have hrest := returns_visitMembers h isNode rest
      rw [visitMembers, visitMembers]
      split
      · exact (h value).bind (hrest.bind (.of_pure _))
      · exact (Returns.of_pure value).bind (hrest.bind (.of_pure _))
  | (key, .object members) :: rest =>
      (returns_visitNodeIds h (key = "Nodes") (.object members)).bind <|
        (returns_visitMembers h isNode rest).bind (.of_pure _)
  | (key, .array items) :: rest =>
      (returns_visitNodeIds h (key = "Nodes") (.array items)).bind <|
        (returns_visitMembers h isNode rest).bind (.of_pure _)
  | (_, .null) :: rest | (_, .bool _) :: rest | (_, .number _) :: rest =>
      (Returns.of_pure _).bind <| (returns_visitMembers h isNode rest).bind (.of_pure _)

end

end Json

namespace Renames

/-- The ID that a node has after the replacements. -/
def target (renames : List Rename) (id : String) : String := (find? renames id).getD id

theorem returns_replace (renames : List Rename) (kind : UpdateKind) (id : String) :
    Returns (replace renames kind id) (target renames id) := by
  unfold replace target
  cases find? renames id <;> exact fun _ => rfl

def substitution (renames : List Rename) (untyped : Bool) : Substitution where
  nodeId := target renames
  untyped members :=
    if untyped then
      Id.run (Json.visitMembers (fun id => pure (target renames id)) false members)
    else members

theorem follows_visitor (renames : List Rename) (untyped : Bool) :
    (visitor renames untyped).Follows (substitution renames untyped) where
  nodeId _ := returns_replace renames _
  task := .of_pure
  untyped members := by
    cases untyped with
    | false => exact .of_pure members
    | true => exact Json.returns_visitMembers (returns_replace renames .untypedNodeId) false members

theorem fst_apply (renames : List Rename) (untyped : Bool) (doc : Document) :
    (apply renames untyped doc).1 = (substitution renames untyped).document doc :=
  (follows_visitor renames untyped).walk doc []

theorem target_eq (renames : List Rename) (id : String) :
    (∃ rename ∈ renames, rename.old = id ∧ target renames id = rename.new) ∨
      (∀ rename ∈ renames, rename.old ≠ id) ∧ target renames id = id := by
  unfold target find?
  cases hfind : renames.find? fun rename => rename.old = id with
  | none => exact .inr ⟨by simpa using hfind, rfl⟩
  | some rename =>
      exact .inl ⟨rename, List.mem_of_find?_eq_some hfind, by simpa using List.find?_some hfind,
        rfl⟩

/-- New IDs are nowhere else: not among those that are taken, and not twice among themselves. -/
structure Fresh (taken : IdSet) (renames : List Rename) : Prop where
  new_ne_empty : ∀ rename ∈ renames, rename.new ≠ ""
  new_not_taken : ∀ rename ∈ renames, rename.new ∉ taken.toList
  nodup : (renames.map Rename.new).Nodup

variable {services taken : IdSet} {ids : List String} {renames : List Rename}

theorem plan_cons_of_collides {id : String} (h : services.contains id = true) :
    plan services taken (id :: ids) =
      ⟨id, freshName taken (candidate id) 0⟩ ::
        plan services (taken.insert (freshName taken (candidate id) 0)) ids := by
  rw [plan, if_pos h]

theorem fresh_plan (services taken : IdSet) (ids : List String) :
    Fresh taken (plan services taken ids) := by
  induction ids generalizing taken with
  | nil => exact ⟨by simp [plan], by simp [plan], List.nodup_nil⟩
  | cons id rest ih =>
      rw [plan]
      split
      next =>
        have hnew := freshName_not_mem (candidate_injective id) taken 0
        obtain ⟨n, _, hn⟩ := exists_freshName_eq taken (candidate id) 0
        -- What is given to this node is taken for all later ones.
        have hrest := ih (taken.insert (freshName taken (candidate id) 0))
        have hne : freshName taken (candidate id) 0 ≠ "" := hn ▸ candidate_ne_empty id n
        refine ⟨?_, ?_, ?_⟩
        · rintro rename (_ | ⟨_, hmem⟩)
          · exact hne
          · exact hrest.new_ne_empty rename hmem
        · rintro rename (_ | ⟨_, hmem⟩)
          · exact hnew
          · exact fun htaken =>
              hrest.new_not_taken rename hmem (IdSet.mem_toList_insert.2 (.inr htaken))
        · rw [List.map_cons, List.nodup_cons]
          refine ⟨fun hmem => ?_, hrest.nodup⟩
          obtain ⟨rename, hrename, heq⟩ := List.mem_map.1 hmem
          exact hrest.new_not_taken rename hrename
            (IdSet.mem_toList_insert.2 (.inl ⟨heq, hne⟩))
      next => exact ih taken

theorem map_old_plan (services taken : IdSet) (ids : List String) :
    (plan services taken ids).map Rename.old = ids.filter services.contains := by
  induction ids generalizing taken with
  | nil => rfl
  | cons id rest ih =>
      rw [plan, List.filter_cons]
      split
      · rw [List.map_cons, ih]
      · exact ih taken

theorem mem_olds_plan {id : String} :
    id ∈ (plan services taken ids).map Rename.old ↔ id ∈ ids ∧ id ∈ services.toList := by
  rw [map_old_plan, List.mem_filter, IdSet.contains_iff]

theorem Fresh.target_injective (h : Fresh taken renames) {first second : String}
    (hfirst : first = "" ∨ first ∈ taken.toList) (hsecond : second = "" ∨ second ∈ taken.toList)
    (heq : target renames first = target renames second) : first = second := by
  have hnew : ∀ rename ∈ renames, ∀ id, id = "" ∨ id ∈ taken.toList → rename.new ≠ id := by
    intro rename hrename id hid hnew
    rcases hid with hempty | htaken
    · exact h.new_ne_empty rename hrename (hnew.trans hempty)
    · exact h.new_not_taken rename hrename (hnew ▸ htaken)
  rcases target_eq renames first with ⟨rename, hrename, rfl, htarget⟩ | ⟨_, htarget⟩ <;>
    rcases target_eq renames second with ⟨other, hother, rfl, htarget'⟩ | ⟨_, htarget'⟩ <;>
      rw [htarget, htarget'] at heq
  · rw [List.inj_on_of_nodup_map h.nodup hrename hother heq]
  · exact absurd heq (hnew rename hrename second hsecond)
  · exact absurd heq.symm (hnew other hother first hfirst)
  · exact heq

theorem Fresh.target_eq_empty (h : Fresh taken renames) {id : String}
    (heq : target renames id = "") : id = "" := by
  rcases target_eq renames id with ⟨rename, hrename, _, htarget⟩ | ⟨_, htarget⟩
  · exact absurd (htarget.symm.trans heq) (h.new_ne_empty rename hrename)
  · exact htarget.symm.trans heq

end Renames

namespace Document

/-- The keys under which nodes group their tasks. -/
def nodeKeys (doc : Document) : List String :=
  doc.allNodes.flatMap fun node => (node.tasks.getD ∅).keys

/-- Whether a service is named by an ID, in a listing or in the grouping of a node. -/
def NamesService (doc : Document) (id : String) : Prop :=
  id ∈ doc.listedServiceIds ∨ id ∈ doc.nodeKeys ∧ id ≠ Grouping.unassignedKey

def renames (doc : Document) : List Rename := (Store.of "" doc).plannedRenames

theorem plannedRenames_of (source : String) (doc : Document) :
    (Store.of source doc).plannedRenames = doc.renames := rfl

theorem mem_serviceNames_of {source : String} {doc : Document} {id : String} :
    id ∈ (Store.of source doc).serviceNames.toList ↔ doc.NamesService id ∧ id ≠ "" := by
  have hknown : id ∈ (Store.of source doc).index.knownServices.toList ↔
      id ∈ doc.listedServiceIds ∧ id ≠ "" := IdSet.mem_toList_ofList
  rw [Store.serviceNames, IdSet.mem_toList_foldl, hknown, List.mem_filter, decide_eq_true_iff]
  constructor
  · intro hgiven
    rcases hgiven with ⟨⟨hkey, hassigned⟩, hne⟩ | ⟨hlisted, hne⟩
    · exact ⟨.inr ⟨hkey, hassigned⟩, hne⟩
    · exact ⟨.inl hlisted, hne⟩
  · intro hgiven
    rcases hgiven with ⟨hlisted | ⟨hkey, hassigned⟩, hne⟩
    · exact .inr ⟨hlisted, hne⟩
    · exact .inl ⟨⟨hkey, hassigned⟩, hne⟩

variable (doc : Document)

theorem mem_olds_renames {id : String} :
    id ∈ doc.renames.map Rename.old ↔
      id ∈ doc.nodeIds ∧ id ≠ "" ∧ doc.NamesService id := by
  have hknown : id ∈ ((Store.of "" doc).index.knownIds .node) ↔ id ∈ doc.nodeIds ∧ id ≠ "" :=
    IdSet.mem_toList_ofList
  rw [renames, Store.plannedRenames, Renames.mem_olds_plan, hknown, mem_serviceNames_of]
  constructor
  · intro hgiven
    obtain ⟨⟨hnode, hne⟩, hnames, _⟩ := hgiven
    exact ⟨hnode, hne, hnames⟩
  · intro hgiven
    obtain ⟨hnode, hne, hnames⟩ := hgiven
    exact ⟨⟨hnode, hne⟩, hnames, hne⟩

theorem renames_eq_nil_iff :
    doc.renames = [] ↔ ∀ id ∈ doc.nodeIds, id ≠ "" → ¬ doc.NamesService id := by
  rw [← List.map_eq_nil_iff (f := Rename.old), List.eq_nil_iff_forall_not_mem]
  simp only [mem_olds_renames, not_and]

/-- The IDs that no replacement may be: those of nodes, and all that name a service. -/
theorem exists_fresh_renames :
    ∃ taken, Renames.Fresh taken doc.renames ∧
      (∀ id ∈ doc.nodeIds, id ≠ "" → id ∈ taken.toList) ∧
      ∀ id, doc.NamesService id → id ≠ "" → id ∈ taken.toList := by
  refine ⟨_, Renames.fresh_plan _ _ _, ?_, ?_⟩
  · intro id hnode hne
    exact IdSet.mem_toList_foldl.2 (.inl ⟨IdSet.mem_toList_ofList.2 ⟨hnode, hne⟩, hne⟩)
  · intro id hnames hne
    exact IdSet.mem_toList_foldl.2 (.inr (mem_serviceNames_of.2 ⟨hnames, hne⟩))

variable {doc}

theorem target_renames_injective {first second : String} (hfirst : first ∈ doc.nodeIds)
    (hsecond : second ∈ doc.nodeIds)
    (heq : Renames.target doc.renames first = Renames.target doc.renames second) :
    first = second := by
  obtain ⟨taken, hfresh, hnodes, _⟩ := doc.exists_fresh_renames
  refine hfresh.target_injective ?_ ?_ heq
  · exact or_iff_not_imp_left.2 (hnodes first hfirst)
  · exact or_iff_not_imp_left.2 (hnodes second hsecond)

theorem target_renames_eq_empty_iff {id : String} :
    Renames.target doc.renames id = "" ↔ id = "" := by
  obtain ⟨taken, hfresh, _⟩ := doc.exists_fresh_renames
  refine ⟨hfresh.target_eq_empty, ?_⟩
  intro heq
  subst heq
  rcases Renames.target_eq doc.renames "" with ⟨rename, hrename, hold, _⟩ | ⟨_, htarget⟩
  · have hmem := (doc.mem_olds_renames).1 (List.mem_map_of_mem hrename)
    exact absurd hold hmem.2.1
  · exact htarget

theorem target_renames_of_not_mem {id : String} (h : id ∉ doc.nodeIds) :
    Renames.target doc.renames id = id := by
  rcases Renames.target_eq doc.renames id with ⟨rename, hrename, rfl, _⟩ | ⟨_, htarget⟩
  · have hmem := doc.mem_olds_renames.1 (List.mem_map_of_mem hrename)
    exact absurd hmem.1 h
  · exact htarget

/-- No node has a replacement as its ID yet, so none is replaced in turn. -/
theorem target_renames_target (id : String) :
    Renames.target doc.renames (Renames.target doc.renames id) =
      Renames.target doc.renames id := by
  obtain ⟨taken, hfresh, hnodes, _⟩ := doc.exists_fresh_renames
  rcases Renames.target_eq doc.renames id with ⟨rename, hrename, _, htarget⟩ | ⟨_, htarget⟩
  · rw [htarget]
    apply target_renames_of_not_mem
    intro hnode
    exact hfresh.new_not_taken rename hrename
      (hnodes _ hnode (hfresh.new_ne_empty rename hrename))
  · rw [htarget, htarget]

theorem nodup_olds_renames (doc : Document) : (doc.renames.map Rename.old).Nodup := by
  rw [renames, Store.plannedRenames, Renames.map_old_plan]
  exact List.Nodup.filter _ (IdSet.nodup _)

theorem target_renames_of_mem {rename : Rename} (h : rename ∈ doc.renames) :
    Renames.target doc.renames rename.old = rename.new := by
  rcases Renames.target_eq doc.renames rename.old with ⟨other, hother, hold, htarget⟩ | ⟨hkept, _⟩
  · rw [htarget, List.inj_on_of_nodup_map doc.nodup_olds_renames hother h hold]
  · exact absurd rfl (hkept rename h)

/-- Of the IDs that no node had, exactly the replacements are IDs of nodes afterwards. -/
theorem mem_map_target_iff {id : String} (h : id ∉ doc.nodeIds) :
    id ∈ doc.nodeIds.map (Renames.target doc.renames) ↔ id ∈ doc.renames.map Rename.new := by
  constructor
  · intro hmem
    obtain ⟨former, hformer, rfl⟩ := List.mem_map.1 hmem
    rcases Renames.target_eq doc.renames former with ⟨rename, hrename, _, htarget⟩ | ⟨_, htarget⟩
    · rw [htarget]
      exact List.mem_map_of_mem hrename
    · rw [htarget] at h
      exact absurd hformer h
  · intro hmem
    obtain ⟨rename, hrename, rfl⟩ := List.mem_map.1 hmem
    have hold := (doc.mem_olds_renames.1 (List.mem_map_of_mem hrename)).1
    exact List.mem_map.2 ⟨rename.old, hold, target_renames_of_mem hrename⟩

theorem not_namesService_target {id : String} (hnode : id ∈ doc.nodeIds) (hne : id ≠ "") :
    ¬ doc.NamesService (Renames.target doc.renames id) := by
  obtain ⟨taken, hfresh, _, htaken⟩ := doc.exists_fresh_renames
  rcases Renames.target_eq doc.renames id with ⟨rename, hrename, _, htarget⟩ | ⟨hkept, htarget⟩
  · rw [htarget]
    exact fun hnames => hfresh.new_not_taken rename hrename
      (htaken _ hnames (hfresh.new_ne_empty rename hrename))
  · rw [htarget]
    intro hnames
    obtain ⟨rename, hrename, hold⟩ :=
      List.mem_map.1 (doc.mem_olds_renames.2 ⟨hnode, hne, hnames⟩)
    exact hkept rename hrename hold

theorem renames_eq_singleton {id : String} (hnodes : doc.nodeIds = [id]) (hne : id ≠ "")
    (hnames : doc.NamesService id) (hfree : ¬ doc.NamesService ("node-" ++ id)) :
    doc.renames = [⟨id, "node-" ++ id⟩] := by
  have hknown : (Store.of "" doc).index.knownIds .node = [id] := by
    change (IdSet.ofList doc.nodeIds).toList = [id]
    rw [hnodes, IdSet.ofList, List.foldl_cons, List.foldl_nil, IdSet.toList_insert]
    simp [hne]
  have hcollides : (Store.of "" doc).serviceNames.contains id = true :=
    IdSet.contains_iff.2 (mem_serviceNames_of.2 ⟨hnames, hne⟩)
  have hnew : "node-" ++ id ∉ ([id].foldl IdSet.insert (Store.of "" doc).serviceNames).toList := by
    rw [IdSet.mem_toList_foldl, mem_serviceNames_of, List.mem_singleton,
      String.append_eq_right_iff]
    intro hgiven
    rcases hgiven with ⟨hstart, _⟩ | ⟨hnames, _⟩
    · exact absurd hstart (by decide)
    · exact hfree hnames
  rw [renames, Store.plannedRenames, hknown, Renames.plan_cons_of_collides hcollides,
    freshName_eq_of_not_mem hnew]
  rfl

end Document

end MockCluster
