import MockCluster.Proofs.Json.Shows

/-!
Untyped data that can be stored and loaded: whole numbers, no deeper than the reader goes, and each
key of an object once.

Reading produces such data, apart from the numbers, and reads it from any tree that shows it.
-/

namespace MockCluster.Json

mutual

/-- The value may stand inside `depth` arrays and objects. -/
def Fits (depth : Nat) : Json → Prop
  | .null | .bool _ | .string _ => True
  | .number value => value.Whole
  | .array items => depth < Tree.depthLimit ∧ FitsItems (depth + 1) items
  | .object members =>
    depth < Tree.depthLimit ∧ (members.map Prod.fst).Nodup ∧ FitsMembers (depth + 1) members

def FitsItems (depth : Nat) : List Json → Prop
  | [] => True
  | item :: rest => Fits depth item ∧ FitsItems depth rest

def FitsMembers (depth : Nat) : List (String × Json) → Prop
  | [] => True
  | (_, value) :: rest => Fits depth value ∧ FitsMembers depth rest

end

variable {depth : Nat}

theorem fitsMembers_iff {members : Members} :
    FitsMembers depth members ↔ ∀ member ∈ members, Fits depth member.2 := by
  induction members with
  | nil => simp [FitsMembers]
  | cons member rest ih => simp [FitsMembers, ih]

mutual

theorem Fits.whole : {depth : Nat} → {value : Json} → Fits depth value → Whole value
  | _, .null, _ | _, .bool _, _ | _, .string _, _ => trivial
  | _, .number _, h => h
  | _, .array _, h => h.2.wholeItems
  | _, .object _, h => h.2.2.wholeMembers

theorem FitsItems.wholeItems : {depth : Nat} → {items : List Json} → FitsItems depth items →
    WholeItems items
  | _, [], _ => trivial
  | _, _ :: _, h => ⟨h.1.whole, h.2.wholeItems⟩

theorem FitsMembers.wholeMembers : {depth : Nat} → {members : List (String × Json)} →
    FitsMembers depth members → WholeMembers members
  | _, [], _ => trivial
  | _, _ :: _, h => ⟨h.1.whole, h.2.wholeMembers⟩

end

theorem exists_of_bind_ok {ε α β : Type} {action : Except ε α} {next : α → Except ε β} {result : β}
    (h : action >>= next = .ok result) : ∃ value, action = .ok value ∧ next value = .ok result := by
  cases action with
  | error => cases h
  | ok value => exact ⟨value, rfl, h⟩

namespace Tree

theorem enter_ok (h : depth < depthLimit) (start : Nat) : enter depth start = .ok () :=
  if_pos h

theorem lt_of_enter {start : Nat} (h : enter depth start = .ok ()) : depth < depthLimit := by
  unfold enter at h
  split at h
  · assumption
  · cases h

mutual

theorem toJson_of_shows : (value : Json) → {depth : Nat} → {tree : Tree} → Fits depth value →
    Shows tree value → tree.toJson depth = .ok value
  | .null, _, _, _, .null | .bool _, _, _, _, .bool | .number _, _, _, _, .number
  | .string _, _, _, _, .string => rfl
  | .array values, _, _, hfits, .array hitems => by
      rw [toJson, enter_ok hfits.1, toItems_of_shows values hfits.2 hitems]
      rfl
  | .object values, _, _, hfits, .object hmembers => by
      rw [toJson, enter_ok hfits.1, toMembers_of_shows values [] hfits.2.1 hfits.2.2 hmembers]
      rfl

theorem toItems_of_shows : (values : List Json) → {depth : Nat} → {items : List Tree} →
    FitsItems depth values → ShowsItems items values → toItems depth items = .ok values
  | [], _, _, _, .nil => rfl
  | value :: values, _, _, hfits, .cons hitem hitems => by
      rw [toItems, toJson_of_shows value hfits.1 hitem, toItems_of_shows values hfits.2 hitems]
      rfl

theorem toMembers_of_shows : (values read : Members) → {depth : Nat} →
    {members : List (Key × Tree)} → ((read ++ values).map Prod.fst).Nodup →
      FitsMembers depth values → ShowsMembers members values →
        toMembers depth read members = .ok (read ++ values)
  | [], read, _, _, _, _, .nil => by
      rw [List.append_nil]
      rfl
  | (name, value) :: values, read, depth, _, hnodup, hfits, .cons hname hitem hmembers => by
      have habsent : name ∉ read.map Prod.fst := by
        simp only [List.map_append, List.map_cons, List.nodup_append] at hnodup
        exact fun hmem => hnodup.2.2 name hmem name List.mem_cons_self rfl
      have hset : read.set name value = read ++ [(name, value)] :=
        KeyedList.put_of_absent value habsent
      rw [toMembers, hname, toJson_of_shows value hfits.1 hitem]
      change toMembers depth (read.set name value) _ = _
      rw [hset, toMembers_of_shows values _ (by simpa using hnodup) hfits.2 hmembers,
        List.append_assoc]
      rfl

end

mutual

theorem fits_of_toJson : (tree : Tree) → {depth : Nat} → {value : Json} →
    tree.toJson depth = .ok value → Whole value → Fits depth value
  | .leaf _ _ .null, _, _, h, _ | .leaf _ _ (.bool _), _, _, h, _
  | .leaf _ _ (.string _), _, _, h, _ => by
      cases h
      trivial
  | .leaf _ _ (.number _), _, _, h, hwhole => by
      cases h
      exact hwhole
  | .array start items ending, depth, value, h, hwhole => by
      rw [toJson] at h
      obtain ⟨_, henter, h⟩ := exists_of_bind_ok h
      obtain ⟨values, hvalues, h⟩ := exists_of_bind_ok h
      obtain ⟨_, _, h⟩ := exists_of_bind_ok h
      cases h
      exact ⟨lt_of_enter henter, fits_of_toItems items hvalues hwhole⟩
  | .object start members ending, depth, value, h, hwhole => by
      rw [toJson] at h
      obtain ⟨_, henter, h⟩ := exists_of_bind_ok h
      obtain ⟨values, hvalues, h⟩ := exists_of_bind_ok h
      obtain ⟨_, _, h⟩ := exists_of_bind_ok h
      cases h
      obtain ⟨hnodup, hmembers⟩ := fits_of_toMembers members hvalues List.nodup_nil (by simp)
      refine ⟨lt_of_enter henter, hnodup, fitsMembers_iff.2 fun member hmem => ?_⟩
      exact hmembers member hmem (wholeMembers_iff.1 hwhole member hmem)

theorem fits_of_toItems : (items : List Tree) → {depth : Nat} → {values : List Json} →
    toItems depth items = .ok values → WholeItems values → FitsItems depth values
  | [], _, _, h, _ => by
      cases h
      trivial
  | item :: rest, depth, _, h, hwhole => by
      rw [toItems] at h
      obtain ⟨value, hvalue, h⟩ := exists_of_bind_ok h
      obtain ⟨values, hvalues, h⟩ := exists_of_bind_ok h
      cases h
      exact ⟨fits_of_toJson item hvalue hwhole.1, fits_of_toItems rest hvalues hwhole.2⟩

theorem fits_of_toMembers : (members : List (Key × Tree)) → {depth : Nat} →
    {read values : Members} → toMembers depth read members = .ok values →
      (read.map Prod.fst).Nodup →
        (∀ member ∈ read, Whole member.2 → Fits depth member.2) →
          (values.map Prod.fst).Nodup ∧ ∀ member ∈ values, Whole member.2 → Fits depth member.2
  | [], _, _, _, h, hnodup, hread => by
      cases h
      exact ⟨hnodup, hread⟩
  | (key, item) :: rest, depth, read, _, h, hnodup, hread => by
      rw [toMembers] at h
      obtain ⟨name, _, h⟩ := exists_of_bind_ok h
      obtain ⟨value, hvalue, h⟩ := exists_of_bind_ok h
      refine fits_of_toMembers rest h (KeyedList.nodup_put name value hnodup) ?_
      intro member hmem
      rcases KeyedList.mem_put hmem with rfl | hmem
      · exact fits_of_toJson item hvalue
      · exact hread member hmem

end

theorem key_of_toMembers {members : List (Key × Tree)} {read values : Members}
    (h : toMembers depth read members = .ok values) :
    ∀ value ∈ values, value ∈ read ∨ ∃ member ∈ members, member.1.name = .ok value.1 := by
  induction members generalizing read with
  | nil =>
      cases h
      exact fun value hmem => .inl hmem
  | cons member rest ih =>
      obtain ⟨key, item⟩ := member
      rw [toMembers] at h
      obtain ⟨name, hname, h⟩ := exists_of_bind_ok h
      obtain ⟨added, _, h⟩ := exists_of_bind_ok h
      intro value hmem
      rcases ih h value hmem with hread | ⟨source, hsource, hvalue⟩
      · rcases KeyedList.mem_put hread with rfl | hread
        · exact .inr ⟨(key, item), List.mem_cons_self, hname⟩
        · exact .inl hread
      · exact .inr ⟨source, List.mem_cons_of_mem _ hsource, hvalue⟩

end Tree

end MockCluster.Json
