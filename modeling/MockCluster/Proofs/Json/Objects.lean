import MockCluster.Proofs.Json.Scan

/-!
Printed objects read back, and with them every value whose numbers are whole.

The members of an object may stand on one line or on lines of their own: the blanks before a key and
after its colon make no difference.
-/

namespace MockCluster.Json

namespace Scan

variable {frames : List Frame}

theorem run_blanks {mode : Mode} (hskips : ∀ offset c, isBlank c = true →
      (⟨offset, frames, mode⟩ : Scan).step c = ⟨offset + c.utf8Size, frames, mode⟩)
    {blanks : List Char} (hblanks : ∀ c ∈ blanks, isBlank c = true) (offset : Nat) :
    ∃ after, (⟨offset, frames, mode⟩ : Scan).run blanks = ⟨after, frames, mode⟩ := by
  induction blanks generalizing offset with
  | nil => exact ⟨offset, rfl⟩
  | cons c rest ih =>
      obtain ⟨after, hafter⟩ := ih (fun d hd => hblanks d (List.mem_cons_of_mem c hd))
        (offset + c.utf8Size)
      exact ⟨after, by rw [run_cons, hskips offset c (hblanks c List.mem_cons_self), hafter]⟩

theorem skips_key (start : Nat) (read : List (Key × Tree)) (first : Bool) (offset : Nat) (c : Char)
    (h : isBlank c = true) : (⟨offset, frames, .key start read first⟩ : Scan).step c =
      ⟨offset + c.utf8Size, frames, .key start read first⟩ := by
  simp only [step, react, stepPlain, h]
  rfl

theorem skips_value (offset : Nat) (c : Char) (h : isBlank c = true) :
    (⟨offset, frames, .value⟩ : Scan).step c = ⟨offset + c.utf8Size, frames, .value⟩ := by
  simp only [step, react, stepPlain, h]
  rfl

/-- Members with a lead before each key and a gap behind each colon. -/
def spacedMembers (lead gap : List Char) : Members → List Char
  | [] => []
  | [(key, value)] => lead ++ printString key ++ ':' :: (gap ++ print value)
  | (key, value) :: next :: rest =>
    lead ++ printString key ++ ':' :: (gap ++ print value ++
      ',' :: spacedMembers lead gap (next :: rest))

theorem printMembers_eq (members : Members) :
    printMembers members = spacedMembers [] [] members := by
  induction members with
  | nil => rfl
  | cons member rest ih =>
      cases rest with
      | nil => rfl
      | cons next rest =>
          rw [printMembers, ih]
          rfl

variable {lead gap : List Char}

theorem run_key (hlead : ∀ c ∈ lead, isBlank c = true) (offset start : Nat)
    (read : List (Key × Tree)) (first : Bool) (key : String) :
    ∃ after stop colon, (⟨offset, frames, .key start read first⟩ : Scan).run
        (lead ++ printString key ++ [':']) =
      ⟨after, .member start read ⟨.ok key, stop, colon, 0⟩ :: frames, .value⟩ := by
  obtain ⟨opening, hopening⟩ := run_blanks (skips_key start read first) hlead offset
  obtain ⟨closing, hclosing⟩ : ∃ closing,
      (inText (opening + 1) frames (.key start read) opening [] .plain).run
          (key.toList.flatMap escapeChar) =
        inText closing frames (.key start read) opening (key.toList.reverse ++ []) .plain :=
    run_escaped _ _
  have hquote : (⟨opening, frames, .key start read first⟩ : Scan).step '"' =
      inText (opening + 1) frames (.key start read) opening [] .plain := rfl
  have hcolon : (⟨closing + 1, frames, .afterKey start read (.ok key) (closing + 1)⟩ : Scan).step
      ':' = ⟨closing + 2, .member start read ⟨.ok key, closing + 1, closing + 1, 0⟩ :: frames,
        .value⟩ := rfl
  refine ⟨closing + 2, closing + 1, closing + 1, ?_⟩
  rw [List.append_assoc, run_append, hopening, printString, List.cons_append, run_cons, hquote,
    List.append_assoc, run_append, hclosing, List.cons_append, run_cons, step_closeKey]
  simpa using hcolon

theorem run_member (hlead : ∀ c ∈ lead, isBlank c = true) (hgap : ∀ c ∈ gap, isBlank c = true)
    {key : String} {value : Json} (hvalue : Readable value) (offset start : Nat)
    (read : List (Key × Tree)) (first : Bool) :
    ∃ stop colon tree after, Tree.Shows tree value ∧ ∀ c rest, Delimits c →
      (⟨offset, frames, .key start read first⟩ : Scan).run
          (lead ++ printString key ++ ':' :: (gap ++ print value ++ c :: rest)) =
        ((⟨after, frames, .afterMember start ((⟨.ok key, stop, colon, 0⟩, tree) :: read)⟩ :
          Scan).step c).run rest := by
  obtain ⟨behind, stop, colon, hkey⟩ := run_key hlead offset start read first key
  obtain ⟨opening, hopening⟩ := run_blanks skips_value hgap behind
  obtain ⟨tree, after, hshows, hrun⟩ := hvalue _ _ (awaits_value opening)
  refine ⟨stop, colon, tree, after, hshows, ?_⟩
  intro c rest hc
  rw [← List.singleton_append, ← List.append_assoc, run_append, hkey, List.append_assoc, run_append,
    hopening, hrun c rest hc]
  rfl

theorem run_members (hlead : ∀ c ∈ lead, isBlank c = true) (hgap : ∀ c ∈ gap, isBlank c = true)
    {members : Members} (hne : members ≠ []) (hreadable : ∀ member ∈ members, Readable member.2)
    (offset start : Nat) (read : List (Key × Tree)) (first : Bool) :
    ∃ entries after, Tree.ShowsMembers entries members ∧ ∀ c rest, Delimits c →
      (⟨offset, frames, .key start read first⟩ : Scan).run
          (spacedMembers lead gap members ++ c :: rest) =
        ((⟨after, frames, .afterMember start (entries.reverse ++ read)⟩ : Scan).step c).run
          rest := by
  induction members generalizing offset read first with
  | nil => exact absurd rfl hne
  | cons member others ih =>
      obtain ⟨key, value⟩ := member
      obtain ⟨stop, colon, tree, after, hshows, hrun⟩ :=
        run_member hlead hgap (hreadable (key, value) List.mem_cons_self) offset start read first
      cases others with
      | nil =>
          refine ⟨[(⟨.ok key, stop, colon, 0⟩, tree)], after, .cons rfl hshows .nil, ?_⟩
          intro c rest hc
          rw [spacedMembers, List.append_assoc, List.cons_append, hrun c rest hc]
          rfl
      | cons next others =>
          have hothers : ∀ member ∈ next :: others, Readable member.2 := fun member hmem =>
            hreadable member (List.mem_cons_of_mem _ hmem)
          obtain ⟨entries, last, hentries, hrest⟩ := ih (List.cons_ne_nil _ _) hothers
            (after + 1) ((⟨.ok key, stop, colon, after⟩, tree) :: read) false
          refine ⟨(⟨.ok key, stop, colon, after⟩, tree) :: entries, last,
            .cons rfl hshows hentries, ?_⟩
          intro c rest hc
          have hcomma : (⟨after, frames,
              .afterMember start ((⟨.ok key, stop, colon, 0⟩, tree) :: read)⟩ : Scan).step ',' =
                ⟨after + 1, frames,
                  .key start ((⟨.ok key, stop, colon, after⟩, tree) :: read) false⟩ := rfl
          rw [spacedMembers, List.append_assoc, List.cons_append,
            List.append_assoc (gap ++ print value), List.cons_append,
            hrun ',' _ delimits_comma, hcomma, hrest c rest hc, List.reverse_cons,
            List.append_assoc]
          rfl

theorem step_closeObject (offset start : Nat) (members : List (Key × Tree)) :
    (⟨offset, frames, .afterMember start members⟩ : Scan).step '\x7d' =
      delivered (offset + 1) frames (.object start members.reverse (.closed (offset + 1))) := by
  cases frames with
  | nil => rfl
  | cons frame rest => cases frame <;> rfl

theorem readable_object {members : Members}
    (hreadable : ∀ member ∈ members, Readable member.2) : Readable (.object members) := by
  intro s frames h
  have hbegun : begun s.offset frames '\x7b' = ⟨s.offset + 1, frames, .key s.offset [] true⟩ := rfl
  rcases eq_or_ne members [] with rfl | hne
  · refine reads_of_run_eq (.object s.offset [] (.closed (s.offset + 2))) (s.offset + 2) h
      (by decide) (by decide) (.object .nil) (delivered_eq _ _)
  · obtain ⟨entries, after, hshows, hrun⟩ :=
      run_members (List.forall_mem_nil _) (List.forall_mem_nil _) hne hreadable (s.offset + 1)
        s.offset [] true
    refine reads_of_run_eq (.object s.offset entries (.closed (after + 1))) (after + 1) h
      (by decide) (by decide) (.object hshows) ?_
    rw [hbegun, printMembers_eq, hrun _ _ delimits_brace, run_nil, List.append_nil,
      step_closeObject, List.reverse_reverse]

mutual

theorem readable_of_whole : (value : Json) → Whole value → Readable value
  | .null, _ => fun _ _ => reads_null
  | .bool value, _ => fun _ _ h => reads_bool h value
  | .number (.integer _), hwhole => fun _ _ h => reads_integer h hwhole
  | .number (.float _), hwhole => fun _ _ h => by
      cases hwhole
      exact reads_float h
  | .string value, _ => fun _ _ h => reads_string h value
  | .array items, hwhole => readable_array (readable_items items hwhole)
  | .object members, hwhole => readable_object (readable_members members hwhole)

theorem readable_items : (items : List Json) → WholeItems items → ∀ item ∈ items, Readable item
  | [], _ => by simp
  | item :: rest, hwhole =>
      List.forall_mem_cons.2 ⟨readable_of_whole item hwhole.1, readable_items rest hwhole.2⟩

theorem readable_members : (members : Members) → WholeMembers members →
    ∀ member ∈ members, Readable member.2
  | [], _ => by simp
  | (_, value) :: rest, hwhole =>
      List.forall_mem_cons.2 ⟨readable_of_whole value hwhole.1, readable_members rest hwhole.2⟩

end

end Scan

end MockCluster.Json
