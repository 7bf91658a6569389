import MockCluster.Document.Layout
import MockCluster.LineDiff
import MockCluster.Proofs.Json.Members
import MockCluster.Proofs.Json.Unbroken

/-!
The text of a document stands line for line: a brace, a line for each top-level member, a brace.

A line tells the key, the value and whether it is the last of them, so it does not depend on the
other members.
-/

namespace MockCluster

namespace LineDiff

theorem splitLines_go_unbroken {body : List Char} (h : Unbroken body) (read rest : List Char) :
    splitLines.go read (body ++ '\n' :: rest) =
      String.ofList (read.reverse ++ (body ++ ['\n'])) :: splitLines.go [] rest := by
  induction body generalizing read with
  | nil => simp [splitLines.go]
  | cons c body ih =>
      obtain ⟨hc, hbody⟩ := Unbroken.cons_iff.1 h
      have hnewline : c ≠ '\n' := by
        rintro rfl
        exact absurd hc (by decide)
      have hreturn : c ≠ '\r' := by
        rintro rfl
        exact absurd hc (by decide)
      rw [List.cons_append, splitLines.go, if_neg (by simp [hnewline, hreturn]), ih hbody]
      · simp
      · exact fun _ heq _ => hreturn heq

theorem splitLines_unbroken {bodies : List (List Char)} (h : ∀ body ∈ bodies, Unbroken body) :
    splitLines (String.ofList (bodies.flatMap (· ++ ['\n']))) =
      bodies.map fun body => String.ofList (body ++ ['\n']) := by
  rw [splitLines, String.toList_ofList]
  induction bodies with
  | nil => rfl
  | cons body rest ih =>
      have hrest := ih fun other hmem => h other (List.mem_cons_of_mem _ hmem)
      rw [List.flatMap_cons, List.append_assoc, List.singleton_append,
        splitLines_go_unbroken (h body List.mem_cons_self), hrest]
      rfl

end LineDiff

namespace Document

open LineDiff (splitLines)

/-- The line of the member at a place among `count`. -/
def memberLine (count place : Nat) (member : String × Json) : String :=
  "  " ++ (Json.string member.1).compact ++ ": " ++ member.2.compact ++
    (if place + 1 < count then ",\n" else "\n")

theorem memberLine_inj {count place : Nat} {member other : String × Json}
    (hkey : member.1 = other.1) :
    memberLine count place member = memberLine count place other ↔
      member.2.compact = other.2.compact := by
  simp [memberLine, hkey, ← String.toList_inj]

/-- What stands on the lines of members, without the line breaks. -/
def bodies : Members → List (List Char)
  | [] => []
  | [last] => [line last]
  | first :: next :: rest => (line first ++ [',']) :: bodies (next :: rest)

theorem unbroken_line (member : String × Json) : Unbroken (line member) := by
  simp [line, Json.unbroken_printString, Json.unbroken_print]

theorem unbroken_bodies (members : Members) : ∀ body ∈ bodies members, Unbroken body := by
  induction members using bodies.induct with
  | case1 => simp [bodies]
  | case2 last => simp [bodies, unbroken_line]
  | case3 first next rest ih =>
      rw [bodies, List.forall_mem_cons]
      exact ⟨by simp [unbroken_line], ih⟩

theorem joinLines_newline {members : Members} (hne : members ≠ []) :
    joinLines (members.map line) ++ ['\n'] = (bodies members).flatMap (· ++ ['\n']) := by
  induction members using bodies.induct with
  | case1 => exact absurd rfl hne
  | case2 last => simp [bodies, joinLines]
  | case3 first next rest ih =>
      have hrest := ih (List.cons_ne_nil _ _)
      rw [List.map_cons] at hrest
      simp [bodies, joinLines, ← hrest]

theorem map_bodies (members : Members) :
    (bodies members).map (fun body => String.ofList (body ++ ['\n'])) =
      members.mapIdx (memberLine members.length) := by
  induction members using bodies.induct with
  | case1 => rfl
  | case2 last => simp [bodies, memberLine, line, Json.compact, Json.print, ← String.toList_inj]
  | case3 first next rest ih =>
      have hfirst : String.ofList ((line first ++ [',']) ++ ['\n']) =
          memberLine (first :: next :: rest).length 0 first := by
        simp [memberLine, line, Json.compact, Json.print, ← String.toList_inj]
      have hlater : (fun place => memberLine (first :: next :: rest).length (place + 1)) =
          memberLine (next :: rest).length := by
        funext place member
        simp [memberLine]
      rw [bodies, List.map_cons, ih, hfirst, ← hlater]
      exact List.mapIdx_cons.symm

/-- The lines of members between their braces. -/
def textLines (members : Members) : List String :=
  "\x7b\n" :: (members.mapIdx (memberLine members.length) ++ ["\x7d\n"])

theorem textLines_eq (members : Members) :
    textLines members =
      "\x7b\n" :: (members.mapIdx (fun place member =>
        "  " ++ (Json.string member.1).compact ++ ": " ++ member.2.compact ++
          (if place + 1 < members.length then ",\n" else "\n")) ++ ["\x7d\n"]) := rfl

@[simp] theorem length_textLines (members : Members) :
    (textLines members).length = members.length + 2 := by
  simp [textLines]

theorem head?_textLines (members : Members) : (textLines members).head? = some "\x7b\n" := rfl

theorem getLast?_textLines (members : Members) :
    (textLines members).getLast? = some "\x7d\n" := by
  rw [textLines, ← List.cons_append, List.getLast?_concat]

/-- A line changes exactly if the compact text of the value on it does. -/
theorem getElem?_textLines_inj {members others : Members} (hkeys : members.keys = others.keys)
    (place : Nat) :
    (textLines members)[place + 1]? = (textLines others)[place + 1]? ↔
      (members[place]?.map fun member => member.2.compact) =
        others[place]?.map fun member => member.2.compact := by
  have hlength : members.length = others.length := by
    simpa [Members.keys] using congrArg List.length hkeys
  rcases Nat.lt_or_ge place members.length with hplace | hplace
  · have hother : place < others.length := hlength ▸ hplace
    have hkey : members[place].1 = others[place].1 := by
      simpa [Members.keys, hplace, hother] using congrArg (fun names => names[place]?) hkeys
    simp [textLines, List.getElem?_append_left, hother, hlength, memberLine_inj hkey]
  · have hother : others.length ≤ place := hlength ▸ hplace
    simp [textLines, List.getElem?_append, hlength, hother]

theorem splitLines_layOut {members : Members} (hne : members ≠ []) :
    splitLines (String.ofList (layOut members)) = textLines members := by
  have htext : layOut members =
      (['\x7b'] :: (bodies members ++ [['\x7d']])).flatMap (· ++ ['\n']) := by
    rw [List.flatMap_cons, List.flatMap_append, ← joinLines_newline hne]
    cases members with
    | nil => exact absurd rfl hne
    | cons member rest => simp [layOut]
  have hunbroken : ∀ body ∈ ['\x7b'] :: (bodies members ++ [['\x7d']]), Unbroken body := by
    intro body hbody
    rcases List.mem_cons.1 hbody with rfl | hbody
    · simp
    · rcases List.mem_append.1 hbody with hbody | hbody
      · exact unbroken_bodies members body hbody
      · rw [List.mem_singleton.1 hbody]
        simp
  rw [htext, LineDiff.splitLines_unbroken hunbroken, List.map_cons, List.map_append, map_bodies]
  rfl

theorem keys_topLevel (doc : Document) :
    doc.topLevel.keys = (["nodes", "services", "tasks", "stacks", "dashboardh", "dashboardv",
      "ui.logs.services", "timeline", "ports"] ++ doc.untyped.keys).eraseDups :=
  Members.keys_ofList (fields.entries doc.parts)

theorem splitLines_text (doc : Document) : splitLines doc.text = textLines doc.topLevel := by
  refine splitLines_layOut fun hnil => ?_
  have hfirst : "nodes" ∈ doc.topLevel.keys := by
    rw [keys_topLevel, List.mem_eraseDups]
    exact List.mem_cons_self
  rw [hnil] at hfirst
  cases hfirst

/-- The text of a document is a line for each member between two braces, and no two members have the
same key, whatever keys the document keeps.  Documents that keep the same other keys have their
members on the same lines, and a line of one is that of the other exactly if the compact text of the
value is. -/
theorem lines_of_documents :
    (∀ doc : Document,
      doc.topLevel.keys = (["nodes", "services", "tasks", "stacks", "dashboardh", "dashboardv",
        "ui.logs.services", "timeline", "ports"] ++ doc.untyped.keys).eraseDups ∧
      doc.topLevel.keys.Nodup ∧
      splitLines doc.text =
        "\x7b\n" :: (doc.topLevel.mapIdx (fun place member =>
          "  " ++ (Json.string member.1).compact ++ ": " ++ member.2.compact ++
            (if place + 1 < doc.topLevel.length then ",\n" else "\n")) ++ ["\x7d\n"]) ∧
      (splitLines doc.text).length = doc.topLevel.length + 2) ∧
    ∀ first second : Document, first.untyped.keys = second.untyped.keys →
      first.topLevel.keys = second.topLevel.keys ∧
      (splitLines first.text).length = (splitLines second.text).length ∧
      (splitLines first.text).head? = (splitLines second.text).head? ∧
      (splitLines first.text).getLast? = (splitLines second.text).getLast? ∧
      ∀ place, (splitLines first.text)[place + 1]? ≠ (splitLines second.text)[place + 1]? ↔
        (first.topLevel[place]?.map fun member => member.2.compact) ≠
          second.topLevel[place]?.map fun member => member.2.compact := by
  refine ⟨fun doc => ⟨doc.keys_topLevel, Members.nodup_keys_ofList _, ?_, ?_⟩,
    fun first second hkeys => ?_⟩
  · rw [splitLines_text, textLines_eq]
  · rw [splitLines_text, length_textLines]
  · have htop : first.topLevel.keys = second.topLevel.keys := by
      rw [keys_topLevel, keys_topLevel, hkeys]
    have hlength : first.topLevel.length = second.topLevel.length := by
      simpa [Members.keys] using congrArg List.length htop
    simp only [splitLines_text]
    refine ⟨htop, ?_, ?_, ?_, fun place => not_congr (getElem?_textLines_inj htop place)⟩
    · rw [length_textLines, length_textLines, hlength]
    · rw [head?_textLines, head?_textLines]
    · rw [getLast?_textLines, getLast?_textLines]

/-- The second of the other keys is that of the nodes. -/
def noted (note : String) : Document where
  nodes := [{ id := "n" }]
  untyped := [("a\nkey", .string note), ("nodes", .number (.integer (-3)))]

theorem lines_of_documents_noted :
    (noted "one").untyped.keys = (noted "two\r\nlines").untyped.keys ∧
    (splitLines (noted "one").text).length = 12 ∧
    (splitLines (noted "two\r\nlines").text).length = 12 ∧
    (splitLines (noted "one").text)[1]? = some "  \"nodes\": -3,\n" ∧
    (splitLines (noted "one").text)[1]? = (splitLines (noted "two\r\nlines").text)[1]? ∧
    (splitLines (noted "one").text)[10]? ≠ (splitLines (noted "two\r\nlines").text)[10]? := by
  obtain ⟨hlines, hpairs⟩ := lines_of_documents
  obtain ⟨-, -, htext, hcount⟩ := hlines (noted "one")
  obtain ⟨-, hlength, -, -, hline⟩ := hpairs (noted "one") (noted "two\r\nlines") rfl
  refine ⟨rfl, hcount, hlength.symm.trans hcount, ?_, ?_, (hline 9).2 (by decide)⟩
  · rw [htext]
    decide
  · exact Classical.not_not.1 fun hne => (hline 0).1 hne rfl

end Document

end MockCluster
