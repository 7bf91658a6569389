import Mathlib.Tactic.IntervalCases
import MockCluster.Proofs.Json.Shows
import MockCluster.Proofs.Json.Text

/-!
Printed text read back: the scan of a value's text delivers a tree that shows the value.
-/

namespace MockCluster.Json

namespace Scan

/-- In the scan, a value may begin inside the frames. -/
def Awaits (s : Scan) (frames : List Frame) : Prop :=
  ∀ c, isBlank c = false → c ≠ ']' → s.step c = begun s.offset frames c

/-- The text makes the scan deliver a tree that shows the value, whatever comes behind. -/
def Reads (s : Scan) (frames : List Frame) (text : List Char) (value : Json) : Prop :=
  ∃ tree after, Tree.Shows tree value ∧ ∀ c rest, Delimits c →
    s.run (text ++ c :: rest) = ((delivered after frames tree).step c).run rest

variable {s : Scan} {frames : List Frame}

theorem reads_of_begun {c : Char} {text : List Char} {value : Json} (tree : Tree) (after : Nat)
    (h : s.Awaits frames) (hblank : isBlank c = false) (hclose : c ≠ ']')
    (hshows : Tree.Shows tree value)
    (hrun : ∀ d rest, Delimits d → (begun s.offset frames c).run (text ++ d :: rest) =
      ((delivered after frames tree).step d).run rest) :
    s.Reads frames (c :: text) value := by
  refine ⟨tree, after, hshows, ?_⟩
  intro d rest hd
  rw [List.cons_append, run_cons, h c hblank hclose, hrun d rest hd]

theorem reads_of_run_eq {c : Char} {text : List Char} {value : Json} (tree : Tree) (after : Nat)
    (h : s.Awaits frames) (hblank : isBlank c = false) (hclose : c ≠ ']')
    (hshows : Tree.Shows tree value)
    (hrun : (begun s.offset frames c).run text = delivered after frames tree) :
    s.Reads frames (c :: text) value := by
  refine reads_of_begun tree after h hblank hclose hshows ?_
  intro d rest _
  rw [run_append, hrun, run_cons]

theorem delivered_eq (offset : Nat) (tree : Tree) :
    { deliver ⟨offset, frames, .value⟩ tree with offset := offset + 1 } =
      delivered (offset + 1) frames tree := by
  cases frames with
  | nil => rfl
  | cons frame rest => cases frame <;> rfl

theorem reads_null (h : s.Awaits frames) : s.Reads frames (print .null) .null := by
  refine reads_of_run_eq (.leaf s.offset (s.offset + 4) .null) (s.offset + 4) h (by decide)
    (by decide) .null (delivered_eq _ _)

theorem reads_bool (h : s.Awaits frames) (value : Bool) :
    s.Reads frames (print (.bool value)) (.bool value) := by
  cases value with
  | false =>
      refine reads_of_run_eq (.leaf s.offset (s.offset + 5) (.bool false)) (s.offset + 5) h
        (by decide) (by decide) .bool (delivered_eq _ _)
  | true =>
      refine reads_of_run_eq (.leaf s.offset (s.offset + 4) (.bool true)) (s.offset + 4) h
        (by decide) (by decide) .bool (delivered_eq _ _)

theorem reads_string (h : s.Awaits frames) (value : String) :
    s.Reads frames (print (.string value)) (.string value) := by
  have hbegun : begun s.offset frames '"' =
      inText (s.offset + 1) frames .value s.offset [] .plain := rfl
  obtain ⟨after, hrun⟩ : ∃ after,
      (inText (s.offset + 1) frames .value s.offset [] .plain).run
          (value.toList.flatMap escapeChar) =
        inText after frames .value s.offset (value.toList.reverse ++ []) .plain :=
    run_escaped _ _
  refine reads_of_run_eq (.leaf s.offset (after + 1) (.string value)) (after + 1) h (by decide)
    (by decide) .string ?_
  rw [hbegun, run_append, hrun, run_cons, run_nil, step_closeValue]
  simp

theorem exists_digits {n : Nat} (h : 0 < n) :
    ∃ first rest, n.repr.toList = (first :: rest).map Nat.digitChar ∧ first ≠ 0 ∧
      (∀ d ∈ first :: rest, d < 10) ∧ Literal.significandOf (first :: rest) = n := by
  rw [Nat.toList_repr]
  induction n using Nat.strong_induction_on with
  | _ n ih =>
      rw [Nat.toDigits_eq_if (by decide)]
      split
      next hlt =>
        refine ⟨n, [], rfl, by omega, by simpa using hlt, ?_⟩
        simp [Literal.significandOf]
      next hge =>
        obtain ⟨first, rest, hdigits, hfirst, hbound, hvalue⟩ := ih (n / 10) (by omega) (by omega)
        refine ⟨first, rest ++ [n % 10], ?_, hfirst, ?_, ?_⟩
        · rw [hdigits, ← List.cons_append, List.map_append]
          rfl
        · intro d hd
          rw [← List.cons_append, List.mem_append, List.mem_singleton] at hd
          rcases hd with hd | rfl
          · exact hbound d hd
          · omega
        · rw [Literal.significandOf] at hvalue ⊢
          rw [← List.cons_append, List.foldl_append, hvalue]
          simp only [List.foldl_cons, List.foldl_nil]
          omega

theorem reads_of_number {c : Char} {text : List Char} {value : Number} (n : NumberState)
    (after : Nat) (h : s.Awaits frames) (hblank : isBlank c = false) (hclose : c ≠ ']')
    (hrun : (begun s.offset frames c).run text = inNumber after frames n)
    (hcomplete : NumberPhase.isComplete n.phase = true)
    (hvalue : Literal.toScalar (NumberState.literal n) after = .number value) :
    s.Reads frames (c :: text) (.number value) := by
  refine reads_of_begun (.leaf n.start after (.number value)) after h hblank hclose .number ?_
  intro d rest hd
  rw [run_append, hrun, run_cons, step_endNumber hd after n hcomplete, hvalue]

theorem scale_zero : Literal.scale 0 (-1) = some Binary64.zero := by
  have hzero : Binary64.ofNat 0 = some Binary64.zero := by decide
  rw [Literal.scale, hzero, Option.bind_some, if_pos (by decide)]
  change Literal.divideByPower Binary64.zero 1 = _
  rw [Literal.divideByPower]
  decide

theorem toFloat_negativeZero (stop : Nat) :
    Literal.toFloat ⟨true, [0], some [0], none⟩ stop =
      .number (.float Binary64.zero.neg) := by
  have hfill : Literal.fill 0 [0] = (0, []) := by decide
  have hstart : ((0 : Nat) : Int) - ((1 - 0 : Nat) : Int) = -1 := by decide
  simp only [Literal.toFloat, hfill, List.length_nil, List.length_singleton]
  rw [hstart, scale_zero]
  rfl

theorem reads_float (h : s.Awaits frames) :
    s.Reads frames (Number.float Binary64.zero.neg).print (.number (.float Binary64.zero.neg)) := by
  change s.Reads frames ['-', '0', '.', '0'] _
  refine reads_of_number ⟨s.offset, .fraction, true, [0], [0], false, [], 0⟩ (s.offset + 4) h
    (by decide) (by decide) rfl rfl ?_
  exact toFloat_negativeZero _

theorem toScalar_of_natural {digits : List Nat} {n stop : Nat}
    (hdigits : Literal.significandOf digits = n) (h : n < twoTo 64) :
    Literal.toScalar ⟨false, digits, none, none⟩ stop = .number (.integer n) := by
  simp [Literal.toScalar, hdigits, Literal.wordLimit, h]

theorem toScalar_of_negative {digits : List Nat} {n stop : Nat}
    (hdigits : Literal.significandOf digits = n) (hpos : 0 < n) (h : n ≤ twoTo 63) :
    Literal.toScalar ⟨true, digits, none, none⟩ stop = .number (.integer (-(n : Int))) := by
  simp [Literal.toScalar, hdigits, hpos, h]

theorem begun_digit {first : Nat} (hfirst : first ≠ 0) (hbound : first < 10) (offset : Nat) :
    begun offset frames first.digitChar =
      inNumber (offset + 1) frames ⟨offset, .whole, false, [first], [], false, [], 0⟩ := by
  interval_cases first
  · exact absurd rfl hfirst
  all_goals rfl

theorem step_minus {first : Nat} (hfirst : first ≠ 0) (hbound : first < 10) (offset : Nat) :
    (begun offset frames '-').step first.digitChar =
      inNumber (offset + 2) frames ⟨offset, .whole, true, [first], [], false, [], 0⟩ := by
  interval_cases first
  · exact absurd rfl hfirst
  all_goals rfl

theorem opens_digit {d : Nat} (h : d < 10) :
    isBlank d.digitChar = false ∧ d.digitChar ≠ ']' := by
  have hall : ∀ d < 10, isBlank (Nat.digitChar d) = false ∧ Nat.digitChar d ≠ ']' := by decide
  exact hall d h

theorem reads_natural (h : s.Awaits frames) {n : Nat} (hlt : n < twoTo 64) :
    s.Reads frames n.repr.toList (.number (.integer n)) := by
  rcases Nat.eq_zero_or_pos n with rfl | hpos
  · exact reads_of_number ⟨s.offset, .zero, false, [0], [], false, [], 0⟩ (s.offset + 1) h
      (by decide) (by decide) rfl rfl rfl
  · obtain ⟨first, rest, hdigits, hfirst, hbound, hvalue⟩ := exists_digits hpos
    have hten : first < 10 := hbound first List.mem_cons_self
    obtain ⟨after, hrun⟩ := run_digits (s.offset + 1) frames
      ⟨s.offset, .whole, false, [first], [], false, [], 0⟩ rfl
      fun d hd => hbound d (List.mem_cons_of_mem first hd)
    rw [hdigits, List.map_cons]
    refine reads_of_number _ after h (opens_digit hten).1 (opens_digit hten).2
      (by rw [begun_digit hfirst hten, hrun]) rfl ?_
    simp only [NumberState.literal, List.reverse_append, List.reverse_reverse]
    exact toScalar_of_natural hvalue hlt

theorem reads_negative (h : s.Awaits frames) {n : Nat} (hpos : 0 < n) (hle : n ≤ twoTo 63) :
    s.Reads frames ('-' :: n.repr.toList) (.number (.integer (-(n : Int)))) := by
  obtain ⟨first, rest, hdigits, hfirst, hbound, hvalue⟩ := exists_digits hpos
  have hten : first < 10 := hbound first List.mem_cons_self
  obtain ⟨after, hrun⟩ := run_digits (s.offset + 2) frames
    ⟨s.offset, .whole, true, [first], [], false, [], 0⟩ rfl
    fun d hd => hbound d (List.mem_cons_of_mem first hd)
  rw [hdigits, List.map_cons]
  refine reads_of_number _ after h (by decide) (by decide)
    (by rw [run_cons, step_minus hfirst hten, hrun]) rfl ?_
  simp only [NumberState.literal, List.reverse_append, List.reverse_reverse]
  exact toScalar_of_negative hvalue hpos hle

theorem reads_integer (h : s.Awaits frames) {value : Int}
    (hwhole : -twoTo 63 ≤ value ∧ value < twoTo 64) :
    s.Reads frames (Number.integer value).print (.number (.integer value)) := by
  cases value with
  | ofNat n => exact reads_natural h (by simpa using hwhole.2)
  | negSucc n =>
      have hprint : (Number.integer (.negSucc n)).print = '-' :: (n + 1).repr.toList := by
        change ("-" ++ (n + 1).repr).toList = _
        rw [String.toList_append]
        rfl
      rw [hprint]
      exact reads_negative h (Nat.succ_pos n) (by omega)

theorem awaits_value (offset : Nat) : (⟨offset, frames, .value⟩ : Scan).Awaits frames := by
  intro c hblank _
  simp only [step, react, stepPlain, hblank]
  rfl

theorem awaits_item (offset start : Nat) (items : List Tree) (first : Bool) :
    (⟨offset, frames, .item start items first⟩ : Scan).Awaits (.array start items :: frames) := by
  intro c hblank hclose
  simp only [step, react, stepPlain, hblank, if_neg hclose]
  rfl

/-- The value can be read back from its text in every place where a value may begin. -/
def Readable (value : Json) : Prop :=
  ∀ (s : Scan) (frames : List Frame), s.Awaits frames → s.Reads frames (print value) value

theorem delimits_comma : Delimits ',' := ⟨by decide, by decide, by decide⟩

theorem delimits_bracket : Delimits ']' := ⟨by decide, by decide, by decide⟩

theorem delimits_brace : Delimits '\x7d' := ⟨by decide, by decide, by decide⟩

theorem delimits_newline : Delimits '\n' := ⟨by decide, by decide, by decide⟩

theorem run_items {values : List Json} (hne : values ≠ [])
    (hreadable : ∀ value ∈ values, Readable value) (offset start : Nat) (items : List Tree)
    (first : Bool) :
    ∃ trees after, Tree.ShowsItems trees values ∧
      (⟨offset, frames, .item start items first⟩ : Scan).run (printItems values ++ [']']) =
        delivered after frames (.array start (items.reverse ++ trees) (.closed after)) := by
  induction values generalizing offset items first with
  | nil => exact absurd rfl hne
  | cons value rest ih =>
      obtain ⟨tree, after, hshows, hrun⟩ :=
        hreadable value List.mem_cons_self _ _ (awaits_item offset start items first)
      cases rest with
      | nil =>
          refine ⟨[tree], after + 1, .cons hshows .nil, ?_⟩
          rw [printItems, hrun _ _ delimits_bracket, run_nil, ← List.reverse_cons]
          exact delivered_eq after (.array start (tree :: items).reverse (.closed (after + 1)))
      | cons next rest =>
          obtain ⟨trees, last, hrest, hrun'⟩ := ih (List.cons_ne_nil _ _)
            (fun value hmem => hreadable value (List.mem_cons_of_mem _ hmem)) (after + 1)
            (tree :: items) false
          refine ⟨tree :: trees, last, .cons hshows hrest, ?_⟩
          have hcomma : (delivered after (.array start items :: frames) tree).step ',' =
              ⟨after + 1, frames, .item start (tree :: items) false⟩ := rfl
          rw [printItems, List.append_assoc, List.cons_append, hrun _ _ delimits_comma, hcomma,
            hrun', List.reverse_cons, List.append_assoc]
          rfl

theorem readable_array {values : List Json} (hreadable : ∀ value ∈ values, Readable value) :
    Readable (.array values) := by
  intro s frames h
  have hbegun : begun s.offset frames '[' = ⟨s.offset + 1, frames, .item s.offset [] true⟩ := rfl
  rcases eq_or_ne values [] with rfl | hne
  · refine reads_of_run_eq (.array s.offset [] (.closed (s.offset + 2))) (s.offset + 2) h
      (by decide) (by decide) (.array .nil) (delivered_eq _ _)
  · obtain ⟨trees, after, hshows, hrun⟩ :=
      run_items hne hreadable (s.offset + 1) s.offset [] true
    rw [List.reverse_nil, List.nil_append] at hrun
    exact reads_of_run_eq _ after h (by decide) (by decide) (.array hshows) (by rw [hbegun, hrun])

end Scan

end MockCluster.Json
