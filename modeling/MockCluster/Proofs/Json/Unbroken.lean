import MockCluster.Json.Print
import MockCluster.Proofs.Digits

/-!
The compact text of a value stands on one line: no control character is in it.
-/

namespace MockCluster

/-- A text without control characters, line breaks among them. -/
def Unbroken (text : List Char) : Prop :=
  ∀ c ∈ text, 32 ≤ c.toNat

namespace Unbroken

@[simp] theorem nil : Unbroken [] := List.forall_mem_nil _

@[simp] theorem cons_iff {c : Char} {text : List Char} :
    Unbroken (c :: text) ↔ 32 ≤ c.toNat ∧ Unbroken text := List.forall_mem_cons

@[simp] theorem append_iff {first second : List Char} :
    Unbroken (first ++ second) ↔ Unbroken first ∧ Unbroken second := List.forall_mem_append

theorem sublist {part text : List Char} (h : Unbroken text) (hpart : part.Sublist text) :
    Unbroken part :=
  fun c hc => h c (hpart.subset hc)

theorem flatMap {α : Type} {f : α → List Char} {items : List α}
    (h : ∀ item ∈ items, Unbroken (f item)) : Unbroken (items.flatMap f) := by
  intro c hc
  obtain ⟨item, hitem, hmem⟩ := List.mem_flatMap.1 hc
  exact h item hitem c hmem

end Unbroken

theorem unbroken_repr (n : Nat) : Unbroken n.repr.toList := by
  intro c hc
  have hdigit := digit_of_mem_repr hc
  omega

theorem unbroken_int (value : Int) : Unbroken (toString value).toList := by
  cases value with
  | ofNat n => exact unbroken_repr n
  | negSucc n =>
      change Unbroken ("-" ++ (n + 1).repr).toList
      rw [String.toList_append, Unbroken.append_iff]
      exact ⟨by simp, unbroken_repr (n + 1)⟩

namespace Decimal

theorem unbroken_zeros (n : Nat) : Unbroken (zeros n) := by
  intro c hc
  rw [List.eq_of_mem_replicate hc]
  decide

variable {digits : List Char}

theorem Layout.unbroken_positional (layout : Layout) (h : Unbroken digits) (exponent : Int) :
    Unbroken (layout.positional digits exponent) := by
  unfold positional
  split
  next =>
    have hpoint : Unbroken (if layout.keepsPoint then ['.', '0'] else []) := by
      split <;> simp
    simp [h, unbroken_zeros, hpoint]
  next =>
    dsimp only
    split
    · simp [h.sublist (List.take_sublist _ _), h.sublist (List.drop_sublist _ _)]
    · simp [h, unbroken_zeros]

theorem unbroken_scientificText (h : Unbroken digits) (power : Int) :
    Unbroken (scientificText digits power) := by
  have hsign : 32 ≤ (if power < 0 then '-' else '+').toNat := by
    split <;> decide
  unfold scientificText
  simp only [Unbroken.append_iff, Unbroken.cons_iff]
  refine ⟨?_, by decide, hsign, unbroken_repr _⟩
  split
  · simpa using h
  · exact h

theorem Layout.unbroken_render (layout : Layout) (x : Binary64) : Unbroken (layout.render x) := by
  have hdigits : Unbroken (toString (shortest x).digits).toList := unbroken_repr _
  unfold render
  dsimp only
  have hbody : ∀ {isPositional : Bool} {exponent power : Int},
      Unbroken (if isPositional then
          layout.positional (toString (shortest x).digits).toList exponent
        else scientificText (toString (shortest x).digits).toList power) := by
    intro isPositional exponent power
    split
    · exact layout.unbroken_positional hdigits exponent
    · exact unbroken_scientificText hdigits power
  split
  · exact Unbroken.cons_iff.2 ⟨by decide, hbody⟩
  · exact hbody

end Decimal

namespace Json

theorem Number.unbroken_print (value : Number) : Unbroken value.print := by
  cases value with
  | integer value => exact unbroken_int value
  | float value => exact floatLayout.unbroken_render value

theorem unbroken_hexDigit {n : Nat} (h : n < 16) : 32 ≤ (Text.hexDigit n).toNat := by
  have hall : ∀ n < 16, 32 ≤ (Text.hexDigit n).toNat := by decide
  exact hall n h

/-- Every control character is escaped. -/
theorem unbroken_escapeChar (c : Char) : Unbroken (escapeChar c) := by
  unfold escapeChar
  split
  any_goals simp
  next =>
    split
    next hcontrol =>
      have hhigh := unbroken_hexDigit (n := c.toNat / 16) (by omega)
      have hlow := unbroken_hexDigit (n := c.toNat % 16) (by omega)
      simp [hhigh, hlow]
    next hcontrol => simpa using hcontrol

theorem unbroken_printString (s : String) : Unbroken (printString s) := by
  have hchars : Unbroken (s.toList.flatMap escapeChar) :=
    Unbroken.flatMap fun c _ => unbroken_escapeChar c
  simp [printString, hchars]

mutual

theorem unbroken_print : ∀ value : Json, Unbroken value.print
  | .null => by simp [print]
  | .bool true => by simp [print]
  | .bool false => by simp [print]
  | .number value => value.unbroken_print
  | .string value => unbroken_printString value
  | .array items => by simp [print, unbroken_printItems items]
  | .object members => by simp [print, unbroken_printMembers members]

theorem unbroken_printItems : ∀ items : List Json, Unbroken (printItems items)
  | [] => by simp [printItems]
  | [item] => unbroken_print item
  | item :: next :: rest => by
      simp [printItems, unbroken_print item, unbroken_printItems (next :: rest)]

theorem unbroken_printMembers : ∀ members : List (String × Json), Unbroken (printMembers members)
  | [] => by simp [printMembers]
  | [(key, value)] => by simp [printMembers, unbroken_printString, unbroken_print value]
  | (key, value) :: next :: rest => by
      simp [printMembers, unbroken_printString, unbroken_print value,
        unbroken_printMembers (next :: rest)]

end

end Json

end MockCluster
