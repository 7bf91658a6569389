import MockCluster.Json.Print
import MockCluster.Json.Scan

/-!
Printed strings and integers read back: what the scan makes of an escaped string between its
quotes, and of the digits of a number.
-/

namespace MockCluster.Json

namespace Scan

theorem hexDigit?_hexDigit {n : Nat} (h : n < 16) : hexDigit? (Text.hexDigit n) = some n := by
  have hall : ∀ n < 16, hexDigit? (Text.hexDigit n) = some n := by decide
  exact hall n h

/-- The scan inside a string that has been read without a fault up to here. -/
def inText (offset : Nat) (frames : List Frame) (use : TextUse) (start : Nat)
    (chars : List Char) (phase : TextPhase) : Scan :=
  ⟨offset, frames, .text ⟨use, start, chars, phase, none⟩⟩

variable {frames : List Frame} {use : TextUse} {start : Nat} {chars : List Char}

theorem step_inText (offset : Nat) (phase : TextPhase) (c : Char) :
    (inText offset frames use start chars phase).step c =
      { (inText offset frames use start chars phase).stepText ⟨use, start, chars, phase, none⟩
          c with offset := offset + c.utf8Size } := rfl

theorem step_hex {offset place count value d : Nat} {c : Char} (hcount : count < 3)
    (hd : hexDigit? c = some d) :
    (inText offset frames use start chars (.hex place count value none)).step c =
      inText (offset + c.utf8Size) frames use start chars
        (.hex place (count + 1) (16 * value + d) none) := by
  simp only [step_inText, stepText, hd, if_pos hcount]
  rfl

/-- The last of four digits; units below the surrogates are characters. -/
theorem step_lastHex {offset place value d : Nat} {c : Char} (hd : hexDigit? c = some d)
    (hunit : 16 * value + d < 0xd800) :
    (inText offset frames use start chars (.hex place 3 value none)).step c =
      inText (offset + c.utf8Size) frames use start (Char.ofNat (16 * value + d) :: chars)
        .plain := by
  have htrailing : isTrailing (16 * value + d) = false := by
    simp only [isTrailing, Bool.and_eq_false_iff, decide_eq_false_iff_not]
    omega
  have hleading : isLeading (16 * value + d) = false := by
    simp only [isLeading, Bool.and_eq_false_iff, decide_eq_false_iff_not]
    omega
  simp only [step_inText, stepText, hd, TextState.pushUnit, htrailing, hleading]
  rfl

theorem run_escapeChar (offset : Nat) (c : Char) :
    ∃ after, (inText offset frames use start chars .plain).run (escapeChar c) =
      inText after frames use start (c :: chars) .plain := by
  unfold escapeChar
  split
  any_goals exact ⟨_, rfl⟩
  next hquote hbackslash _ _ _ _ _ =>
    split
    next hcontrol =>
      have hhigh : hexDigit? (Text.hexDigit (c.toNat / 16)) = some (c.toNat / 16) :=
        hexDigit?_hexDigit (by omega)
      have hlow : hexDigit? (Text.hexDigit (c.toNat % 16)) = some (c.toNat % 16) :=
        hexDigit?_hexDigit (by omega)
      have hzeros : (inText offset frames use start chars .plain).run ['\\', 'u', '0', '0'] =
          inText (offset + 4) frames use start chars (.hex (offset + 2) 2 0 none) := rfl
      have hunit : 16 * (16 * 0 + c.toNat / 16) + c.toNat % 16 = c.toNat := by omega
      refine ⟨offset + 4 + (Text.hexDigit (c.toNat / 16)).utf8Size +
        (Text.hexDigit (c.toNat % 16)).utf8Size, ?_⟩
      change (inText offset frames use start chars .plain).run
        (['\\', 'u', '0', '0'] ++ [Text.hexDigit (c.toNat / 16), Text.hexDigit (c.toNat % 16)]) = _
      rw [run_append, hzeros, run_cons, run_cons, run_nil, step_hex (by decide) hhigh,
        step_lastHex hlow (by omega), hunit, Char.ofNat_toNat]
    next hprintable =>
      refine ⟨offset + c.utf8Size, ?_⟩
      rw [run_cons, run_nil, step_inText, stepText, textPlain, if_neg hquote, if_neg hbackslash,
        if_neg hprintable]
      rfl

theorem run_escaped (offset : Nat) (text : List Char) :
    ∃ after, (inText offset frames use start chars .plain).run (text.flatMap escapeChar) =
      inText after frames use start (text.reverse ++ chars) .plain := by
  induction text generalizing offset chars with
  | nil => exact ⟨offset, rfl⟩
  | cons c rest ih =>
      obtain ⟨next, hnext⟩ := run_escapeChar offset c
      obtain ⟨after, hafter⟩ := ih next
      refine ⟨after, ?_⟩
      rw [List.flatMap_cons, run_append, hnext, hafter, List.reverse_cons, List.append_assoc]
      rfl

/-- A value has been read inside the frames. -/
def delivered (offset : Nat) (frames : List Frame) (tree : Tree) : Scan :=
  deliver ⟨offset, frames, .value⟩ tree

/-- A value begins inside the frames. -/
def begun (offset : Nat) (frames : List Frame) (c : Char) : Scan :=
  { beginValue ⟨offset, frames, .value⟩ c with offset := offset + c.utf8Size }

theorem step_closeValue (offset : Nat) :
    (inText offset frames .value start chars .plain).step '"' =
      delivered (offset + 1) frames
        (.leaf start (offset + 1) (.string (String.ofList chars.reverse))) := by
  cases frames with
  | nil => rfl
  | cons frame rest => cases frame <;> rfl

theorem step_closeKey {owner : Nat} {members : List (Key × Tree)} (offset : Nat) :
    (inText offset frames (.key owner members) start chars .plain).step '"' =
      ⟨offset + 1, frames,
        .afterKey owner members (.ok (String.ofList chars.reverse)) (offset + 1)⟩ := rfl

def inNumber (offset : Nat) (frames : List Frame) (state : NumberState) : Scan :=
  ⟨offset, frames, .number state⟩

theorem digit?_digitChar {d : Nat} (h : d < 10) : digit? d.digitChar = some d := by
  have hall : ∀ d < 10, digit? (Nat.digitChar d) = some d := by decide
  exact hall d h

theorem run_digits (offset : Nat) (frames : List Frame) (n : NumberState)
    (hphase : n.phase = .whole) {digits : List Nat} (hdigits : ∀ d ∈ digits, d < 10) :
    ∃ after, (inNumber offset frames n).run (digits.map Nat.digitChar) =
      inNumber after frames { n with whole := digits.reverse ++ n.whole } := by
  induction digits generalizing offset n with
  | nil => exact ⟨offset, rfl⟩
  | cons d rest ih =>
      have hd := digit?_digitChar (hdigits d (List.mem_cons_self))
      have hstep : (inNumber offset frames n).step d.digitChar =
          inNumber (offset + d.digitChar.utf8Size) frames { n with whole := d :: n.whole } := by
        obtain ⟨_, phase, _, _, _, _, _, _⟩ := n
        subst hphase
        simp only [inNumber, step, react, NumberState.step, hd]
      obtain ⟨after, hafter⟩ := ih (offset + d.digitChar.utf8Size) { n with whole := d :: n.whole }
        hphase fun other hmem => hdigits other (List.mem_cons_of_mem d hmem)
      refine ⟨after, ?_⟩
      rw [List.map_cons, run_cons, hstep, hafter, List.reverse_cons, List.append_assoc]
      rfl

/-- A character that ends a number and belongs to what comes after it. -/
structure Delimits (c : Char) : Prop where
  no_digit : digit? c = none
  no_point : c ≠ '.'
  no_power : ¬ (c = 'e' ∨ c = 'E')

theorem step_endNumber {c : Char} (hc : Delimits c) (offset : Nat) (n : NumberState)
    (hcomplete : NumberPhase.isComplete n.phase = true) :
    (inNumber offset frames n).step c = (delivered offset frames
      (.leaf n.start offset (Literal.toScalar (NumberState.literal n) offset))).step c := by
  have hstep : NumberState.step n offset c = .complete := by
    obtain ⟨_, phase, _, _, _, _, _, _⟩ := n
    cases phase with
    | zero | whole | fraction | powerDigits =>
        simp [NumberState.step, hc.no_digit, hc.no_point, hc.no_power]
    | minus | point | power | powerSign => cases hcomplete
  rw [step, react]
  simp only [inNumber, hstep]
  cases frames with
  | nil => rfl
  | cons frame rest => cases frame <;> rfl

end Scan

end MockCluster.Json
