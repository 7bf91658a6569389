import Mathlib.Order.Monotone.Basic
import MockCluster.Calendar
import MockCluster.Decimal.Power

/-!
The decimal digits of a number, bare or padded with zeros to a width.  Of two numbers padded to one
width the smaller is the one whose text sorts first.
-/

namespace MockCluster

theorem digit_of_mem_repr {n : Nat} {c : Char} (h : c ∈ n.repr.toList) :
    48 ≤ c.toNat ∧ c.toNat ≤ 57 := by
  rw [Nat.toList_repr] at h
  have hdigit := Nat.isDigit_of_mem_toDigits (by decide) (by decide) h
  simp only [Char.isDigit, Bool.and_eq_true, decide_eq_true_eq] at hdigit
  exact hdigit

theorem append_lt_append {first second rest other : List Char} (h : first < second)
    (hlength : first.length = second.length) : first ++ rest < second ++ other := by
  induction h with
  | nil => cases hlength
  | rel hlt => exact .rel hlt
  | cons _ ih => exact .cons (ih (by simpa using hlength))

section ZeroPadded

variable {width : Nat}

theorem zeroPadded_one {n : Nat} (h : n < 10) : zeroPadded 1 n = [n.digitChar] := by
  have hdigits : n.repr.toList = [n.digitChar] := by
    rw [Nat.toList_repr, Nat.toDigits_of_lt_base h]
  change n.repr.toList.leftpad 1 '0' = _
  rw [hdigits]
  rfl

theorem zeroPadded_succ (hwidth : 0 < width) (n : Nat) :
    zeroPadded (width + 1) n = zeroPadded width (n / 10) ++ [(n % 10).digitChar] := by
  change n.repr.toList.leftpad (width + 1) '0' =
    (n / 10).repr.toList.leftpad width '0' ++ [(n % 10).digitChar]
  simp only [Nat.toList_repr, List.leftpad]
  rw [Nat.toDigits_eq_if (by decide) (n := n)]
  split
  next hsmall =>
    obtain ⟨width, rfl⟩ : ∃ less, width = less + 1 := ⟨width - 1, by omega⟩
    rw [Nat.div_eq_of_lt hsmall, Nat.mod_eq_of_lt hsmall]
    simp [List.replicate_succ']
  next => simp

theorem length_zeroPadded (hwidth : 0 < width) {n : Nat} (h : n < tenTo width) :
    (zeroPadded width n).length = width := by
  induction width, hwidth using Nat.le_induction generalizing n with
  | base => rw [zeroPadded_one h, List.length_singleton]
  | succ width hwidth ih =>
      have hless : n / 10 < tenTo width := by
        change n < tenTo width * 10 at h
        omega
      rw [zeroPadded_succ hwidth, List.length_append, ih hless, List.length_singleton]

theorem digit_of_mem_zeroPadded {n : Nat} {c : Char} (h : c ∈ zeroPadded width n) :
    48 ≤ c.toNat ∧ c.toNat ≤ 57 := by
  rcases List.mem_append.1 h with hzero | hdigit
  · rw [List.eq_of_mem_replicate hzero]
    decide
  · exact digit_of_mem_repr hdigit

theorem digitChar_lt {m n : Nat} (h : m < n) (hn : n < 10) : m.digitChar < n.digitChar := by
  have hall : ∀ n < 10, ∀ m < n, m.digitChar < n.digitChar := by decide
  exact hall n hn m h

theorem zeroPadded_lt (hwidth : 0 < width) {m n : Nat} (h : m < n) (hn : n < tenTo width) :
    zeroPadded width m < zeroPadded width n := by
  induction width, hwidth using Nat.le_induction generalizing m n with
  | base =>
      rw [zeroPadded_one (Nat.lt_trans h hn), zeroPadded_one hn]
      exact .rel (digitChar_lt h hn)
  | succ width hwidth ih =>
      have hless : n / 10 < tenTo width := by
        change n < tenTo width * 10 at hn
        omega
      rw [zeroPadded_succ hwidth, zeroPadded_succ hwidth]
      rcases Nat.lt_or_eq_of_le (Nat.div_le_div_right (c := 10) (Nat.le_of_lt h)) with hlt | heq
      · refine append_lt_append (ih hlt hless) ?_
        rw [length_zeroPadded hwidth (Nat.lt_trans hlt hless), length_zeroPadded hwidth hless]
      · rw [heq]
        exact List.append_left_lt (.rel (digitChar_lt (by omega) (Nat.mod_lt _ (by decide))))

/-- Texts that begin with a field of fixed width sort by the field, then by the rest. -/
theorem zeroPadded_append_lt (hwidth : 0 < width) {m n : Nat} {rest other : List Char}
    (hn : n < tenTo width) (h : m < n ∨ m = n ∧ rest < other) :
    zeroPadded width m ++ rest < zeroPadded width n ++ other := by
  rcases h with hlt | ⟨rfl, hrest⟩
  · refine append_lt_append (zeroPadded_lt hwidth hlt hn) ?_
    rw [length_zeroPadded hwidth (Nat.lt_trans hlt hn), length_zeroPadded hwidth hn]
  · exact List.append_left_lt hrest

end ZeroPadded

end MockCluster
