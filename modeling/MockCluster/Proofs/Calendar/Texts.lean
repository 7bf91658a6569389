import MockCluster.Proofs.Calendar.Dates
import MockCluster.Proofs.Digits

/-!
The texts of instants sort as the instants do, by minutes and by the second shown, and so do the
bytes of the texts.

Every field but the year has as many characters in one text as in another, and a year has if it is
neither before 0 nor after 9999, so that the first field that differs decides.
-/

namespace MockCluster

/-- The bytes a text is stored as. -/
def bytes (text : String) : List UInt8 := text.toUTF8.data.toList

def Ascii (text : List Char) : Prop :=
  ∀ c ∈ text, c.toNat < 128

namespace Ascii

theorem nil : Ascii [] := List.forall_mem_nil _

theorem cons_iff {c : Char} {text : List Char} :
    Ascii (c :: text) ↔ c.toNat < 128 ∧ Ascii text := List.forall_mem_cons

theorem append_iff {first second : List Char} :
    Ascii (first ++ second) ↔ Ascii first ∧ Ascii second := List.forall_mem_append

theorem zeroPadded (width n : Nat) : Ascii (zeroPadded width n) := by
  intro c hc
  have hdigit := digit_of_mem_zeroPadded hc
  omega

end Ascii

theorem bytes_ofList (text : List Char) :
    bytes (String.ofList text) = text.flatMap String.utf8EncodeChar := by
  simp [bytes, List.utf8Encode]

theorem utf8EncodeChar_ascii {c : Char} (h : c.toNat < 128) :
    String.utf8EncodeChar c = [c.val.toUInt8] := by
  refine String.utf8EncodeChar_eq_singleton ?_
  have hval : c.val ≤ 0x7f := Nat.le_of_lt_succ h
  simp [Char.utf8Size, hval]

/-- The order of bytes is that of characters, as far as these are single bytes. -/
theorem bytes_lt {first second : List Char} (h : first < second) (hfirst : Ascii first)
    (hsecond : Ascii second) :
    bytes (String.ofList first) < bytes (String.ofList second) := by
  rw [bytes_ofList, bytes_ofList]
  induction h with
  | nil =>
      rename_i c rest
      rw [List.flatMap_cons, utf8EncodeChar_ascii (Ascii.cons_iff.1 hsecond).1]
      exact .nil
  | rel hlt =>
      rename_i c rest d other
      have hc := (Ascii.cons_iff.1 hfirst).1
      have hd := (Ascii.cons_iff.1 hsecond).1
      rw [List.flatMap_cons, List.flatMap_cons, utf8EncodeChar_ascii hc, utf8EncodeChar_ascii hd]
      refine .rel ?_
      rw [UInt8.lt_iff_toNat_lt, UInt32.toNat_toUInt8, UInt32.toNat_toUInt8]
      change c.toNat % 256 < d.toNat % 256
      have hvalues : c.toNat < d.toNat := hlt
      omega
  | cons _ ih =>
      rw [List.flatMap_cons, List.flatMap_cons]
      exact List.append_left_lt (ih (Ascii.cons_iff.1 hfirst).2 (Ascii.cons_iff.1 hsecond).2)

namespace Date

def HasPlainYear (date : Date) : Prop :=
  0 ≤ date.year ∧ date.year ≤ 9999

instance (date : Date) : Decidable date.HasPlainYear := inferInstanceAs (Decidable (_ ∧ _))

theorem text_append_lt {day later : Int} (hplain : (ofDay day).HasPlainYear)
    (hlater : (ofDay later).HasPlainYear) {rest other : List Char}
    (h : day < later ∨ day = later ∧ rest < other) :
    (ofDay day).text ++ rest < (ofDay later).text ++ other := by
  rcases h with hlt | ⟨rfl, hrest⟩
  · have hbefore := ofDay_before hlt
    have hmonth : (ofDay later).month < 100 := Nat.lt_of_le_of_lt (month_le later) (by decide)
    have hday : (ofDay later).day < 100 := Nat.lt_of_le_of_lt (day_le later) (by decide)
    obtain ⟨hyear, hlaterYear⟩ := hlater
    have hdigits : (ofDay later).year.toNat < 10000 := by omega
    unfold Before at hbefore
    unfold HasPlainYear at hplain
    simp only [Date.text, yearText, if_pos hplain, if_pos (And.intro hyear hlaterYear),
      List.append_assoc, List.cons_append]
    refine zeroPadded_append_lt (by decide) hdigits ?_
    rcases hbefore with hyears | ⟨hyears, hbefore⟩
    · left
      omega
    refine .inr ⟨by rw [hyears], .cons (zeroPadded_append_lt (by decide) hmonth ?_)⟩
    rcases hbefore with hmonths | ⟨hmonths, hdays⟩
    · exact .inl hmonths
    · exact .inr ⟨hmonths, .cons (zeroPadded_append_lt (by decide) hday (.inl hdays))⟩
  · exact List.append_left_lt hrest

end Date

namespace Instant

/-- The year of the date is written with four digits and no sign. -/
def HasPlainYear (instant : Instant) : Prop :=
  (Date.ofDay (instant.second / 86400)).HasPlainYear

instance (instant : Instant) : Decidable instant.HasPlainYear :=
  inferInstanceAs (Decidable (Date.HasPlainYear _))

/-- The second the text shows, which is 60 in a leap second. -/
def shownSecond (instant : Instant) : Nat :=
  (instant.second % 60).toNat + instant.nanos / billion

/-- The order of the texts, down to seconds. -/
def ShownBefore (instant later : Instant) : Prop :=
  instant.second / 60 < later.second / 60 ∨
    instant.second / 60 = later.second / 60 ∧ instant.shownSecond < later.shownSecond

theorem text_lt {instant later : Instant} (hplain : instant.HasPlainYear)
    (hlater : later.HasPlainYear) (hshown : later.shownSecond < 100)
    (h : instant.ShownBefore later) : instant.text < later.text := by
  have hsecond : ∀ instant : Instant,
      (instant.second % 86400).toNat % 60 + instant.nanos / billion = instant.shownSecond := by
    intro instant
    unfold shownSecond
    omega
  simp only [text, hsecond, List.append_assoc, List.cons_append]
  unfold ShownBefore at h
  refine Date.text_append_lt hplain hlater ?_
  rcases Int.lt_or_eq_of_le (show instant.second / 86400 ≤ later.second / 86400 by omega)
    with hday | hday
  · exact .inl hday
  have hhours : (later.second % 86400).toNat / 3600 < 100 := by omega
  have hminutes : (later.second % 86400).toNat / 60 % 60 < 100 := by omega
  refine .inr ⟨hday, .cons (zeroPadded_append_lt (by decide) hhours ?_)⟩
  rcases Nat.lt_or_eq_of_le (show (instant.second % 86400).toNat / 3600 ≤
    (later.second % 86400).toNat / 3600 by omega) with hhour | hhour
  · exact .inl hhour
  refine .inr ⟨hhour, .cons (zeroPadded_append_lt (by decide) hminutes ?_)⟩
  rcases h with hminute | ⟨hminute, hseconds⟩
  · left
    omega
  · exact .inr ⟨by omega, .cons (zeroPadded_append_lt (by decide) hshown (.inl hseconds))⟩

theorem ascii_text (instant : Instant) : Ascii instant.text := by
  have hyear : ∀ year, Ascii (yearText year) := by
    intro year
    unfold yearText
    split
    · exact Ascii.zeroPadded _ _
    · refine Ascii.cons_iff.2 ⟨?_, Ascii.zeroPadded _ _⟩
      split <;> decide
  simp only [text, Date.text, Ascii.append_iff, Ascii.cons_iff, Ascii.nil, Ascii.zeroPadded, hyear,
    true_and, and_true]
  decide

end Instant

end MockCluster
