import MockCluster.Proofs.Calendar.Texts
import MockCluster.Proofs.Synthesis.Tasks

/-!
Tasks created a minute apart have times that sort backward.

A leap second is left by going a minute back, but what the text shows still moves back: the minute
does, or it stays and the second falls from 60 to 0.
-/

namespace MockCluster

namespace Instant

theorem minutesBefore_of_lt {now : Instant} (h : now.nanos < billion) (minutes : Int) :
    now.minutesBefore minutes = ⟨now.second - 60 * minutes, now.nanos⟩ := by
  unfold minutesBefore
  split
  next hzero => simp [hzero]
  next => rfl

theorem minutesBefore_of_leap {now : Instant} (h : billion ≤ now.nanos) {minutes : Int}
    (hminutes : minutes ≠ 0) :
    now.minutesBefore minutes =
      ⟨now.second - 60 * minutes + (if minutes > 0 then 1 else 0), now.nanos - billion⟩ := by
  rw [minutesBefore, if_neg hminutes, if_neg (Nat.not_lt.2 h)]

theorem shownBefore_minutesBefore {now : Instant} (hnow : now.nanos < 2 * billion) {a b : Int}
    (h : a < b) : (now.minutesBefore b).ShownBefore (now.minutesBefore a) := by
  unfold ShownBefore shownSecond
  rcases Nat.lt_or_ge now.nanos billion with hwhole | hleap
  · left
    rw [minutesBefore_of_lt hwhole, minutesBefore_of_lt hwhole]
    dsimp only
    omega
  rcases Decidable.em (a = 0) with rfl | ha
  · -- A minute back from a leap second may be the beginning of the minute that it ends.
    rw [minutesBefore_of_leap hleap (by omega : b ≠ 0), if_pos (by omega)]
    change (now.second - 60 * b + 1) / 60 < now.second / 60 ∨
      (now.second - 60 * b + 1) / 60 = now.second / 60 ∧
        ((now.second - 60 * b + 1) % 60).toNat + (now.nanos - billion) / billion <
          (now.second % 60).toNat + now.nanos / billion
    unfold billion at *
    omega
  rw [minutesBefore_of_leap hleap ha]
  rcases Decidable.em (b = 0) with rfl | hb
  · rw [if_neg (by omega)]
    change now.second / 60 < (now.second - 60 * a + 0) / 60 ∨ _
    omega
  · rw [minutesBefore_of_leap hleap hb]
    dsimp only
    split <;> split <;> omega

theorem shownSecond_lt {instant : Instant} (h : instant.nanos < 2 * billion) :
    instant.shownSecond < 100 := by
  unfold shownSecond billion at *
  omega

theorem nanos_minutesBefore_le (now : Instant) (minutes : Int) :
    (now.minutesBefore minutes).nanos ≤ now.nanos := by
  unfold minutesBefore
  split
  · exact Nat.le_refl _
  · split
    · exact Nat.le_refl _
    · exact Nat.sub_le _ _

theorem timestamp_lt {now : Instant} (hnow : now.nanos < 2 * billion) {a b : Int} (h : a < b)
    (hplain : (now.minutesBefore a).HasPlainYear)
    (hother : (now.minutesBefore b).HasPlainYear) :
    bytes (now.timestamp b) < bytes (now.timestamp a) := by
  have hnanos := now.nanos_minutesBefore_le a
  exact bytes_lt
    (text_lt hother hplain (shownSecond_lt (by omega)) (shownBefore_minutesBefore hnow h))
    (ascii_text _) (ascii_text _)

end Instant

/-- The times of a pass go back from slot to slot. -/
theorem timestamps_sort_backward (now : Instant) (hnow : now.nanos < 2 * Instant.billion) :
    (∀ a b : Int, a < b →
      (now.minutesBefore a).HasPlainYear → (now.minutesBefore b).HasPlainYear →
      bytes (now.timestamp b) < bytes (now.timestamp a)) ∧
    ∀ (store : Store) (services : Nat), ∃ created,
      (store.synthesizeTasks now services).1.doc.tasks = store.doc.tasks ++ created ∧
      created.length = (store.synthesizeTasks now services).2 ∧
      ∀ task ∈ created, ∀ other ∈ created, task.serviceId = other.serviceId →
        ∃ slot otherSlot time otherTime,
          task.slot = some slot ∧ other.slot = some otherSlot ∧
          task.createdAt = some time ∧ other.createdAt = some otherTime ∧
          (slot = otherSlot → task = other) ∧
          (slot < otherSlot → (now.minutesBefore (slot - 1)).HasPlainYear →
            (now.minutesBefore (otherSlot - 1)).HasPlainYear → bytes otherTime < bytes time) := by
  refine ⟨fun a b hlt ha hb => Instant.timestamp_lt hnow hlt ha hb, fun store services => ?_⟩
  refine ⟨(store.missingTasks services).map (store.doc.rotatedTask now), ?_, rfl, ?_⟩
  · change (store.insertTasks _).doc.tasks = _
    rw [Store.doc_insertTasks, Document.tasks_insertAll]
  · intro task htask other hother hservice
    obtain ⟨⟨i, j⟩, -, rfl⟩ := List.mem_map.1 htask
    obtain ⟨⟨k, l⟩, -, rfl⟩ := List.mem_map.1 hother
    obtain rfl : i = k := by
      have hid : some (store.doc.owner i).id = some (store.doc.owner k).id := hservice
      rw [Document.id_owner, Document.id_owner] at hid
      exact Synthetic.serviceId_injective (Option.some.inj hid)
    refine ⟨j + 1, l + 1, _, _, rfl, rfl, rfl, rfl, ?_, ?_⟩
    · intro hslot
      rw [Nat.succ.inj hslot]
    · intro hlt hplain hlater
      have hminutes : ∀ n : Nat, ((n + 1 : Nat) : Int) - 1 = n := by omega
      rw [hminutes] at hplain hlater
      exact Instant.timestamp_lt hnow (by omega) hplain hlater

/-- A leap second at the end of a leap year; a minute back and a minute on. -/
theorem timestamps_sort_backward_newYear :
    let now : Instant := ⟨1483228799, 1999999999⟩
    now.nanos < 2 * Instant.billion ∧
      now.timestamp (-1) = "2017-01-01T00:00:59.999Z" ∧
      now.timestamp 0 = "2016-12-31T23:59:60.999Z" ∧
      bytes (now.timestamp 1) < bytes (now.timestamp 0) ∧
      bytes (now.timestamp 0) < bytes (now.timestamp (-1)) := by
  have hplain : ∀ minutes ∈ [-1, 0, 1],
      (Instant.minutesBefore ⟨1483228799, 1999999999⟩ minutes).HasPlainYear := by decide
  have hback := (timestamps_sort_backward ⟨1483228799, 1999999999⟩ (by decide)).1
  refine ⟨by decide, by decide, by decide, ?_, ?_⟩
  · exact hback 0 1 (by decide) (hplain 0 (by decide)) (hplain 1 (by decide))
  · exact hback (-1) 0 (by decide) (hplain (-1) (by decide)) (hplain 0 (by decide))

end MockCluster
