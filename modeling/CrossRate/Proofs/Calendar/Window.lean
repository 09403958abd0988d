import CrossRate.Calendar.Window
import Mathlib.Tactic.Common

/-!
# Windows as spans of days

The days of a window are those of a span of the calendar (`Date.mem_probeWindow_iff`,
`Date.mem_laggedWindow_iff`), latest first. What is found first in a window with some property is
therefore the latest of its days with that property (`Date.find?_eq_some_iff_latest`).
-/

namespace CrossRate.Date

/-- The day some days before another one, if the calendar goes so far back. -/
theorem back?_eq_some_iff {d e : Date} {days : Nat} :
  d.back? days = some e ↔ e.dayNumber = d.dayNumber - days
  := by
  rw [back?, ofDayNumber?]
  split
  · rw [Option.some.injEq]
    constructor
    · rintro rfl
      rfl
    · intro same
      cases e
      simp_all
  · rename_i outside
    constructor
    · intro none
      cases none
    · intro same
      exact absurd ⟨same ▸ e.first_le, same ▸ e.le_last⟩ outside

/-- The days of a probe window are the day that is asked for and the three before it. -/
theorem mem_probeWindow_iff {d e : Date} :
  e ∈ d.probeWindow ↔ e.dayNumber ≤ d.dayNumber ∧ d.dayNumber ≤ e.dayNumber + 3
  := by
  simp only [probeWindow, probeDays, List.mem_filterMap, List.mem_range, back?_eq_some_iff]
  constructor
  · rintro ⟨days, few, back⟩
    omega
  · rintro ⟨le, near⟩
    use (d.dayNumber - e.dayNumber).toNat
    omega

/-- The days of a lagged window are the three before today. -/
theorem mem_laggedWindow_iff {today e : Date} :
  e ∈ today.laggedWindow ↔ e.dayNumber < today.dayNumber ∧ today.dayNumber ≤ e.dayNumber + 3
  := by
  simp only [laggedWindow, probeDays, List.mem_filterMap, List.mem_range'_1, back?_eq_some_iff]
  constructor
  · rintro ⟨days, few, back⟩
    omega
  · rintro ⟨lt, near⟩
    use (today.dayNumber - e.dayNumber).toNat
    omega

/-- Days that are counted back from a day, further and further, are in descending order. -/
theorem pairwise_filterMap_back? (d : Date) {counts : List Nat}
    (ascending : counts.Pairwise (· < ·)) :
  (counts.filterMap d.back?).Pairwise (fun later earlier => earlier < later)
  := by
  apply ascending.filterMap
  intro m n lt later hm earlier hn
  rw [back?_eq_some_iff] at hm hn
  show earlier.dayNumber < later.dayNumber
  omega

theorem pairwise_probeWindow (d : Date) :
  d.probeWindow.Pairwise (fun later earlier => earlier < later)
  := pairwise_filterMap_back? d List.pairwise_lt_range

theorem pairwise_laggedWindow (today : Date) :
  today.laggedWindow.Pairwise (fun later earlier => earlier < later)
  := pairwise_filterMap_back? today List.pairwise_lt_range'

/-- Of days in descending order the first one with a property is the latest one. -/
theorem find?_eq_some_iff_latest {days : List Date} {p : Date → Bool} {day : Date}
    (descending : days.Pairwise (fun later earlier => earlier < later)) :
  days.find? p = some day
    ↔ day ∈ days ∧ p day = true ∧ ∀ later ∈ days, day < later → p later = false
  := by
  rw [List.find?_eq_some_iff_append]
  constructor
  · rintro ⟨holds, before, after, rfl, fails⟩
    obtain ⟨-, fromDay, -⟩ := List.pairwise_append.1 descending
    refine ⟨by simp, holds, ?_⟩
    intro later mem lt
    obtain mem | mem := List.mem_append.1 mem
    · simpa using fails later mem
    · obtain rfl | mem := List.mem_cons.1 mem
      · exact absurd lt (KeyOrder.irrefl _)
      · exact absurd (KeyOrder.trans lt ((List.pairwise_cons.1 fromDay).1 later mem))
          (KeyOrder.irrefl _)
  · rintro ⟨mem, holds, fails⟩
    obtain ⟨before, after, rfl⟩ := List.append_of_mem mem
    refine ⟨holds, before, after, rfl, ?_⟩
    intro later mem
    have lt := (List.pairwise_append.1 descending).2.2 later mem day List.mem_cons_self
    rw [fails later (List.mem_append_left _ mem) lt]
    rfl

end CrossRate.Date
