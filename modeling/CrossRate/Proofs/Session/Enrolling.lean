import CrossRate.Proofs.Loading.Enlisting
import CrossRate.Proofs.Session.Settling

/-!
# Loads that are started

A load that is started in the background of a session at work is one more load under way
(`Session.IsAtWork.start`), and so is one that is waited for (`Session.IsAtWork.load`). The latter
gets its turn at once if its resource is not being loaded. Other changes of a desk, such as a
provider that is added or notes how its first load has ended, start no load
(`Session.IsAtWork.setDesk`).
-/

namespace CrossRate.Session

variable {s s' : Session} {place : Nat} {r : Resource} {payload : Bytes}

/-- A desk is put in place of one at which as many loads had been begun and all that was at hand
there still is. -/
theorem IsAtWork.setDesk (h : s.IsAtWork place) {d : Desk}
    (keeps : (s.desk place).Keeps d)
    (begun : d.loader.counts.begun = (s.desk place).loader.counts.begun)
    (supplies : ∀ number id, (s.desk place).Supplies number id →
      d.Supplies number id ∧ d.successes number = (s.desk place).successes number) :
  (s.setDesk d place).IsAtWork place ∧ Settles place [] s (s.setDesk d place)
  := by
  have desk : (s.setDesk d place).desk place = d := desk_setDesk d h.seated
  have underway : (s.setDesk d place).underway = s.underway :=
    underway_eq (events_setDesk _ _ _) (queue_setDesk _ _ _) (errands_setDesk _ _ _)
  have keeps : Keeps place s (s.setDesk d place) := by
    refine ⟨length_others_setDesk s d place, Nat.le_of_eq (loads_setDesk s d place).symm, ?_⟩
    rw [desk]
    apply keeps
  constructor
  · apply h.of_keeps keeps
    · apply events_setDesk
    · apply queue_setDesk
    · apply errands_setDesk
    · apply busy_setDesk
  · constructor
    case keeps => apply keeps
    case begun => rw [desk, underway, begun, List.length_nil, Nat.add_zero]
    case awaited =>
      intro id
      rw [underway]
      apply Nat.le_add_right
    case supplies =>
      intro number id there
      obtain ⟨there, same⟩ := supplies number id there
      rw [desk, underway, same]
      exact ⟨there, rfl⟩

/-- A load that is started in the background is under way. -/
theorem IsAtWork.start (h : s.IsAtWork place) (holds : (s.desk place).Holds r payload) :
  (s.start place r.id .started).2.IsAtWork place
    ∧ Settles place [r.id] s (s.start place r.id .started).2
  := by
  let t : Task := ⟨s.loads, place, r.id, .full, .started⟩
  let numbered : Session := { s with loads := s.loads + 1 }
  have started : (s.start place r.id .started).2 = numbered.plan s.now (.begin t) := rfl
  have numbering : Moves place 0 [] [] s numbered :=
    ⟨rfl, Nat.le_succ _, .refl _, rfl, fun P => rfl⟩
  have planning : Moves place 0 [] [⟨.started, t⟩] numbered (numbered.plan s.now (.begin t)) :=
    moves_plan numbered s.now (.begin t)
  have moves : Moves place 0 [] [⟨.started, t⟩] s (numbered.plan s.now (.begin t)) :=
    numbering.trans planning
  have task : t.IsAtHand place (numbered.plan s.now (.begin t)) r payload :=
    ⟨rfl, by simp [t], Nat.lt_succ_self _, rfl, moves.keeps.desk.holds holds⟩
  rw [started]
  constructor
  · constructor
    · apply h.toIsAtHand.of_keeps moves.keeps _ (fun e => .inl) (fun e => .inl)
      intro e mem
      obtain rfl | old := List.mem_cons.1 ((events_plan _ _ _).mem_iff.1 mem)
      · exact .inr ⟨rfl, r, payload, task⟩
      · apply Or.inl old
    · apply moves.underway.takesTurns_of_busy h.toTakesTurns rfl
      · simp [Passage.isActive]
      · simp [Passage.isQueued]
  · apply moves.settles
    · simp [Passage.isUnbegun]
    · intro id
      simp [Passage.isAwaited, List.countP_singleton, List.count_singleton, t]

/-- A load that is waited for gets its turn at once if its resource is not being loaded. -/
theorem IsAtWork.load (h : s.IsAtWork place) (holds : (s.desk place).Holds r payload)
    (free : (place, r.id) ∉ s.busy) :
  (load place r.id .atHand s).2.IsAtWork place
    ∧ Settles place [r.id] s (load place r.id .atHand s).2
  := by
  let t : Task := ⟨s.loads, place, r.id, .atHand, .done⟩
  let numbered : Session := { s with loads := s.loads + 1 }
  have numbering : Moves place 0 [] [] s numbered :=
    ⟨rfl, Nat.le_succ _, .refl _, rfl, fun P => rfl⟩
  have task : t.IsAtHand place numbered r payload :=
    ⟨rfl, by simp [t], Nat.lt_succ_self _, rfl, holds⟩
  have atHand : numbered.IsAtHand place := h.toIsAtHand.of_same numbering.keeps rfl rfl rfl
  obtain ⟨atHand, ⟨busy, -⟩ | ⟨-, busy, queue, moves⟩⟩ :=
    isAtHand_begin atHand task (fun busy => absurd busy free)
  · exact absurd busy free
  · have moves := numbering.trans moves
    have begun : (numbered.begin t).IsAtWork place := by
      use atHand
      apply moves.underway.takesTurns_of_free h.toTakesTurns free busy
      simp
    have settles : Settles place [r.id] s (numbered.begin t) := by
      apply moves.settles
      · simp [Passage.isUnbegun]
      · intro id
        simp [Passage.isAwaited, List.countP_singleton, List.count_singleton, t]
    -- The numbers of the loads in the queue are smaller.
    have entered : awaitTurn t (numbered.begin t) = numbered.begin t := by
      have none : (numbered.begin t).queue.find? (·.1.number = t.number) = none := by
        rw [queue, List.find?_eq_none]
        intro e mem
        obtain ⟨-, payload', earlier⟩ := h.queue e mem
        have smaller := earlier.number
        simp [t]
        omega
      rw [awaitTurn, none]
    have loaded : (Session.load place r.id .atHand s).2
        = (awaitTurn t (numbered.begin t)).runUntil true (·.outcomes.contains t.number) none := rfl
    rw [loaded, entered]
    obtain ⟨atWork, runs⟩ := begun.runs (runs_runUntil _ true (·.outcomes.contains t.number) none)
    exact ⟨atWork, settles.trans runs⟩

/-- A provider that notes how its first load has ended loads nothing. -/
theorem IsAtWork.noteFirstLoad (h : s.IsAtWork place) (number : Nat)
    (outcome : Except LoadError Layer) :
  (s.modifyDesk place (·.noteFirstLoad number outcome)).IsAtWork place
    ∧ Settles place [] s (s.modifyDesk place (·.noteFirstLoad number outcome))
  := by
  apply h.setDesk ((s.desk place).keeps_noteFirstLoad number outcome)
  · cases outcome <;> rfl
  · intro number' id supplies
    apply supplies.noteFirstLoad

theorem IsAtWork.watch (h : s.IsAtWork place) (load number : Nat) :
  (watch place load number s).IsAtWork place ∧ Settles place [] s (watch place load number s)
  := by
  rw [Session.watch]
  split
  · apply h.noteFirstLoad
  · exact h.of_same rfl rfl rfl rfl rfl rfl rfl

end CrossRate.Session
