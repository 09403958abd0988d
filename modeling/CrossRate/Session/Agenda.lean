/-!
# Agendas

An `Agenda` lists what is due and when. What is due at the same time comes in the order in
which it was noted, except that urgent events come first. Noting an event keeps the order of
the times (`ascending_add`, `ascending_addUrgent`).
-/

namespace CrossRate

/-- Events and the times at which they are due, earliest first. -/
structure Agenda (ε : Type) where
  entries : List (Nat × ε) := []

namespace Agenda

variable {ε : Type}

/-- An entry put after those that pass a test. -/
def insertAfter (test : Nat × ε → Bool) (entry : Nat × ε) (l : List (Nat × ε)) :
    List (Nat × ε) :=
  l.takeWhile test ++ entry :: l.dropWhile test

/-- Note an event after all that are due by then. -/
def add (a : Agenda ε) (due : Nat) (event : ε) : Agenda ε :=
  ⟨insertAfter (fun e => e.1 ≤ due) (due, event) a.entries⟩

/-- Note an event before all others that are due at its time. -/
def addUrgent (a : Agenda ε) (due : Nat) (event : ε) : Agenda ε :=
  ⟨insertAfter (fun e => e.1 < due) (due, event) a.entries⟩

/-- The entries come in the order of their times. -/
def Ascending (a : Agenda ε) : Prop := a.entries.Pairwise (fun e f => e.1 ≤ f.1)

/-- An entry that is put between earlier and later ones keeps the order. -/
theorem pairwise_insertAfter {l : List (Nat × ε)} (h : l.Pairwise (fun e f => e.1 ≤ f.1))
    {test : Nat × ε → Bool} {entry : Nat × ε} (earlier : ∀ e, test e → e.1 ≤ entry.1)
    (later : ∀ e, ¬ test e → entry.1 ≤ e.1) :
  (insertAfter test entry l).Pairwise (fun e f => e.1 ≤ f.1)
  := by
  induction l with
  | nil => simp [insertAfter]
  | cons e rest ih =>
    obtain ⟨head, tail⟩ := List.pairwise_cons.1 h
    by_cases passes : test e
    · have shape : insertAfter test entry (e :: rest) = e :: insertAfter test entry rest := by
        simp [insertAfter, passes]
      rw [shape]
      refine List.pairwise_cons.2 ⟨fun f hf => ?_, ih tail⟩
      rcases List.mem_append.1 hf with hf | hf
      · exact head f ((List.takeWhile_sublist _).mem hf)
      · rcases List.mem_cons.1 hf with rfl | hf
        · exact earlier e passes
        · exact head f ((List.dropWhile_sublist _).mem hf)
    · have shape : insertAfter test entry (e :: rest) = entry :: e :: rest := by
        simp [insertAfter, passes]
      rw [shape]
      refine List.pairwise_cons.2 ⟨fun f hf => ?_, h⟩
      rcases List.mem_cons.1 hf with rfl | hf
      · exact later f passes
      · exact Nat.le_trans (later e passes) (head f hf)

theorem ascending_add {a : Agenda ε} (h : a.Ascending) (due : Nat) (event : ε) :
  (a.add due event).Ascending
  := pairwise_insertAfter h (fun e he => by simpa using he) (fun e he => by
    simp only [decide_eq_true_eq] at he
    exact Nat.le_of_not_le he)

theorem ascending_addUrgent {a : Agenda ε} (h : a.Ascending) (due : Nat) (event : ε) :
  (a.addUrgent due event).Ascending
  := pairwise_insertAfter h (fun e he => Nat.le_of_lt (by simpa using he)) (fun e he => by
    simpa using he)

/-- The first event, when it is due, and the agenda without it. -/
def next? (a : Agenda ε) : Option (Nat × ε × Agenda ε) :=
  match a.entries with
  | [] => none
  | (due, event) :: rest => some (due, event, ⟨rest⟩)

end Agenda

end CrossRate
