import CrossRate.Proofs.Loading.AtHand
import CrossRate.Proofs.Session.Lawful

/-!
# Loads under way

The loads that are under way in a session are found in its events, in the queue and among the
errands, each in one of five phases (`Session.underway`). If all of them are loads of what is at
hand at one desk (`Session.IsAtHand`), each step moves one load from one phase to the next and
leaves the others where they are (`Session.Moves`): a load that begins either has to be delivered
next or waits for its turn (`Session.isAtHand_begin`), and one that ends gives its turn to the next
load of its resource, if there is one (`Session.isAtHand_finish`).
-/

namespace CrossRate

/-- How far a load has come. -/
inductive Phase where
  /-- It has been started, but has not begun. -/
  | started
  /-- It waits for its turn. -/
  | queued
  /-- Its turn has come. -/
  | called
  /-- Its payload is to be delivered. -/
  | loaded
  /-- Its payload has been delivered. -/
  | delivered
deriving DecidableEq

/-- A load that is under way. -/
structure Passage where
  phase : Phase
  task : Task

/-- What an event shows of the loads that are under way. -/
def Event.underway : Event → List Passage
  | .begin t => [⟨.started, t⟩]
  | .turn t _ => [⟨.called, t⟩]
  | .finish t _ _ => [⟨.delivered, t⟩]
  | _ => []

/-- What an errand shows of the loads that are under way. -/
def Errand.underway (t : Task) : Errand → List Passage
  | .deliver _ => [⟨.loaded, t⟩]
  | .useFile next => next.underway

namespace Passage

/-- Whether a load has not begun. -/
def isUnbegun (p : Passage) : Bool := p.phase = .started

/-- Whether a load of a resource waits for its turn. -/
def isQueued (id : String) (p : Passage) : Bool := p.phase = .queued && p.task.id = id

/-- Whether it is the turn of a load of a resource. -/
def isActive (id : String) (p : Passage) : Bool :=
  p.phase ≠ .started && p.phase ≠ .queued && p.task.id = id

/-- Whether the payload of a load of a resource is still to be delivered. -/
def isAwaited (id : String) (p : Passage) : Bool := p.phase ≠ .delivered && p.task.id = id

end Passage

namespace Session

variable {s s' s'' : Session} {place : Nat} {t : Task} {r : Resource} {payload : Bytes}

/-- The events that are to happen, some of them later. -/
def events (s : Session) : List Event := s.agenda.entries.map Prod.snd ++ s.returned

/-- The loads that are under way. -/
def underway (s : Session) : List Passage :=
  s.events.flatMap Event.underway ++ s.queue.map (fun e => ⟨.queued, e.1⟩)
    ++ s.errands.flatMap (fun e => e.2.underway e.1)

theorem perm_insertAfter {ε : Type} (test : Nat × ε → Bool) (entry : Nat × ε)
    (l : List (Nat × ε)) :
  (Agenda.insertAfter test entry l).Perm (entry :: l)
  := by
  rw [Agenda.insertAfter]
  apply List.perm_middle.trans
  rw [List.takeWhile_append_dropWhile]

theorem events_plan (s : Session) (due : Nat) (event : Event) :
  (s.plan due event).events.Perm (event :: s.events)
  := ((perm_insertAfter _ _ _).map Prod.snd).append_right s.returned

theorem events_planUrgent (s : Session) (due : Nat) (event : Event) :
  (s.planUrgent due event).events.Perm (event :: s.events)
  := ((perm_insertAfter _ _ _).map Prod.snd).append_right s.returned

theorem events_planReturn (s : Session) (t : Task) (event : Event) :
  (s.planReturn t event).events.Perm (event :: s.events)
  := by
  rw [planReturn]
  split
  · apply events_planUrgent
  · rw [events, ← List.append_assoc]
    apply List.perm_append_singleton

/-- What is due is one of the events, and the others remain. -/
theorem exists_of_nextDue? {event : Event} (h : s.nextDue? = some (event, s')) :
  ∃ agenda returned, s' = { s with agenda := agenda, returned := returned }
    ∧ s.events.Perm (event :: s'.events)
  := by
  have returned (h : s.nextReturned? = some (event, s')) :
      ∃ agenda returned, s' = { s with agenda := agenda, returned := returned }
        ∧ s.events.Perm (event :: s'.events) := by
    rw [nextReturned?] at h
    split at h
    · cases h
    · rename_i returned
      obtain ⟨rfl, rfl⟩ := Prod.mk.inj (Option.some.inj h)
      refine ⟨_, _, rfl, ?_⟩
      rw [events, returned]
      apply List.perm_middle
  rw [nextDue?] at h
  split at h
  · rename_i due event' agenda next
    split at h
    · obtain ⟨rfl, rfl⟩ := Prod.mk.inj (Option.some.inj h)
      refine ⟨_, _, rfl, ?_⟩
      rw [Agenda.next?] at next
      split at next
      · cases next
      · rename_i entries
        obtain ⟨rfl, rfl⟩ : event' = _ ∧ agenda = _ := by
          simpa [eq_comm] using (Prod.mk.inj (Option.some.inj next)).2
        rw [events, entries]
        apply List.Perm.refl
    · apply returned h
  · apply returned h

/-! ### Desks -/

@[simp]
theorem events_setDesk (s : Session) (d : Desk) (number : Nat) :
  (s.setDesk d number).events = s.events
  := by cases number <;> rfl

@[simp]
theorem queue_setDesk (s : Session) (d : Desk) (number : Nat) :
  (s.setDesk d number).queue = s.queue
  := by cases number <;> rfl

@[simp]
theorem errands_setDesk (s : Session) (d : Desk) (number : Nat) :
  (s.setDesk d number).errands = s.errands
  := by cases number <;> rfl

@[simp]
theorem busy_setDesk (s : Session) (d : Desk) (number : Nat) :
  (s.setDesk d number).busy = s.busy
  := by cases number <;> rfl

@[simp]
theorem loads_setDesk (s : Session) (d : Desk) (number : Nat) :
  (s.setDesk d number).loads = s.loads
  := by cases number <;> rfl

theorem setDesk_setDesk (s : Session) (d d' : Desk) (number : Nat) :
  (s.setDesk d number).setDesk d' number = s.setDesk d' number
  := by cases number <;> simp [setDesk]

end Session

/-! ### What is at hand -/

/-- A task is a load of what is at hand at a desk. -/
structure Task.IsAtHand (t : Task) (place : Nat) (s : Session) (r : Resource) (payload : Bytes) :
    Prop where
  desk : t.desk = place
  way : t.way ≠ .restore
  number : t.number < s.loads
  id : t.id = r.id
  holds : (s.desk place).Holds r payload

/-- An event is one of a load of what is at hand. -/
def Event.IsAtHand (place : Nat) (s : Session) : Event → Prop
  | .begin t => t.isUrgent = false ∧ ∃ r payload, t.IsAtHand place s r payload
  | .turn t r => ∃ payload, t.IsAtHand place s r payload
  | .finish t outcome _ => (∃ r payload, t.IsAtHand place s r payload)
    ∧ ∃ layer, outcome = .ok layer
  | _ => False

/-- An errand is to deliver what is at hand. -/
def Errand.IsAtHand (place : Nat) (s : Session) (t : Task) : Errand → Prop
  | .deliver ending => ∃ r layer payload, t.IsAtHand place s r payload
    ∧ ending = .served layer payload
  | _ => False

namespace Session

/-- All loads that are under way are loads of what is at hand at one desk. -/
structure IsAtHand (place : Nat) (s : Session) : Prop where
  seated : place ≤ s.others.length
  events : ∀ e ∈ s.events, e.IsAtHand place s
  queue : ∀ e ∈ s.queue, e.1.isUrgent = false ∧ ∃ payload, e.1.IsAtHand place s e.2 payload
  errands : ∀ e ∈ s.errands, e.2.IsAtHand place s e.1

/-- The loads of each resource at a desk take turns: it is the turn of one of them if the resource
is being loaded, and if it is not no load waits either. -/
structure TakesTurns (place : Nat) (s : Session) : Prop where
  busy : ∀ e ∈ s.busy, e.1 = place
  active (id : String) :
    s.underway.countP (·.isActive id) = if (place, id) ∈ s.busy then 1 else 0
  queued (id : String) : 0 < s.underway.countP (·.isQueued id) → (place, id) ∈ s.busy

/-- What was at hand at a desk still is. -/
structure Keeps (place : Nat) (s s' : Session) : Prop where
  others : s'.others.length = s.others.length
  loads : s.loads ≤ s'.loads
  desk : (s.desk place).Keeps (s'.desk place)

variable {s s' s'' : Session} {place : Nat} {t : Task} {r : Resource} {payload : Bytes} {e : Event}

theorem Keeps.task (keeps : Keeps place s s') (h : t.IsAtHand place s r payload) :
  t.IsAtHand place s' r payload
  := ⟨h.desk, h.way, Nat.lt_of_lt_of_le h.number keeps.loads, h.id, keeps.desk.holds h.holds⟩

theorem Keeps.event (keeps : Keeps place s s') (h : e.IsAtHand place s) : e.IsAtHand place s'
  := by
  cases e with
  | begin t =>
    obtain ⟨calm, r, payload, task⟩ := h
    exact ⟨calm, r, payload, keeps.task task⟩
  | turn t r =>
    obtain ⟨payload, task⟩ := h
    exact ⟨payload, keeps.task task⟩
  | finish t outcome report =>
    obtain ⟨⟨r, payload, task⟩, served⟩ := h
    exact ⟨⟨r, payload, keeps.task task⟩, served⟩
  | _ => apply h

theorem Keeps.errand (keeps : Keeps place s s') {errand : Errand}
    (h : errand.IsAtHand place s t) :
  errand.IsAtHand place s' t
  := by
  cases errand with
  | deliver ending =>
    obtain ⟨r, layer, payload, task, served⟩ := h
    exact ⟨r, layer, payload, keeps.task task, served⟩
  | useFile next => apply h

/-- Each load that is under way is one of what is at hand. -/
theorem IsAtHand.exists_isAtHand (h : s.IsAtHand place) {p : Passage} (mem : p ∈ s.underway) :
  ∃ r payload, p.task.IsAtHand place s r payload
  := by
  rw [underway, List.mem_append, List.mem_append, List.mem_flatMap, List.mem_map,
    List.mem_flatMap] at mem
  obtain (⟨e, event, shown⟩ | ⟨e, waiting, rfl⟩) | ⟨⟨t, e⟩, errand, shown⟩ := mem
  · have atHand := h.events e event
    cases e with
    | begin t =>
      obtain rfl := List.mem_singleton.1 shown
      apply atHand.2
    | turn t r =>
      obtain rfl := List.mem_singleton.1 shown
      exact ⟨r, atHand⟩
    | finish t outcome report =>
      obtain rfl := List.mem_singleton.1 shown
      apply atHand.1
    | _ => cases shown
  · exact ⟨e.2, (h.queue e waiting).2⟩
  · have atHand := h.errands (t, e) errand
    cases e with
    | deliver ending =>
      obtain rfl := List.mem_singleton.1 shown
      obtain ⟨r, -, payload, task, -⟩ := atHand
      exact ⟨r, payload, task⟩
    | useFile next => exact absurd atHand id

/-- Nothing comes to be under way but loads of what is at hand. -/
theorem IsAtHand.of_keeps (h : s.IsAtHand place) (keeps : Keeps place s s')
    (events : ∀ e ∈ s'.events, e ∈ s.events ∨ e.IsAtHand place s')
    (queue : ∀ e ∈ s'.queue, e ∈ s.queue
      ∨ e.1.isUrgent = false ∧ ∃ payload, e.1.IsAtHand place s' e.2 payload)
    (errands : ∀ e ∈ s'.errands, e ∈ s.errands ∨ e.2.IsAtHand place s' e.1) :
  s'.IsAtHand place
  where
  seated := by
    rw [keeps.others]
    apply h.seated
  events := by
    intro e mem
    obtain old | new := events e mem
    · apply keeps.event (h.events e old)
    · apply new
  queue := by
    intro e mem
    obtain old | new := queue e mem
    · obtain ⟨calm, payload, task⟩ := h.queue e old
      exact ⟨calm, payload, keeps.task task⟩
    · apply new
  errands := by
    intro e mem
    obtain old | new := errands e mem
    · apply keeps.errand (h.errands e old)
    · apply new

theorem IsAtHand.of_same (h : s.IsAtHand place) (keeps : Keeps place s s')
    (events : s'.events = s.events) (queue : s'.queue = s.queue)
    (errands : s'.errands = s.errands) :
  s'.IsAtHand place
  := by
  apply h.of_keeps keeps
  · intro e mem
    rw [events] at mem
    apply Or.inl mem
  · intro e mem
    rw [queue] at mem
    apply Or.inl mem
  · intro e mem
    rw [errands] at mem
    apply Or.inl mem

/-! ### How loads move on -/

/-- Of the loads that are under way some have gone and others come. -/
def Shifts (gone come : List Passage) (s s' : Session) : Prop :=
  ∀ P : Passage → Bool,
    s'.underway.countP P + gone.countP P = s.underway.countP P + come.countP P

theorem Shifts.trans {gone come gone' come' : List Passage} (h : Shifts gone come s s')
    (h' : Shifts gone' come' s' s'') :
  Shifts (gone ++ gone') (come ++ come') s s''
  := by
  intro P
  have first := h P
  have second := h' P
  rw [List.countP_append, List.countP_append]
  omega

/-- Some loads have begun at a desk, and of those under way some have gone and others come. -/
structure Moves (place begun : Nat) (gone come : List Passage) (s s' : Session) : Prop where
  others : s'.others.length = s.others.length
  loads : s.loads ≤ s'.loads
  stock : (s.desk place).SameStock (s'.desk place)
  begun : (s'.desk place).loader.counts.begun = (s.desk place).loader.counts.begun + begun
  underway : Shifts gone come s s'

theorem Moves.keeps {begun : Nat} {gone come : List Passage}
    (h : Moves place begun gone come s s') :
  Keeps place s s'
  := ⟨h.others, h.loads, h.stock.keeps⟩

theorem Moves.trans {begun begun' : Nat} {gone come gone' come' : List Passage}
    (h : Moves place begun gone come s s') (h' : Moves place begun' gone' come' s' s'') :
  Moves place (begun + begun') (gone ++ gone') (come ++ come') s s''
  where
  others := h'.others.trans h.others
  loads := Nat.le_trans h.loads h'.loads
  stock := h.stock.trans h'.stock
  begun := by rw [h'.begun, h.begun, Nat.add_assoc]
  underway := h.underway.trans h'.underway

/-- A desk is put in place of one with the same stock. -/
theorem moves_setDesk (seated : place ≤ s.others.length) {d : Desk}
    (stock : (s.desk place).SameStock d) {begun : Nat}
    (counts : d.loader.counts.begun = (s.desk place).loader.counts.begun + begun) :
  Moves place begun [] [] s (s.setDesk d place)
  where
  others := length_others_setDesk s d place
  loads := Nat.le_of_eq (loads_setDesk s d place).symm
  stock := by
    rw [desk_setDesk d seated]
    apply stock
  begun := by
    rw [desk_setDesk d seated]
    apply counts
  underway := by
    intro P
    simp [underway]

theorem countP_of_events_perm (events : s'.events.Perm (e :: s.events)) (queue : s'.queue = s.queue)
    (errands : s'.errands = s.errands) (P : Passage → Bool) :
  s'.underway.countP P = s.underway.countP P + e.underway.countP P
  := by
  have shown := (events.flatMap_right Event.underway).countP_eq P
  rw [List.flatMap_cons, List.countP_append] at shown
  simp only [underway, queue, errands, List.countP_append, shown]
  omega

theorem moves_plan (s : Session) (due : Nat) (event : Event) :
  Moves place 0 [] event.underway s (s.plan due event)
  := ⟨rfl, Nat.le_refl _, .refl _, rfl, countP_of_events_perm (events_plan s due event) rfl rfl⟩

theorem moves_send (s : Session) (t : Task) (errand : Errand) :
  Moves place 0 [] (errand.underway t) s (s.send t errand)
  where
  others := rfl
  loads := Nat.le_refl _
  stock := .refl _
  begun := rfl
  underway := by
    intro P
    have events : (s.send t errand).events = s.events := rfl
    have errands : (s.send t errand).errands = s.errands ++ [(t, errand)] := rfl
    have queue : (s.send t errand).queue = s.queue := rfl
    simp [underway, events, errands, queue, Nat.add_assoc]

/-! ### The course of a load -/

/-- What is at hand is loaded at once, and then has to be delivered. -/
theorem exists_enter_eq (h : t.IsAtHand place s r payload) :
  ∃ d layer, s.enter t r = (s.setDesk d place).send t (.deliver (.served layer payload))
    ∧ (s.desk place).SameStock d
    ∧ d.loader.counts.begun = (s.desk place).loader.counts.begun
  := by
  obtain ⟨name, backup, embedded, rfl⟩ := h.holds.embedded
  have local' : ((s.desk place).loader.firstStage r t.way) = .storing (.look []) := by
    have offline := h.holds.offline
    have way := h.way
    cases way' : t.way with
    | full => simp [Loader.firstStage, Loader.wayOf, offline]
    | atHand => simp [Loader.firstStage, Loader.wayOf]
    | restore => exact absurd way' way
  rw [enter, h.desk, local', proceed, h.desk]
  have memory : StoreUse.fileUses (.look []) (s.desk place).loader.storage = 0 := h.holds.memory
  simp only [memory]
  obtain bare | ⟨payload, read, filled⟩ := (s.desk place).loader.storage.isBare_or_filled r.id
  · obtain ⟨reasons, stored⟩ := Desk.exists_stored_eq bare embedded
    rw [stored]
    dsimp only
    rw [setDesk_desk, proceed, h.desk, Storage.payloadOr_of_isBare bare]
    simp only [Question.location, Desk.answerOf, Desk.readsFile, Bool.false_eq_true, if_false,
      if_true, Desk.answered, Loader.answered]
    rw [proceed, close]
    refine ⟨_, _, rfl, ⟨⟨rfl, rfl, rfl, rfl⟩, rfl, rfl⟩, rfl⟩
  · obtain ⟨b, bs, rfl⟩ := List.exists_cons_of_ne_nil filled
    rw [Storage.payloadOr_of_read read filled]
    simp only [Desk.stored, Loader.stored, Loader.tryStore, read]
    rw [proceed, close]
    refine ⟨_, _, rfl, ⟨⟨rfl, rfl, rfl, rfl⟩, rfl, rfl⟩, rfl⟩

/-- A load that gets its turn has to be delivered next. -/
theorem isAtHand_enter (h : s.IsAtHand place) (task : t.IsAtHand place s r payload) :
  (s.enter t r).IsAtHand place ∧ Moves place 0 [] [⟨.loaded, t⟩] s (s.enter t r)
    ∧ (s.enter t r).busy = s.busy ∧ (s.enter t r).queue = s.queue
  := by
  obtain ⟨d, layer, entered, stock, begun⟩ := exists_enter_eq task
  let errand : Errand := .deliver (.served layer payload)
  have moves : Moves place 0 [] [⟨.loaded, t⟩] s (s.enter t r) := by
    have put : Moves place 0 [] [] s (s.setDesk d place) := moves_setDesk h.seated stock begun
    rw [entered]
    apply put.trans (moves_send _ t errand)
  have events : (s.enter t r).events = s.events := by
    rw [entered]
    apply events_setDesk
  have queue : (s.enter t r).queue = s.queue := by
    rw [entered]
    apply queue_setDesk
  have errands : (s.enter t r).errands = s.errands ++ [(t, errand)] := by
    rw [entered, send, errands_setDesk]
  refine ⟨?_, moves, ?_, queue⟩
  · apply h.of_keeps moves.keeps
    · intro e mem
      rw [events] at mem
      apply Or.inl mem
    · intro e mem
      rw [queue] at mem
      apply Or.inl mem
    · intro e mem
      rw [errands, List.mem_append, List.mem_singleton] at mem
      obtain old | rfl := mem
      · apply Or.inl old
      · exact .inr ⟨r, layer, payload, moves.keeps.task task, rfl⟩
  · rw [entered]
    apply busy_setDesk

/-- The session with a load counted that begins. -/
def counting (s : Session) (t : Task) : Session :=
  s.modifyDesk t.desk (·.modifyLoader (·.counting t.way))

/-- The session with a load in the queue. -/
def queueing (s : Session) (t : Task) (r : Resource) : Session :=
  { s with queue := s.queue ++ [(t, r)] }

theorem moves_queueing (s : Session) (t : Task) (r : Resource) :
  Moves place 0 [] [⟨.queued, t⟩] s (s.queueing t r)
  where
  others := rfl
  loads := Nat.le_refl _
  stock := .refl _
  begun := rfl
  underway := by
    intro P
    have events : (s.queueing t r).events = s.events := rfl
    have queue : (s.queueing t r).queue = s.queue ++ [(t, r)] := rfl
    have errands : (s.queueing t r).errands = s.errands := rfl
    simp only [underway, events, queue, errands, List.map_append, List.map_singleton,
      List.countP_append, List.countP_nil]
    omega

/-- The session with the resource of a load being loaded. -/
def claiming (s : Session) (t : Task) : Session := { s with busy := (t.desk, t.id) :: s.busy }

theorem begin_eq (found : (s.desk t.desk).loader.find t.id = .ok r) :
  s.begin t
    = if (t.desk, t.id) ∈ s.busy then (s.counting t).queueing t r
      else ((s.counting t).claiming t).enter t r
  := by
  have busy : (s.counting t).busy = s.busy := busy_setDesk _ _ _
  rw [begin, found, ← busy]
  simp only [List.contains_eq_mem, decide_eq_true_eq]
  rfl

theorem moves_counting (h : s.IsAtHand place) (task : t.IsAtHand place s r payload) :
  Moves place 1 [] [] s (s.counting t)
  := by
  rw [counting, task.desk]
  apply moves_setDesk h.seated (Desk.sameStock_counting _ _)
  cases way : t.way with
  | restore => exact absurd way task.way
  | _ => rfl

theorem isAtHand_counting (h : s.IsAtHand place) (task : t.IsAtHand place s r payload) :
  (s.counting t).IsAtHand place
  := h.of_same (moves_counting h task).keeps (events_setDesk _ _ _) (queue_setDesk _ _ _)
    (errands_setDesk _ _ _)

/-- A load that begins has to be delivered next if its resource is not being loaded, and else it
waits for its turn. -/
theorem isAtHand_begin (h : s.IsAtHand place) (task : t.IsAtHand place s r payload)
    (calm : (place, t.id) ∈ s.busy → t.isUrgent = false) :
  (s.begin t).IsAtHand place
    ∧ ((place, t.id) ∈ s.busy ∧ (s.begin t).busy = s.busy
          ∧ Moves place 1 [] [⟨.queued, t⟩] s (s.begin t)
      ∨ (place, t.id) ∉ s.busy ∧ (s.begin t).busy = (place, t.id) :: s.busy
          ∧ (s.begin t).queue = s.queue ∧ Moves place 1 [] [⟨.loaded, t⟩] s (s.begin t))
  := by
  have counted := moves_counting h task
  have task' := counted.keeps.task task
  have atHand := isAtHand_counting h task
  have busy : (s.counting t).busy = s.busy := busy_setDesk _ _ _
  have found : (s.desk t.desk).loader.find t.id = .ok r := by
    rw [task.desk, task.id, task.holds.registered]
  rw [begin_eq found, task.desk]
  split
  · rename_i waits
    have queueing : Moves place 0 [] [⟨.queued, t⟩] (s.counting t) ((s.counting t).queueing t r) :=
      moves_queueing _ t r
    have moves := counted.trans queueing
    refine ⟨?_, .inl ⟨waits, busy, moves⟩⟩
    apply atHand.of_keeps queueing.keeps (fun e => .inl) _ (fun e => .inl)
    intro e mem
    rw [Session.queueing, List.mem_append, List.mem_singleton] at mem
    obtain old | rfl := mem
    · apply Or.inl old
    · exact .inr ⟨calm waits, payload, queueing.keeps.task task'⟩
  · rename_i free
    have claiming : Moves place 0 [] [] (s.counting t) ((s.counting t).claiming t) :=
      ⟨rfl, Nat.le_refl _, .refl _, rfl, fun P => rfl⟩
    have atHand := atHand.of_same claiming.keeps rfl rfl rfl
    obtain ⟨entered, moves, busy', queue⟩ := isAtHand_enter atHand (claiming.keeps.task task')
    refine ⟨entered, .inr ⟨free, ?_, ?_, (counted.trans claiming).trans moves⟩⟩
    · rw [busy', Session.claiming, busy, task.desk]
    · rw [queue]
      apply queue_setDesk

/-- To be told that a load has succeeded changes nothing. -/
theorem exists_conclude_eq (s : Session) (t : Task) (layer : Layer) :
  ∃ outcomes, s.conclude t (.ok layer) = { s with outcomes := outcomes }
  := by
  have told (watches : List Watch) (s : Session) : watches.foldl
      (fun s w => s.modifyDesk w.desk (·.noteFirstLoad w.provider (.ok layer))) s = s := by
    induction watches generalizing s with
    | nil => rfl
    | cons w watches ih =>
      have same : s.modifyDesk w.desk (·.noteFirstLoad w.provider (.ok layer)) = s :=
        setDesk_desk s w.desk
      rw [List.foldl_cons, same, ih]
  rw [conclude]
  split
  · exact ⟨s.outcomes, rfl⟩
  · rw [told]
    exact ⟨_, rfl⟩

/-- The first load of a resource in the queue, and the others. -/
theorem exists_of_find?_queue {next : Task × Resource}
    (found : s.queue.find? (competes t) = some next) :
  next.1.desk = t.desk ∧ next.1.id = t.id
    ∧ s.queue.Perm (next :: s.queue.eraseP (competes t))
  := by
  obtain ⟨competing, before, after, queue, others⟩ := List.find?_eq_some_iff_append.1 found
  have same : next.1.desk = t.desk ∧ next.1.id = t.id := by simpa [competes] using competing
  refine ⟨same.1, same.2, ?_⟩
  have skip : ∀ e ∈ before, ¬ competes t e = true := by simpa using others
  rw [queue, List.eraseP_append_right _ skip, List.eraseP_cons_of_pos competing]
  apply List.perm_middle

/-- When a load gives its turn away, that of the next load of its resource has come, or the
resource is no longer being loaded. -/
theorem isAtHand_release (h : s.IsAtHand place) (desk : t.desk = place) :
  (s.release t).IsAtHand place
    ∧ ((∃ next : Task, next.id = t.id ∧ (s.release t).busy = s.busy
          ∧ Moves place 0 [⟨.queued, next⟩] [⟨.called, next⟩] s (s.release t))
      ∨ (∀ e ∈ s.queue, e.1.id ≠ t.id) ∧ (s.release t).busy = s.busy.filter (· ≠ (place, t.id))
          ∧ Moves place 0 [] [] s (s.release t))
  := by
  cases found : s.queue.find? (competes t) with
  | none =>
    have released : s.release t = { s with busy := s.busy.filter (· ≠ (place, t.id)) } := by
      rw [release, found, desk]
    have moves : Moves place 0 [] [] s (s.release t) := by
      rw [released]
      exact ⟨rfl, Nat.le_refl _, .refl _, rfl, fun P => rfl⟩
    refine ⟨?_, .inr ⟨?_, ?_, moves⟩⟩
    · apply h.of_same moves.keeps <;> rw [released]
      rfl
    · intro e mem same
      obtain ⟨-, payload, task⟩ := h.queue e mem
      have apart := List.find?_eq_none.1 found e mem
      simp [competes, same, task.desk, desk] at apart
    · rw [released]
  | some next =>
    obtain ⟨-, id, perm⟩ := exists_of_find?_queue found
    have mem : next ∈ s.queue := perm.mem_iff.2 List.mem_cons_self
    obtain ⟨calm, payload, task⟩ := h.queue next mem
    let left : Session := { s with queue := s.queue.eraseP (competes t) }
    have released : s.release t = left.soon (.turn next.1 next.2) := by
      rw [release, found]
      simp only [calm, Bool.false_eq_true, if_false]
      rfl
    have leaving : Moves place 0 [⟨.queued, next.1⟩] [] s left := by
      refine ⟨rfl, Nat.le_refl _, .refl _, rfl, fun P => ?_⟩
      have queue := (perm.map (fun e => Passage.mk .queued e.1)).countP_eq P
      rw [List.map_cons, List.countP_cons] at queue
      have events : left.events = s.events := rfl
      have errands : left.errands = s.errands := rfl
      simp only [underway, events, errands, List.countP_append, queue, List.countP_cons]
      simp only [left, List.countP_nil]
      omega
    have moves : Moves place 0 [⟨.queued, next.1⟩] [⟨.called, next.1⟩] s (s.release t) := by
      rw [released]
      apply leaving.trans (moves_plan left s.now (.turn next.1 next.2))
    refine ⟨?_, .inl ⟨next.1, id, ?_, moves⟩⟩
    · apply h.of_keeps moves.keeps
      · intro e mem
        rw [released] at mem
        obtain rfl | old := List.mem_cons.1 ((events_plan _ _ _).mem_iff.1 mem)
        · exact .inr ⟨payload, moves.keeps.task task⟩
        · apply Or.inl old
      · intro e mem
        rw [released] at mem
        apply Or.inl (List.mem_of_mem_eraseP mem)
      · intro e mem
        rw [released] at mem
        apply Or.inl mem
    · rw [released]
      rfl

/-- When the payload of a load has been delivered, its turn is given away. -/
theorem isAtHand_finish (h : s.IsAtHand place) (desk : t.desk = place) (layer : Layer)
    (report : DeliveryReport) :
  (s.finish t (.ok layer) report).IsAtHand place
    ∧ ((∃ next : Task, next.id = t.id ∧ (s.finish t (.ok layer) report).busy = s.busy
          ∧ Moves place 0 [⟨.queued, next⟩] [⟨.called, next⟩] s (s.finish t (.ok layer) report))
      ∨ (∀ e ∈ s.queue, e.1.id ≠ t.id)
          ∧ (s.finish t (.ok layer) report).busy = s.busy.filter (· ≠ (place, t.id))
          ∧ Moves place 0 [] [] s (s.finish t (.ok layer) report))
  := by
  let accounted := s.modifyDesk place (·.account report)
  have accounting : Moves place 0 [] [] s accounted :=
    moves_setDesk h.seated (Desk.sameStock_account _ report) rfl
  have busy : accounted.busy = s.busy := busy_setDesk _ _ _
  have queue : accounted.queue = s.queue := queue_setDesk _ _ _
  have kept : accounted.IsAtHand place :=
    h.of_same accounting.keeps (events_setDesk _ _ _) queue (errands_setDesk _ _ _)
  obtain ⟨outcomes, finished⟩ : ∃ outcomes, s.finish t (.ok layer) report
      = { accounted.release t with outcomes := outcomes } := by
    rw [finish, desk]
    apply exists_conclude_eq
  have concluding : Moves place 0 [] [] (accounted.release t) (s.finish t (.ok layer) report) := by
    rw [finished]
    exact ⟨rfl, Nat.le_refl _, .refl _, rfl, fun P => rfl⟩
  obtain ⟨released, next | last⟩ := isAtHand_release kept desk
  · obtain ⟨next, id, busy', moves⟩ := next
    refine ⟨?_, .inl ⟨next, id, ?_, (accounting.trans moves).trans concluding⟩⟩
    · apply released.of_same concluding.keeps <;> rw [finished]
      rfl
    · rw [finished, ← busy, ← busy']
  · obtain ⟨none, busy', moves⟩ := last
    refine ⟨?_, .inr ⟨?_, ?_, (accounting.trans moves).trans concluding⟩⟩
    · apply released.of_same concluding.keeps <;> rw [finished]
      rfl
    · rw [← queue]
      apply none
    · rw [finished, ← busy, ← busy']

end Session

end CrossRate
