import CrossRate.Proofs.Session.Underway

/-!
# How loads settle

Whatever happens while loads of what is at hand take turns, they go on taking turns, and nothing is
lost: the loads that have begun and those that still have to are as many as before, and so are the
successful loads of a provider together with the loads of its resource that are still to be
delivered (`Session.IsAtWork.runs`). Each step but the passing of time leaves less to be done
(`Session.Works`), and no load waits for a turn that nobody has, so all loads end if somebody waits
for long enough (`Session.IsAtWork.exists_isIdle`).
-/

namespace CrossRate

/-- What is left to be done for loads that are under way. -/
def Passage.weigh (l : List Passage) : Nat :=
  5 * l.countP (·.phase = .started) + 4 * l.countP (·.phase = .queued)
    + 3 * l.countP (·.phase = .called) + 2 * l.countP (·.phase = .loaded)
    + l.countP (·.phase = .delivered)

namespace Session

variable {s s' s'' : Session} {place : Nat} {t : Task} {r : Resource} {payload : Bytes} {e : Event}

/-- Loads of some resources are started, and all loads go on: those that have begun and those that
still have to are as many more, and a provider has as many successful loads more, or as many more
still to come, as there are loads of the resource that it is fed from. -/
structure Settles (place : Nat) (ids : List String) (s s' : Session) : Prop where
  keeps : Keeps place s s'
  begun : (s'.desk place).loader.counts.begun + s'.underway.countP (·.isUnbegun)
    = (s.desk place).loader.counts.begun + s.underway.countP (·.isUnbegun) + ids.length
  awaited (id : String) : s'.underway.countP (·.isAwaited id)
    ≤ s.underway.countP (·.isAwaited id) + ids.count id
  supplies (number : Nat) (id : String) : (s.desk place).Supplies number id →
    (s'.desk place).Supplies number id
      ∧ (s'.desk place).successes number + s'.underway.countP (·.isAwaited id)
        = (s.desk place).successes number + s.underway.countP (·.isAwaited id) + ids.count id

/-- Loads of what is at hand at a desk are under way, and take turns. -/
structure IsAtWork (place : Nat) (s : Session) : Prop extends
  s.IsAtHand place, s.TakesTurns place

theorem Keeps.refl (s : Session) : Keeps place s s
  := ⟨rfl, Nat.le_refl _, .refl _⟩

theorem Keeps.trans (h : Keeps place s s') (h' : Keeps place s' s'') : Keeps place s s''
  := ⟨h'.others.trans h.others, Nat.le_trans h.loads h'.loads,
    h.desk.trans h'.desk⟩

theorem Settles.refl (s : Session) : Settles place [] s s
  := ⟨.refl s, rfl, fun _ => Nat.le_refl _, fun _ _ supplies => ⟨supplies, rfl⟩⟩

theorem Settles.trans {ids ids' : List String} (h : Settles place ids s s')
    (h' : Settles place ids' s' s'') :
  Settles place (ids ++ ids') s s''
  where
  keeps := h.keeps.trans h'.keeps
  begun := by
    rw [h'.begun, h.begun, List.length_append, Nat.add_assoc]
  awaited := by
    intro id
    have first := h.awaited id
    have second := h'.awaited id
    rw [List.count_append]
    omega
  supplies := by
    intro number id supplies
    obtain ⟨supplies, first⟩ := h.supplies number id supplies
    obtain ⟨supplies, second⟩ := h'.supplies number id supplies
    refine ⟨supplies, ?_⟩
    rw [second, first, List.count_append, Nat.add_assoc]

/-- Loads settle if those that come besides others that go on have just been started. -/
theorem Moves.settles {begun : Nat} {gone come : List Passage}
    (h : Moves place begun gone come s s') {ids : List String}
    (unbegun : begun + come.countP (·.isUnbegun) = gone.countP (·.isUnbegun) + ids.length)
    (awaited : ∀ id,
      come.countP (·.isAwaited id) = gone.countP (·.isAwaited id) + ids.count id) :
  Settles place ids s s'
  where
  keeps := h.keeps
  begun := by
    have counted := h.begun
    have left := h.underway (·.isUnbegun)
    omega
  awaited := by
    intro id
    have left := h.underway (·.isAwaited id)
    have more := awaited id
    omega
  supplies := by
    intro number id supplies
    have left := h.underway (·.isAwaited id)
    have more := awaited id
    refine ⟨h.stock.supplies supplies, ?_⟩
    rw [h.stock.successes]
    omega

theorem Shifts.weigh {gone come : List Passage} (h : Shifts gone come s s') :
  Passage.weigh s'.underway + Passage.weigh gone = Passage.weigh s.underway + Passage.weigh come
  := by
  have started := h (·.phase = .started)
  have queued := h (·.phase = .queued)
  have called := h (·.phase = .called)
  have loaded := h (·.phase = .loaded)
  have delivered := h (·.phase = .delivered)
  simp only [Passage.weigh]
  omega

/-- The loads still take turns if it is the turn of as many as resources are being loaded. -/
theorem Shifts.takesTurns {gone come : List Passage} (h : Shifts gone come s s')
    (turns : s.TakesTurns place) (busy : ∀ e ∈ s'.busy, e.1 = place)
    (active : ∀ id, come.countP (·.isActive id) + (if (place, id) ∈ s.busy then 1 else 0)
      = gone.countP (·.isActive id) + if (place, id) ∈ s'.busy then 1 else 0)
    (waiting : ∀ id, 0 < s.underway.countP (·.isQueued id) → (place, id) ∈ s'.busy)
    (queueing : ∀ id, 0 < come.countP (·.isQueued id) → (place, id) ∈ s'.busy) :
  s'.TakesTurns place
  where
  busy := busy
  active := by
    intro id
    have moved := h (·.isActive id)
    have before := turns.active id
    have change := active id
    omega
  queued := by
    intro id some
    have moved := h (·.isQueued id)
    obtain old | new : 0 < s.underway.countP (·.isQueued id) ∨ 0 < come.countP (·.isQueued id) := by
      omega
    · apply waiting id old
    · apply queueing id new

/-- The turns stay where they are, but for loads that hand them on. -/
theorem Shifts.takesTurns_of_busy {gone come : List Passage} (h : Shifts gone come s s')
    (turns : s.TakesTurns place) (busy : s'.busy = s.busy)
    (active : ∀ id, come.countP (·.isActive id) = gone.countP (·.isActive id))
    (queueing : ∀ id, 0 < come.countP (·.isQueued id) → (place, id) ∈ s.busy) :
  s'.TakesTurns place
  := by
  apply h.takesTurns turns
  · rw [busy]
    apply turns.busy
  · intro id
    rw [busy, active id]
  · rw [busy]
    apply turns.queued
  · rw [busy]
    apply queueing

/-- The turn of a load comes if its resource is not being loaded. -/
theorem Shifts.takesTurns_of_free {gone : List Passage} (h : Shifts gone [⟨.loaded, t⟩] s s')
    (turns : s.TakesTurns place) (free : (place, t.id) ∉ s.busy)
    (busy : s'.busy = (place, t.id) :: s.busy)
    (inactive : ∀ id, gone.countP (·.isActive id) = 0) :
  s'.TakesTurns place
  := by
  apply h.takesTurns turns
  · rw [busy]
    intro e mem
    obtain rfl | old := List.mem_cons.1 mem
    · rfl
    · apply turns.busy e old
  · intro id
    rw [busy, inactive id]
    by_cases here : t.id = id
    · subst here
      simp [Passage.isActive, free]
    · simp [Passage.isActive, here, Ne.symm here]
  · intro id waiting
    rw [busy]
    apply List.mem_cons_of_mem _ (turns.queued id waiting)
  · simp [Passage.isQueued]

/-- A resource that is being loaded is registered. -/
theorem IsAtWork.not_mem_busy (h : s.IsAtWork place) {id : String}
    (unknown : (s.desk place).loader.isRegistered id = false) :
  (place, id) ∉ s.busy
  := by
  intro mem
  have active := h.active id
  rw [if_pos mem] at active
  have some : 0 < s.underway.countP (·.isActive id) := by omega
  obtain ⟨p, under, isActive⟩ := List.countP_pos_iff.1 some
  obtain ⟨r, payload, task⟩ := h.toIsAtHand.exists_isAtHand under
  simp only [Passage.isActive, Bool.and_eq_true, decide_eq_true_eq] at isActive
  have registered := Loader.isRegistered_of_find_eq_ok task.holds.registered
  rw [← task.id, isActive.2, unknown] at registered
  cases registered

/-! ### What happens -/

/-- The rest of a session once one of its events is taken out. -/
theorem isAtHand_nextDue? (h : s.IsAtHand place) (due : s.nextDue? = some (e, s')) :
  s'.IsAtHand place ∧ e.IsAtHand place s' ∧ Moves place 0 e.underway [] s s'
    ∧ s'.busy = s.busy ∧ s'.queue = s.queue
  := by
  obtain ⟨agenda, returned, rfl, perm⟩ := exists_of_nextDue? due
  have moves : Moves place 0 e.underway [] s { s with agenda := agenda, returned := returned } := by
    refine ⟨rfl, Nat.le_refl _, .refl _, rfl, fun P => ?_⟩
    rw [countP_of_events_perm perm rfl rfl]
    rfl
  refine ⟨?_, ?_, moves, rfl, rfl⟩
  · apply h.of_keeps moves.keeps (fun e mem => .inl (perm.mem_iff.2 (.tail _ mem)))
    · exact fun e => .inl
    · exact fun e => .inl
  · apply moves.keeps.event (h.events e (perm.mem_iff.2 List.mem_cons_self))

/-- A session at work after some of what it has to do. -/
structure Works (place : Nat) (s s' : Session) : Prop extends s'.IsAtWork place where
  settles : Settles place [] s s'
  less : Passage.weigh s'.underway < Passage.weigh s.underway

theorem Moves.works {begun : Nat} {gone come : List Passage} (h : Moves place begun gone come s s')
    (atHand : s'.IsAtHand place) (turns : s'.TakesTurns place)
    (unbegun : begun + come.countP (·.isUnbegun) = gone.countP (·.isUnbegun))
    (awaited : ∀ id, come.countP (·.isAwaited id) = gone.countP (·.isAwaited id))
    (less : Passage.weigh come < Passage.weigh gone) :
  Works place s s'
  where
  toIsAtHand := atHand
  toTakesTurns := turns
  settles := h.settles unbegun awaited
  less := by
    have weighed := h.underway.weigh
    omega

theorem IsAtWork.begin (h : s.IsAtWork place) (due : s.nextDue? = some (.begin t, s')) :
  Works place s (s'.begin t)
  := by
  obtain ⟨atHand, ⟨calm, r, payload, task⟩, out, same, -⟩ := isAtHand_nextDue? h.toIsAtHand due
  obtain ⟨atHand, ⟨waits, busy, moves⟩ | ⟨free, busy, -, moves⟩⟩ :=
    isAtHand_begin atHand task (fun _ => calm)
  · have moves := out.trans moves
    rw [same] at waits busy
    apply moves.works atHand
    · apply moves.underway.takesTurns_of_busy h.toTakesTurns busy
      · simp [Event.underway, Passage.isActive]
      · intro id queued
        by_cases here : t.id = id
        · rw [← here]
          apply waits
        · simp [Passage.isQueued, here] at queued
    · simp [Event.underway, Passage.isUnbegun]
    · simp [Event.underway, Passage.isAwaited]
    · simp [Event.underway, Passage.weigh]
  · have moves := out.trans moves
    rw [same] at free busy
    apply moves.works atHand
    · apply moves.underway.takesTurns_of_free h.toTakesTurns free busy
      simp [Event.underway, Passage.isActive]
    · simp [Event.underway, Passage.isUnbegun]
    · simp [Event.underway, Passage.isAwaited]
    · simp [Event.underway, Passage.weigh]

theorem IsAtWork.turn (h : s.IsAtWork place) (due : s.nextDue? = some (.turn t r, s')) :
  Works place s (s'.enter t r)
  := by
  obtain ⟨atHand, ⟨payload, task⟩, out, same, -⟩ := isAtHand_nextDue? h.toIsAtHand due
  obtain ⟨atHand, moves, busy, -⟩ := isAtHand_enter atHand task
  have moves := out.trans moves
  rw [same] at busy
  apply moves.works atHand
  · apply moves.underway.takesTurns_of_busy h.toTakesTurns busy
    · simp [Event.underway, Passage.isActive]
    · simp [Passage.isQueued]
  · simp [Event.underway, Passage.isUnbegun]
  · simp [Event.underway, Passage.isAwaited]
  · simp [Event.underway, Passage.weigh]

/-- The loads that wait for their turn are those in the queue. -/
theorem exists_of_isQueued (h : s.IsAtHand place) {id : String}
    (queued : 0 < s.underway.countP (·.isQueued id)) :
  ∃ e ∈ s.queue, e.1.id = id
  := by
  obtain ⟨p, mem, isQueued⟩ := List.countP_pos_iff.1 queued
  simp only [Passage.isQueued, Bool.and_eq_true, decide_eq_true_eq] at isQueued
  rw [underway, List.mem_append, List.mem_append, List.mem_flatMap, List.mem_map,
    List.mem_flatMap] at mem
  obtain (⟨e, -, shown⟩ | ⟨e, mem, rfl⟩) | ⟨e, errand, shown⟩ := mem
  · cases e <;> simp_all [Event.underway]
  · exact ⟨e, mem, isQueued.2⟩
  · have deliver := h.errands e errand
    obtain ⟨t, next | ending⟩ := e
    · exact absurd deliver (fun h => h)
    · simp_all [Errand.underway]

theorem IsAtWork.finish (h : s.IsAtWork place) {outcome : Except LoadError Layer}
    {report : DeliveryReport} (due : s.nextDue? = some (.finish t outcome report, s')) :
  Works place s (s'.finish t outcome report)
  := by
  obtain ⟨atHand, ⟨⟨r, payload, task⟩, layer, rfl⟩, out, same, queue⟩ :=
    isAtHand_nextDue? h.toIsAtHand due
  obtain ⟨atHand, ⟨next, id, busy, moves⟩ | ⟨none, busy, moves⟩⟩ :=
    isAtHand_finish atHand task.desk layer report
  · have moves := out.trans moves
    rw [same] at busy
    apply moves.works atHand
    · apply moves.underway.takesTurns_of_busy h.toTakesTurns busy
      · simp [Event.underway, Passage.isActive, List.countP_cons, id]
      · simp [Passage.isQueued]
    · simp [Event.underway, Passage.isUnbegun]
    · intro id'
      simp [Event.underway, Passage.isAwaited, List.countP_cons]
    · simp [Event.underway, Passage.weigh]
  · have moves := out.trans moves
    rw [same] at busy
    rw [queue] at none
    apply moves.works atHand
    · apply moves.underway.takesTurns h.toTakesTurns
      · rw [busy]
        intro e mem
        apply h.busy e (List.mem_filter.1 mem).1
      · intro id
        rw [busy]
        by_cases here : t.id = id
        · subst here
          have one : (Event.finish t (.ok layer) report).underway.countP (·.isActive t.id) = 1 := by
            simp [Event.underway, Passage.isActive]
          have mem : (place, t.id) ∈ s.busy := by
            by_contra free
            have active := h.active t.id
            have shown := moves.underway (·.isActive t.id)
            rw [if_neg free] at active
            simp only [List.append_nil, one, List.countP_nil] at shown
            omega
          simp [one, mem]
        · simp [Event.underway, Passage.isActive, here, Ne.symm here]
      · intro id waiting
        rw [busy]
        obtain ⟨e, mem, rfl⟩ := exists_of_isQueued h.toIsAtHand waiting
        apply List.mem_filter.2 ⟨h.queued _ waiting, _⟩
        simpa using none e mem
      · simp [Passage.isQueued]
    · simp [Event.underway, Passage.isUnbegun]
    · simp [Event.underway, Passage.isAwaited]
    · simp [Event.underway, Passage.weigh]

/-- What happens next leaves less to be done. -/
theorem IsAtWork.handle (h : s.IsAtWork place) (due : s.nextDue? = some (e, s')) :
  Works place s (s'.handle e)
  := by
  cases e with
  | begin t => apply h.begin due
  | turn t r => apply h.turn due
  | finish t outcome report => apply h.finish due
  | _ => exact absurd (isAtHand_nextDue? h.toIsAtHand due).2.1 id

/-! ### Errands -/

/-- A session before and after the payload of a load was delivered. -/
structure Delivers (place : Nat) (t : Task) (s s' : Session) : Prop extends s'.IsAtHand place where
  keeps : Keeps place s s'
  busy : s'.busy = s.busy
  left : s'.errands = s.errands
  underway : Shifts [] [⟨.delivered, t⟩] s s'
  begun : (s'.desk place).loader.counts.begun = (s.desk place).loader.counts.begun
  supplies (number : Nat) (id : String) : (s.desk place).Supplies number id →
    (s'.desk place).Supplies number id
      ∧ (s'.desk place).successes number
        = (s.desk place).successes number + if t.id = id then 1 else 0

theorem exists_planReturn_eq (s : Session) (t : Task) (event : Event) :
  ∃ agenda returned, s.planReturn t event = { s with agenda := agenda, returned := returned }
  := by
  rw [planReturn]
  split
  · exact ⟨_, s.returned, rfl⟩
  · exact ⟨s.agenda, _, rfl⟩

/-- What is at hand is delivered to the providers. -/
theorem delivers_doErrand (h : s.IsAtHand place) (task : t.IsAtHand place s r payload)
    (layer : Layer) :
  Delivers place t s (s.doErrand (t, .deliver (.served layer payload)))
  := by
  let ending : LoadEnding := .served layer payload
  let d := ((s.desk place).handOn r.id ending).1
  let report := ((s.desk place).handOn r.id ending).2
  let event : Event := .finish t (.ok layer) report
  have done : s.doErrand (t, .deliver ending) = (s.setDesk d place).planReturn t event := by
    rw [doErrand, task.desk, task.id]
    rfl
  obtain ⟨agenda, returned, planned⟩ := exists_planReturn_eq (s.setDesk d place) t event
  have perm := events_planReturn (s.setDesk d place) t event
  rw [planned] at perm
  rw [done, planned]
  have desk : { s.setDesk d place with agenda := agenda, returned := returned }.desk place = d :=
    desk_setDesk d h.seated
  obtain ⟨same, loader, -⟩ := (s.desk place).handOn_served r.id layer payload
  have keeps : Keeps place s { s.setDesk d place with agenda := agenda, returned := returned } := by
    refine ⟨length_others_setDesk s d place, Nat.le_of_eq (loads_setDesk s d place).symm, ?_⟩
    rw [desk]
    apply same.keeps (congrArg Loader.storage loader)
  constructor
  case toIsAtHand =>
    apply h.of_keeps keeps
    · intro e mem
      obtain rfl | old := List.mem_cons.1 (perm.mem_iff.1 mem)
      · exact .inr ⟨⟨r, payload, keeps.task task⟩, layer, rfl⟩
      · rw [events_setDesk] at old
        apply Or.inl old
    · intro e mem
      apply Or.inl
      simpa using mem
    · intro e mem
      apply Or.inl
      simpa using mem
  case keeps => apply keeps
  case busy => apply busy_setDesk
  case left => apply errands_setDesk
  case underway =>
    intro P
    have shown := countP_of_events_perm perm rfl rfl P
    have put : (s.setDesk d place).underway.countP P = s.underway.countP P := by simp [underway]
    rw [shown, put]
    rfl
  case begun =>
    rw [desk]
    apply congrArg (fun l : Loader Subscriber => l.counts.begun) loader
  case supplies =>
    intro number id supplies
    rw [desk, task.id]
    apply supplies.handOn task.holds layer

theorem doErrand_withErrands (s : Session) (errand : Task × Errand) (left : List (Task × Errand)) :
  { s with errands := left }.doErrand errand = { s.doErrand errand with errands := left }
  := by
  obtain ⟨t, next | ending⟩ := errand
  · simp only [doErrand, planReturn]
    split <;> rfl
  · simp only [doErrand, planReturn]
    cases t.desk <;> split <;> rfl

/-- All errands are done once the first one and then the others are. -/
theorem doErrands_cons {errand : Task × Errand} {left : List (Task × Errand)}
    (errands : s.errands = errand :: left) :
  s.doErrands = ({ s with errands := left }.doErrand errand).doErrands
  := by
  rw [doErrands, errands, List.foldl_cons, doErrand_withErrands s errand left, doErrands,
    doErrand_withErrands s errand []]

/-- A delivery settles the load that it was still to come for. -/
theorem Delivers.works (delivers : Delivers place t s' s'') (h : s.IsAtWork place)
    (keeps : Keeps place s s') (desk : s'.desk place = s.desk place) (busy : s'.busy = s.busy)
    (out : Shifts [⟨.loaded, t⟩] [] s s') :
  Works place s s''
  := by
  have shifts : Shifts [⟨.loaded, t⟩] [⟨.delivered, t⟩] s s'' := out.trans delivers.underway
  have awaited (id : String) : s''.underway.countP (·.isAwaited id) + (if t.id = id then 1 else 0)
      = s.underway.countP (·.isAwaited id) := by
    have shifted := shifts (·.isAwaited id)
    rw [List.countP_singleton, List.countP_singleton] at shifted
    simpa [Passage.isAwaited] using shifted
  refine ⟨⟨delivers.toIsAtHand, ?turns⟩, ?settles, ?less⟩
  case turns =>
    apply shifts.takesTurns_of_busy h.toTakesTurns (delivers.busy.trans busy)
    · simp [Passage.isActive]
    · simp [Passage.isQueued]
  case settles =>
    constructor
    case keeps => apply keeps.trans delivers.keeps
    case begun =>
      have unbegun : s''.underway.countP (·.isUnbegun) = s.underway.countP (·.isUnbegun) :=
        shifts (·.isUnbegun)
      rw [delivers.begun, desk, unbegun]
      rfl
    case awaited =>
      intro id
      have awaited := awaited id
      rw [List.count_nil]
      omega
    case supplies =>
      intro number id supplies
      rw [← desk] at supplies ⊢
      obtain ⟨supplies, successes⟩ := delivers.supplies number id supplies
      have awaited := awaited id
      refine ⟨supplies, ?_⟩
      rw [successes, List.count_nil, ← awaited]
      omega
  case less =>
    have weighed := shifts.weigh
    have two : Passage.weigh [⟨.loaded, t⟩] = 2 := rfl
    have one : Passage.weigh [⟨.delivered, t⟩] = 1 := rfl
    omega

/-- An errand that is done leaves less to be done. -/
theorem IsAtWork.doErrand (h : s.IsAtWork place) {errand : Task × Errand}
    {left : List (Task × Errand)} (errands : s.errands = errand :: left) :
  Works place s ({ s with errands := left }.doErrand errand)
    ∧ ({ s with errands := left }.doErrand errand).errands = left
  := by
  obtain ⟨t, e⟩ := errand
  have isAtHand : e.IsAtHand place s t := by
    apply h.errands (t, e)
    rw [errands]
    apply List.mem_cons_self
  cases e with
  | useFile next => exact absurd isAtHand id
  | deliver ending =>
    obtain ⟨r, layer, payload, task, rfl⟩ := isAtHand
    let rest : Session := { s with errands := left }
    have keeps : Keeps place s rest := ⟨rfl, Nat.le_refl _, .refl _⟩
    have atHand : rest.IsAtHand place := by
      apply h.toIsAtHand.of_keeps keeps (fun e => .inl) (fun e => .inl)
      intro e mem
      rw [errands]
      apply Or.inl (.tail _ mem)
    have out : Shifts [⟨.loaded, t⟩] [] s rest := by
      intro P
      have events : rest.events = s.events := rfl
      have queue : rest.queue = s.queue := rfl
      have some : s.errands.flatMap (fun e => e.2.underway e.1)
          = ⟨.loaded, t⟩ :: rest.errands.flatMap (fun e => e.2.underway e.1) := by
        rw [errands]
        rfl
      simp only [underway, events, queue, some, List.countP_append, List.countP_cons,
        List.countP_nil]
      omega
    have delivers := delivers_doErrand atHand (keeps.task task) layer
    exact ⟨delivers.works h keeps rfl rfl out, delivers.left⟩

/-- To do the errands leaves less to be done. -/
theorem IsAtWork.doErrands (h : s.IsAtWork place) :
  s.doErrands.IsAtWork place ∧ Settles place [] s s.doErrands
    ∧ Passage.weigh s.doErrands.underway + s.errands.length ≤ Passage.weigh s.underway
  := by
  generalize errands : s.errands = left
  induction left generalizing s with
  | nil =>
    have same : s.doErrands = s := by
      rw [Session.doErrands, errands]
      cases s
      cases errands
      rfl
    rw [same]
    exact ⟨h, .refl s, Nat.le_refl _⟩
  | cons errand left ih =>
    obtain ⟨first, rest⟩ := h.doErrand errands
    obtain ⟨others, settles, less⟩ := ih first.toIsAtWork rest
    have less' := first.less
    rw [doErrands_cons errands]
    refine ⟨others, first.settles.trans settles, ?_⟩
    rw [List.length_cons]
    omega

/-! ### Until nothing is left to be done -/

/-- Nothing goes on in a session. -/
structure IsIdle (s : Session) : Prop where
  agenda : s.agenda.entries = []
  returned : s.returned = []
  queue : s.queue = []
  errands : s.errands = []
  busy : s.busy = []

/-- Nothing is under way when nothing goes on. -/
theorem IsIdle.underway (h : s.IsIdle) : s.underway = []
  := by
  rw [Session.underway, events, h.agenda, h.returned, h.queue, h.errands]
  rfl

/-- A session in which nothing goes on is ready for work. -/
theorem IsIdle.isAtWork (h : s.IsIdle) (seated : place ≤ s.others.length) : s.IsAtWork place
  where
  seated := seated
  events := by simp [events, h.agenda, h.returned]
  queue := by simp [h.queue]
  errands := by simp [h.errands]
  busy := by simp [h.busy]
  active := by simp [h.underway, h.busy]
  queued := by simp [h.underway]

theorem underway_eq (events : s'.events = s.events) (queue : s'.queue = s.queue)
    (errands : s'.errands = s.errands) :
  s'.underway = s.underway
  := by rw [Session.underway, Session.underway, events, queue, errands]

/-- The same loads take turns. -/
theorem IsAtWork.of_keeps (h : s.IsAtWork place) (keeps : Keeps place s s')
    (events : s'.events = s.events) (queue : s'.queue = s.queue)
    (errands : s'.errands = s.errands) (busy : s'.busy = s.busy) :
  s'.IsAtWork place
  := by
  have underway := underway_eq events queue errands
  constructor
  · apply h.toIsAtHand.of_same keeps events queue errands
  · constructor
    · rw [busy]
      apply h.busy
    · rw [busy, underway]
      apply h.active
    · rw [busy, underway]
      apply h.queued

/-- Much of what happens does not concern the loads. -/
theorem IsAtWork.of_same (h : s.IsAtWork place) (first : s'.first = s.first)
    (others : s'.others = s.others) (loads : s'.loads = s.loads) (events : s'.events = s.events)
    (queue : s'.queue = s.queue) (errands : s'.errands = s.errands) (busy : s'.busy = s.busy) :
  s'.IsAtWork place ∧ Settles place [] s s'
  := by
  have underway := underway_eq events queue errands
  have desk : s'.desk place = s.desk place := by
    cases place with
    | zero => apply first
    | succ i => rw [Session.desk, Session.desk, first, others]
  have moves : Moves place 0 [] [] s s' := by
    constructor
    · rw [others]
    · apply Nat.le_of_eq loads.symm
    · rw [desk]
      apply Desk.SameStock.refl
    · rw [desk, Nat.add_zero]
    · intro P
      rw [underway]
  constructor
  · apply h.of_keeps moves.keeps events queue errands busy
  · apply moves.settles rfl (fun _ => rfl)

/-- While time passes nothing else happens. -/
theorem IsAtWork.time (h : s.IsAtWork place) (now : Nat) :
  { s with now := now }.IsAtWork place ∧ Settles place [] s { s with now := now }
  := h.of_same rfl rfl rfl rfl rfl rfl rfl

theorem IsAtWork.step (h : s.IsAtWork place) (step : s.Step s') :
  s'.IsAtWork place ∧ Settles place [] s s'
  := by
  cases step with
  | event due =>
    have works := h.handle due
    exact ⟨works.toIsAtWork, works.settles⟩
  | errands =>
    obtain ⟨atWork, settles, -⟩ := h.doErrands
    exact ⟨atWork, settles⟩
  | time now => apply h.time

/-- Loads go on as long as somebody waits. -/
theorem IsAtWork.runs (h : s.IsAtWork place) (runs : s.Runs s') :
  s'.IsAtWork place ∧ Settles place [] s s'
  := by
  induction runs with
  | refl => exact ⟨h, .refl s⟩
  | tail _ step ih =>
    obtain ⟨atWork, settles⟩ := ih
    obtain ⟨atWork, next⟩ := atWork.step step
    exact ⟨atWork, settles.trans next⟩

/-- If there are events, one of them is due in time. -/
theorem exists_nextDue? (events : s.events ≠ []) :
  ∃ now e s', { s with now := now }.nextDue? = some (e, s')
  := by
  cases agenda : s.agenda.entries with
  | nil =>
    rw [Session.events, agenda, List.map_nil, List.nil_append] at events
    obtain ⟨e, rest, returned⟩ := List.exists_cons_of_ne_nil events
    use s.now, e, { s with returned := rest }
    simp only [nextDue?, Agenda.next?, agenda, nextReturned?, returned]
  | cons next later =>
    use next.1, next.2, { s with now := next.1, agenda := ⟨later⟩ }
    simp only [nextDue?, Agenda.next?, agenda, Nat.le_refl, if_true]

/-- If there is nothing to be done, nothing goes on: no load waits for a turn that nobody has. -/
theorem IsAtWork.isIdle (h : s.IsAtWork place) (events : s.events = [])
    (errands : s.errands = []) :
  s.IsIdle
  := by
  have underway : s.underway = s.queue.map (fun e => ⟨.queued, e.1⟩) := by
    simp [Session.underway, events, errands]
  have free (id : String) : (place, id) ∉ s.busy := by
    intro mem
    have active := h.active id
    simp [underway, mem, List.countP_map, Function.comp_def, Passage.isActive] at active
  have queue : s.queue = [] := by
    apply List.eq_nil_iff_forall_not_mem.2
    intro e mem
    apply free e.1.id
    apply h.queued
    rw [underway]
    apply List.countP_pos_iff.2
    exact ⟨_, List.mem_map_of_mem mem, by simp [Passage.isQueued]⟩
  have busy : s.busy = [] := by
    apply List.eq_nil_iff_forall_not_mem.2
    rintro ⟨number, id⟩ mem
    obtain rfl : number = place := h.busy _ mem
    apply free id mem
  rw [Session.events, List.append_eq_nil_iff, List.map_eq_nil_iff] at events
  exact ⟨events.1, events.2, queue, errands, busy⟩

/-- If somebody waits for long enough, all loads end. -/
theorem IsAtWork.exists_isIdle (h : s.IsAtWork place) : ∃ s', s.Runs s' ∧ s'.IsIdle
  := by
  induction left : Passage.weigh s.underway using Nat.strongRecOn generalizing s with
  | _ left ih =>
    by_cases events : s.events = []
    · by_cases errands : s.errands = []
      · exact ⟨s, .refl, h.isIdle events errands⟩
      · obtain ⟨atWork, -, less⟩ := h.doErrands
        have some := List.length_pos_iff.2 errands
        obtain ⟨s', runs, idle⟩ := ih _ (by omega) atWork rfl
        exact ⟨s', .head (.errands s) runs, idle⟩
    · obtain ⟨now, e, s₁, due⟩ := exists_nextDue? events
      have works := (h.time now).1.handle due
      have less := works.less
      obtain ⟨s', runs, idle⟩ := ih _ (left ▸ less) works.toIsAtWork rfl
      exact ⟨s', .head (.time s now) (.head (.event due) runs), idle⟩

end Session

end CrossRate
