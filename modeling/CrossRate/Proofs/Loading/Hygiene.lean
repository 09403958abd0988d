import CrossRate.Proofs.Loading.Run

/-!
# What is kept and handed on over runs

A store in memory starts empty. After every run of loads it keeps for each resource the payload
of the last load of it that a remote location has served, so all that it keeps is of use; and
what was handed on for a resource was brought by a load of it from a remote location, and
checked, or from its backup (`isClean_run`).
-/

namespace CrossRate

/-- The last result in a list: what follows has none. -/
theorem findSome?_reverse_eq_some_iff {α β : Type} {l : List α} {f : α → Option β} {b : β} :
  l.reverse.findSome? f = some b
    ↔ ∃ earlier a later, l = earlier ++ a :: later ∧ f a = some b ∧ ∀ a' ∈ later, f a' = none
  := by
  rw [List.findSome?_eq_some_iff]
  constructor
  · rintro ⟨later, a, earlier, split, found, none⟩
    use earlier.reverse, a, later.reverse
    refine ⟨?_, found, fun a' mem => none a' (List.mem_reverse.1 mem)⟩
    rw [← List.reverse_reverse l, split]
    simp
  · rintro ⟨earlier, a, later, rfl, found, none⟩
    use later.reverse, a, earlier.reverse
    exact ⟨by simp, found, fun a' mem => none a' (List.mem_reverse.1 mem)⟩

namespace Storage

/-- An empty store in memory. -/
def IsFresh (s : Storage) : Prop := s.place = .memory true true ∧ s.kept = .empty

end Storage

namespace Desk

variable {d : Desk} {calls : List LoadCall} {id : String} {payload : Bytes}

/-! ### What is read from the store -/

theorem kept?_eq_some_iff (keyed : d.loader.IsKeyed) {l : LoadRecord} (mem : l ∈ d.loads calls) :
  l.kept? id = some payload
    ↔ l.call.id = id ∧ l.result = .ok .remote ∧ l.course.ending.payload? = some payload
  := by
  rw [LoadRecord.kept?, result_of_mem_loads keyed mem, ← LoadEnding.fresh?_eq_some_iff]
  split <;> simp [*]

theorem kept?_eq_none_iff (keyed : d.loader.IsKeyed) {l : LoadRecord} (mem : l ∈ d.loads calls) :
  l.kept? id = none ↔ (l.call.id = id → l.result ≠ .ok .remote)
  := by
  rw [LoadRecord.kept?, result_of_mem_loads keyed mem, ← LoadEnding.fresh?_eq_none_iff]
  split <;> simp [*]

/-- What is read after a run is what the last load kept that kept anything. -/
theorem read_run (keyed : d.loader.IsKeyed) (fresh : d.loader.storage.IsFresh)
    (calls : List LoadCall) (id : String) :
  (d.run calls).loader.storage.read id
    = .ok ((d.loads calls).reverse.findSome? (LoadRecord.kept? id))
  := by
  obtain ⟨memory, empty⟩ := fresh
  obtain ⟨place, kept⟩ := get?_run keyed memory calls id
  rw [Storage.read, place, kept, empty, OrderedMap.get?_empty, Option.or_none]
  rfl

/-- Nothing is read for a resource if no load of it was served by a remote location. -/
theorem read_run_eq_none_iff (keyed : d.loader.IsKeyed) (fresh : d.loader.storage.IsFresh) :
  (d.run calls).loader.storage.read id = .ok none
    ↔ ∀ l ∈ d.loads calls, l.call.id = id → l.result ≠ .ok .remote
  := by
  simp only [read_run keyed fresh, Except.ok.injEq, List.findSome?_eq_none_iff, List.mem_reverse]
  constructor
  · intro h l mem
    apply (kept?_eq_none_iff keyed mem).1 (h l mem)
  · intro h l mem
    apply (kept?_eq_none_iff keyed mem).2 (h l mem)

/-- What is read for a resource is the payload of the last load of it that was served by a
remote location. -/
theorem read_run_eq_some_iff (keyed : d.loader.IsKeyed) (fresh : d.loader.storage.IsFresh) :
  (d.run calls).loader.storage.read id = .ok (some payload)
    ↔ ∃ earlier l later, d.loads calls = earlier ++ l :: later
      ∧ (l.call.id = id ∧ l.result = .ok .remote ∧ l.course.ending.payload? = some payload)
      ∧ ∀ l' ∈ later, l'.call.id = id → l'.result ≠ .ok .remote
  := by
  rw [read_run keyed fresh, Except.ok.injEq, findSome?_reverse_eq_some_iff]
  refine exists_congr fun earlier => exists_congr fun l => exists_congr fun later =>
    and_congr_right fun split => ?_
  have mem : ∀ l' ∈ l :: later, l' ∈ d.loads calls := by simp_all
  exact and_congr (kept?_eq_some_iff keyed (mem l (.head _)))
    (forall₂_congr fun l' hl' => kept?_eq_none_iff keyed (mem l' (.tail _ hl')))

/-- A load of one resource does not change what is read for another. -/
theorem read_after_of_ne (keyed : d.loader.IsKeyed) (fresh : d.loader.storage.IsFresh)
    (calls : List LoadCall) {call : LoadCall} (other : call.id ≠ id) :
  ((d.run calls).after call).loader.storage.read id = (d.run calls).loader.storage.read id
  := by
  have last : LoadRecord.kept? id ((d.run calls).loadOf call) = none := if_neg other
  rw [← run_concat, read_run keyed fresh, read_run keyed fresh, loads_concat, List.reverse_append,
    List.reverse_singleton, List.singleton_append, List.findSome?_cons, last]

/-- What is read for a resource was checked. -/
theorem isUsable_of_read_run (keyed : d.loader.IsKeyed) (fresh : d.loader.storage.IsFresh)
    (read : (d.run calls).loader.storage.read id = .ok (some payload)) :
  Loader.IsUsable d.loader.settings payload
  := by
  obtain ⟨earlier, l, later, split, ⟨-, result, served⟩, -⟩ :=
    (read_run_eq_some_iff keyed fresh).1 read
  have mem : l ∈ d.loads calls := by simp [split]
  obtain ⟨r, s, -, sourced⟩ := isSourced_of_mem_loads keyed mem served
  rw [result_of_mem_loads keyed mem] at result
  cases ending : l.course.ending with
  | failed e => simp [ending, LoadEnding.outcome] at result
  | served layer payload' =>
    rw [ending] at result served
    obtain rfl := Except.ok.inj result
    obtain rfl := Option.some.inj served
    obtain ⟨-, -, -, -, -, usable⟩ := sourced .remote _ ending
    apply usable

/-! ### What is handed on -/

/-- A payload of a resource that some load of it brought from a remote location, and checked, or
from its backup. -/
def IsGenuine (d : Desk) (loads : List LoadRecord) (id : String) (payload : Bytes) : Prop :=
  ∃ l ∈ loads, l.call.id = id ∧ ∃ r, d.loader.find id = .ok r
    ∧ (l.course.BringsRemote l.call.answer r d.loader.settings payload
      ∨ l.course.BringsBackup l.call.answer r payload)

theorem IsGenuine.mono {loads loads' : List LoadRecord} (h : d.IsGenuine loads id payload)
    (sub : loads ⊆ loads') :
  d.IsGenuine loads' id payload
  := by
  obtain ⟨l, mem, genuine⟩ := h
  exact ⟨l, sub mem, genuine⟩

/-- What a load hands on after others is genuine if what is in the store is. -/
theorem isGenuine_loadOf (keyed : d.loader.IsKeyed) {call : LoadCall}
    (served : ((d.run calls).courseOf call).ending.payload? = some payload)
    (stored : ∀ payload, (d.run calls).loader.storage.read call.id = .ok (some payload) →
      d.IsGenuine (d.loads calls) call.id payload) :
  d.IsGenuine (d.loads (calls ++ [call])) call.id payload
  := by
  have same := sameSetUp_run keyed calls
  obtain ⟨r, found, sourced⟩ := exists_isSourced served
  rw [same.find] at found
  rw [same.settings] at sourced
  rw [loads_concat]
  cases ending : ((d.run calls).courseOf call).ending with
  | failed e => simp [ending, LoadEnding.payload?] at served
  | served layer payload' =>
    rw [ending] at served
    obtain rfl := Option.some.inj served
    have last : (d.run calls).loadOf call ∈ d.loads calls ++ [(d.run calls).loadOf call] := by simp
    have source := sourced layer _ ending
    cases layer with
    | remote => exact ⟨_, last, rfl, r, found, .inl source⟩
    | store =>
      apply (stored _ _).mono (List.subset_append_left ..)
      rw [← keyed _ _ found]
      apply source
    | backup => exact ⟨_, last, rfl, r, found, .inr source⟩

/-- What is handed on in a run is genuine. -/
theorem isGenuine_of_mem_loads (keyed : d.loader.IsKeyed) (fresh : d.loader.storage.IsFresh)
    {l : LoadRecord} (mem : l ∈ d.loads calls) (served : l.course.ending.payload? = some payload) :
  d.IsGenuine (d.loads calls) l.call.id payload
  := by
  induction calls using List.reverseRecOn generalizing l payload with
  | nil => cases mem
  | append_singleton calls call ih =>
    rw [loads_concat, List.mem_append, List.mem_singleton] at mem
    obtain mem | rfl := mem
    · apply (ih mem served).mono
      rw [loads_concat]
      apply List.subset_append_left
    · apply isGenuine_loadOf keyed served
      intro payload' read
      -- What is read was brought by a load before, to which the induction applies.
      obtain ⟨earlier, l, later, split, ⟨same, -, brought⟩, -⟩ :=
        (read_run_eq_some_iff keyed fresh).1 read
      rw [← same]
      apply ih (by simp [split]) brought

/-- What observers note of a load is its payload. -/
theorem mem_noted {l : LoadRecord} {delivery : Delivery} (mem : delivery ∈ d.noted l) :
  delivery.resource = l.call.id ∧ l.course.ending.payload? = some delivery.payload
  := by
  rw [noted, LoadEnding.noted] at mem
  split at mem
  · rename_i payload served
    obtain ⟨s, -, delivered⟩ := List.mem_filterMap.1 mem
    cases s with
    | observer name fails =>
      obtain rfl := Option.some.inj delivered
      exact ⟨rfl, served⟩
    | provider number => cases delivered
  · cases mem

/-- A desk over a run of loads. -/
structure IsClean (d : Desk) (calls : List LoadCall) : Prop where
  /-- The store can be read. -/
  reads : ∀ id, ∃ found, (d.run calls).loader.storage.read id = .ok found
  /-- It has nothing for a resource if no load of it was served by a remote location. -/
  absent_iff : ∀ id, (d.run calls).loader.storage.read id = .ok none
    ↔ ∀ l ∈ d.loads calls, l.call.id = id → l.result ≠ .ok .remote
  /-- Else it has the payload of the last such load. -/
  present_iff : ∀ id payload, (d.run calls).loader.storage.read id = .ok (some payload)
    ↔ ∃ earlier l later, d.loads calls = earlier ++ l :: later
      ∧ (l.call.id = id ∧ l.result = .ok .remote ∧ l.course.ending.payload? = some payload)
      ∧ ∀ l' ∈ later, l'.call.id = id → l'.result ≠ .ok .remote
  /-- Whatever it has is neither blank nor a page for rejected requests. -/
  usable : ∀ id payload, (d.run calls).loader.storage.read id = .ok (some payload) →
    Loader.IsUsable d.loader.settings payload
  /-- The next load changes nothing for other resources. -/
  others : ∀ call id, call.id ≠ id →
    ((d.run calls).after call).loader.storage.read id = (d.run calls).loader.storage.read id
  /-- Whatever a load hands on for a resource is genuine. -/
  genuine : ∀ l ∈ d.loads calls, ∀ payload, l.course.ending.payload? = some payload →
    d.IsGenuine (d.loads calls) l.call.id payload
  /-- So is whatever the observers hear for a resource in the run. -/
  heard : ∀ delivery ∈ (d.run calls).heard, delivery ∈ d.heard
    ∨ d.IsGenuine (d.loads calls) delivery.resource delivery.payload
  /-- The providers are fed with what the loads hand on and with nothing else. -/
  providers : ∀ number : Nat, (d.run calls).providers[number]?
    = d.providers[number]?.map
        (·.run d.today (((d.loads calls).filterMap (d.fedTo? number)).map .payload))

/-- A desk whose store in memory starts empty is clean over every run of loads. -/
theorem isClean_run (keyed : d.loader.IsKeyed) (fresh : d.loader.storage.IsFresh)
    (calls : List LoadCall) :
  d.IsClean calls
  where
  reads := fun id => ⟨_, read_run keyed fresh calls id⟩
  absent_iff := fun _ => read_run_eq_none_iff keyed fresh
  present_iff := fun _ _ => read_run_eq_some_iff keyed fresh
  usable := fun _ _ => isUsable_of_read_run keyed fresh
  others := fun _ _ => read_after_of_ne keyed fresh calls
  genuine := fun _ mem _ served => isGenuine_of_mem_loads keyed fresh mem served
  heard := by
    intro delivery heard
    rw [heard_run keyed, List.mem_append, List.mem_flatMap] at heard
    apply heard.imp_right
    rintro ⟨l, mem, noted⟩
    obtain ⟨resource, served⟩ := mem_noted noted
    rw [resource]
    apply isGenuine_of_mem_loads keyed fresh mem served
  providers := getElem?_providers_run keyed calls

/-- A page for rejected requests is not kept and the backup is handed on in its place; the payload
of the next load is kept, and serves a load without the network. -/
theorem isClean_run_rejected_page :
  ∃ (d : Desk) (calls : List LoadCall) (backup payload : Bytes),
    calls.map (·.way) = [.full, .full, .atHand]
      ∧ (d.run calls).loader.storage.read "rates" = .ok (some payload)
      ∧ Loader.IsUsable d.loader.settings payload
      ∧ (d.run calls).heard.map (·.payload) = [backup, payload, payload]
      ∧ d.IsClean calls
  := by
  let backup := Text.encode "0.5"
  let payload := Text.encode "1.25"
  let r : Resource :=
    { id := "rates", remotes := [.file "rates.xml"], backup := some (.embedded "rates" backup) }
  let d : Desk :=
    { loader :=
        { settings := { sentinels := ["denied"] }
          resources := OrderedMap.empty.insert r.id r
          subscriptions := Subscriptions.empty.add (.observer "log" false) [r.id] }
      today := ⟨739193, by decide, by decide⟩ }
  let gives (remote : Bytes) (question : Question) : Except LoadError Bytes :=
    .ok (if question.isRemote then remote else backup)
  let calls : List LoadCall :=
    [⟨r.id, .full, gives (Text.encode "Access denied")⟩, ⟨r.id, .full, gives payload⟩,
      ⟨r.id, .atHand, gives payload⟩]
  have keyed : d.loader.IsKeyed :=
    Loader.IsKeyed.register (l := { d.loader with resources := .empty }) (r := r)
      (Loader.isKeyed_empty rfl) rfl
  have clean := isClean_run keyed ⟨rfl, rfl⟩ calls
  have read : (d.run calls).loader.storage.read "rates" = .ok (some payload) := by
    rw [← toOption_eq_some_iff]
    decide +kernel
  exact ⟨d, calls, backup, payload, rfl, read, clean.usable _ _ read, by decide +kernel, clean⟩

end Desk

end CrossRate
