import CrossRate.Proofs.Loading.Run

/-!
# What is at hand

A resource with an embedded backup is at hand at a desk without the network whose store is in
memory (`Desk.Holds`): a load of it ends with what the store keeps, or else with the backup. A
provider that is fed from one such resource, and can read what is at hand of it (`Desk.Supplies`),
has one more successful load whenever that is handed on (`Desk.Supplies.handOn`).
-/

namespace CrossRate

namespace Storage

/-- The payload that a store keeps for a resource, or else another one. -/
def payloadOr (s : Storage) (id : String) (other : Bytes) : Bytes :=
  match s.read id with
  | .ok (some (b :: bs)) => b :: bs
  | _ => other

theorem payloadOr_of_read {s : Storage} {id : String} {payload : Bytes}
    (read : s.read id = .ok (some payload)) (filled : payload ≠ []) (other : Bytes) :
  s.payloadOr id other = payload
  := by
  obtain ⟨b, bs, rfl⟩ := List.exists_cons_of_ne_nil filled
  rw [payloadOr, read]

theorem payloadOr_of_isBare {s : Storage} {id : String} (bare : s.IsBare id) (other : Bytes) :
  s.payloadOr id other = other
  := by
  rw [payloadOr]
  split
  · rename_i read
    cases bare _ read
  · rfl

end Storage

namespace FeedProvider

variable {p q : FeedProvider} {today : Date} {payload : Bytes}

/-- What a provider can read depends on the settings and the format alone. -/
theorem SameFeed.reads_iff (h : p.SameFeed q) : p.Reads today payload ↔ q.Reads today payload
  := by rw [← isSome_loaded?_payload, h.loaded?, isSome_loaded?_payload]

/-- A provider has one more successful load when it is fed with a payload that it can read. -/
theorem successes_apply (reads : p.Reads today payload) :
  (p.apply today payload).2.successes = p.successes + 1
  := by
  obtain ⟨table, read⟩ := reads
  rw [apply_of_read_eq_ok read]
  rfl

end FeedProvider

namespace Desk

/-- A desk without the network whose store is in memory. -/
structure IsLocal (d : Desk) : Prop where
  offline : d.loader.settings.offline = true
  memory : d.loader.storage.usesToRead = 0

/-- A payload of a registered resource is at hand. -/
structure Holds (d : Desk) (r : Resource) (payload : Bytes) : Prop extends d.IsLocal where
  registered : d.loader.find r.id = .ok r
  embedded : ∃ name backup, r.backup = some (.embedded name backup)
    ∧ d.loader.storage.payloadOr r.id backup = payload

/-- The successful loads of a provider. -/
def successes (d : Desk) (number : Nat) : Nat := (d.providers[number]?.map (·.successes)).getD 0

/-- A provider is fed from one resource, and can read what is at hand of it. -/
structure Supplies (d : Desk) (number : Nat) (id : String) : Prop where
  receives (other : String) :
    .provider number ∈ d.loader.subscriptions.recipients other ↔ other = id
  reads : ∃ p r payload, d.providers[number]? = some p ∧ r.id = id ∧ d.Holds r payload
    ∧ p.Reads d.today payload

/-- Two desks that differ only in their counts and in what they note. -/
structure SameStock (d d' : Desk) : Prop extends d.SameSetUp d' where
  storage : d'.loader.storage = d.loader.storage
  providers : d'.providers = d.providers

variable {d d' d'' : Desk} {r r' : Resource} {payload payload' : Bytes} {number : Nat} {id : String}

/-- Only one payload of a resource is at hand. -/
theorem Holds.unique (h : d.Holds r payload) (h' : d.Holds r' payload') (same : r.id = r'.id) :
  r = r' ∧ payload = payload'
  := by
  have registered := h.registered
  rw [same, h'.registered] at registered
  obtain rfl : r' = r := Except.ok.inj registered
  obtain ⟨name, backup, embedded, rfl⟩ := h.embedded
  obtain ⟨name', backup', embedded', rfl⟩ := h'.embedded
  obtain ⟨-, rfl⟩ := Location.embedded.inj (Option.some.inj (embedded.symm.trans embedded'))
  exact ⟨rfl, rfl⟩

/-- A later desk with the settings, the store and the day of an earlier one, at which all remains
registered. -/
structure Keeps (d d' : Desk) : Prop where
  settings : d'.loader.settings = d.loader.settings
  storage : d'.loader.storage = d.loader.storage
  today : d'.today = d.today
  registered {id : String} {r : Resource} : d.loader.find id = .ok r → d'.loader.find id = .ok r

theorem Keeps.refl (d : Desk) : d.Keeps d
  := ⟨rfl, rfl, rfl, id⟩

theorem Keeps.trans (h : d.Keeps d') (h' : d'.Keeps d'') : d.Keeps d''
  := ⟨h'.settings.trans h.settings, h'.storage.trans h.storage, h'.today.trans h.today,
    fun found => h'.registered (h.registered found)⟩

theorem Keeps.isLocal (h : d.Keeps d') (isLocal : d.IsLocal) : d'.IsLocal
  where
  offline := by rw [h.settings, isLocal.offline]
  memory := by rw [h.storage, isLocal.memory]

/-- What is at hand remains so. -/
theorem Keeps.holds (h : d.Keeps d') (holds : d.Holds r payload) : d'.Holds r payload
  where
  toIsLocal := h.isLocal holds.toIsLocal
  registered := h.registered holds.registered
  embedded := by
    rw [h.storage]
    apply holds.embedded

/-- A provider that is fed from the same resource as before can read what is at hand of it. -/
theorem Supplies.of_keeps (supplies : d.Supplies number id) (keeps : d.Keeps d')
    (receives : ∀ other, .provider number ∈ d'.loader.subscriptions.recipients other
      ↔ .provider number ∈ d.loader.subscriptions.recipients other)
    (fed : ∀ p, d.providers[number]? = some p →
      ∃ q, d'.providers[number]? = some q ∧ q.SameFeed p) :
  d'.Supplies number id
  where
  receives other := (receives other).trans (supplies.receives other)
  reads := by
    obtain ⟨p, r, payload, found, here, holds, reads⟩ := supplies.reads
    obtain ⟨q, found', same⟩ := fed p found
    rw [keeps.today]
    exact ⟨q, r, payload, found', here, keeps.holds holds, same.reads_iff.2 reads⟩

theorem SameSetUp.keeps (h : d.SameSetUp d') (storage : d'.loader.storage = d.loader.storage) :
  d.Keeps d'
  := ⟨h.settings, storage, h.today, fun found => (h.find _).trans found⟩

theorem SameStock.refl (d : Desk) : d.SameStock d
  := ⟨.refl d, rfl, rfl⟩

theorem SameStock.trans (h : d.SameStock d') (h' : d'.SameStock d'') : d.SameStock d''
  := ⟨h.toSameSetUp.trans h'.toSameSetUp, h'.storage.trans h.storage,
    h'.providers.trans h.providers⟩

theorem SameStock.keeps (h : d.SameStock d') : d.Keeps d'
  := h.toSameSetUp.keeps h.storage

theorem SameStock.supplies (h : d.SameStock d') (supplies : d.Supplies number id) :
  d'.Supplies number id
  := by
  apply supplies.of_keeps h.keeps
  · intro other
    rw [h.subscriptions]
  · intro p found
    rw [h.providers]
    exact ⟨p, found, rfl, rfl⟩

theorem SameStock.successes (h : d.SameStock d') (number : Nat) :
  d'.successes number = d.successes number
  := by rw [Desk.successes, Desk.successes, h.providers]

/-- A load that finds nothing in the store goes on to the backup. -/
theorem exists_stored_eq (bare : d.loader.storage.IsBare r.id) {location : Location}
    (backup : r.backup = some location) :
  ∃ reasons, d.stored r (.look []) = (d, .asking (.backup location reasons))
  := by
  simp only [stored, Loader.stored, Loader.tryStore, Loader.tryBackup, backup]
  split
  · rename_i read
    cases bare _ read
  · exact ⟨_, rfl⟩
  · exact ⟨_, rfl⟩

theorem sameStock_counting (d : Desk) (way : LoadWay) :
  d.SameStock (d.modifyLoader (·.counting way))
  := by cases way <;> exact ⟨⟨rfl, rfl, rfl, rfl⟩, rfl, rfl⟩

theorem sameStock_account (d : Desk) (report : DeliveryReport) : d.SameStock (d.account report)
  := ⟨⟨rfl, rfl, rfl, rfl⟩, rfl, rfl⟩

/-! ### Deliveries -/

/-- To hand a payload on changes the providers who receive it, and what the observers note. -/
theorem handOn_served (d : Desk) (id : String) (layer : Layer) (payload : Bytes) :
  d.SameSetUp (d.handOn id (.served layer payload)).1
    ∧ (d.handOn id (.served layer payload)).1.loader = d.loader
    ∧ ∀ number : Nat, (d.handOn id (.served layer payload)).1.providers[number]?
        = if .provider number ∈ d.loader.subscriptions.recipients id
          then d.providers[number]?.map (fun p => (p.apply d.today payload).2)
          else d.providers[number]?
  := by
  have handed : (d.handOn id (.served layer payload)).1 = (d.deliver id payload).1 := rfl
  rw [handed, deliver, deliverTo_fst]
  refine ⟨⟨rfl, rfl, rfl, rfl⟩, rfl, fun number => ?_⟩
  apply getElem?_foldl_fed (Subscriptions.nodup_recipients _ id)

/-- When what is at hand of a resource is handed on, the providers that are fed from it have one
more successful load, and the others as many as before. -/
theorem Supplies.handOn (supplies : d.Supplies number id) (holds : d.Holds r payload)
    (layer : Layer) :
  (d.handOn r.id (.served layer payload)).1.Supplies number id
    ∧ (d.handOn r.id (.served layer payload)).1.successes number
      = d.successes number + if r.id = id then 1 else 0
  := by
  obtain ⟨same, loader, fed⟩ := d.handOn_served r.id layer payload
  have keeps := same.keeps (congrArg Loader.storage loader)
  have fed := fed number
  constructor
  · apply supplies.of_keeps keeps
    · intro other
      rw [loader]
    · intro p found
      rw [fed, found]
      split
      · exact ⟨_, rfl, FeedProvider.sameFeed_after (.payload payload)⟩
      · exact ⟨p, rfl, rfl, rfl⟩
  · obtain ⟨p, r', payload', found, rfl, holds', reads⟩ := supplies.reads
    rw [successes, successes, fed, found]
    by_cases here : r.id = r'.id
    · obtain ⟨rfl, rfl⟩ := holds.unique holds' here
      rw [if_pos ((supplies.receives r.id).2 rfl), if_pos rfl]
      apply FeedProvider.successes_apply reads
    · rw [if_neg (fun mem => here ((supplies.receives r.id).1 mem)), if_neg here, Nat.add_zero]

end Desk

end CrossRate
