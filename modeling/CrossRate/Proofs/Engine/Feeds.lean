import CrossRate.Proofs.Catalog.Backups
import CrossRate.Proofs.Engine.Assembly
import CrossRate.Proofs.Loading.Enlisting
import Mathlib.Data.List.Nodup

/-!
# Feeds of an engine

A desk without the network is ready for feeds if what is registered under their names are the
resources of the catalog (`Desk.IsReadyFor`). To take in a provider of the catalog is to register
the resource of its feed, if it is not registered, and to feed the provider from it
(`Desk.taking`). The desk remains ready, what is at hand of the feed is something that the provider
can read, and nothing changes for the providers that were there before.
-/

namespace CrossRate

namespace Link

/-- The name of the feed that a link leads to. -/
def feed? : Link → Option String
  | identity => none
  | feed name _ => some name

/-- The feeds that links lead to, one for each link with a feed. -/
def feeds (links : List Link) : List String := links.filterMap feed?

end Link

namespace Catalog

/-- The feeds that are meant by names of providers, one for each provider that has a feed. -/
def feedsOf (names : List String) : List String :=
  names.filterMap (fun name => (find? name).map (·.name))

variable {e e' : Entry} {name : String}

theorem mem_of_find? (found : find? name = some e) : e ∈ entries
  := List.mem_of_find?_eq_some found

/-- An entry is known by its name. -/
theorem eq_of_name (mem : e ∈ entries) (mem' : e' ∈ entries) (same : e.name = e'.name) : e = e'
  := List.inj_on_of_nodup_map (f := Entry.name) (by decide) mem mem' same

theorem name_ne_wildcard (mem : e ∈ entries) : e.name ≠ Subscriptions.wildcard
  := by
  have named : ∀ name ∈ entries.map (·.name), name ≠ Subscriptions.wildcard := by decide
  apply named _ (List.mem_map_of_mem mem)

/-- The provider that answers for a currency and itself has no feed. -/
theorem find?_of_identity (identity : Text.sameIgnoringCase name identityName = true) :
  find? name = none
  := by
  have others : ∀ name ∈ entries.map (·.name),
      Text.sameIgnoringCase name identityName = false := by decide
  apply List.find?_eq_none.2
  intro e mem same
  have other := others _ (List.mem_map_of_mem mem)
  simp only [Text.sameIgnoringCase, beq_iff_eq, beq_eq_false_iff_ne] at identity same other
  exact other (same.trans identity)

/-- The periods of the catalog are well-formed. -/
theorem validate_resource (mem : e ∈ entries) : e.resource.validate = .ok ()
  := by
  simp only [entries, List.mem_cons, List.not_mem_nil, or_false] at mem
  obtain rfl | rfl | rfl | rfl := mem <;> rfl

end Catalog

namespace Desk

/-- A desk at which providers may be fed from feeds: it is local, and what is registered under the
name of one of these feeds is the resource of the catalog. -/
structure IsReadyFor (d : Desk) (feeds : List String) : Prop extends d.IsLocal where
  seated : d.IsSeated
  known : ∀ e ∈ Catalog.entries, e.name ∈ feeds →
    ∀ r, d.loader.find e.name = .ok r → r = e.resource

/-- A provider of an entry can read what the store keeps for its feed, if that is anything. -/
def CanFeed (d : Desk) (loadTimeout : Nat) (e : Catalog.Entry) : Prop :=
  ∀ payload ≠ [], d.loader.storage.read e.name = .ok (some payload) →
    (FeedProvider.fresh (e.settings loadTimeout) e.format).Reads d.today payload

/-- The desk at which the resource of an entry is registered if it was not. -/
def knowing (d : Desk) (e : Catalog.Entry) : Desk :=
  if d.loader.isRegistered e.name then d else d.modifyLoader (·.adding e.resource)

/-- The desk with a new provider of an entry, which is fed from its resource. -/
def taking (d : Desk) (e : Catalog.Entry) (loadTimeout : Nat) : Desk :=
  (d.knowing e).enlisting (FeedProvider.fresh (e.settings loadTimeout) e.format)

variable {d d' : Desk} {feeds : List String} {e : Catalog.Entry} {number loadTimeout : Nat}
  {id : String}

/-- A desk is ready for feeds if nothing is registered under their names. -/
theorem isReadyFor_of_free (isLocal : d.IsLocal) (seated : d.IsSeated)
    (free : ∀ name ∈ feeds, d.loader.isRegistered name = false) :
  d.IsReadyFor feeds
  where
  toIsLocal := isLocal
  seated := seated
  known := by
    intro e _ mem r found
    have registered := Loader.isRegistered_of_find_eq_ok found
    rw [free e.name mem] at registered
    cases registered

/-- A desk remains ready while its providers live on and its set-up stays the same. -/
theorem IsReadyFor.of_sameSetUp (ready : d.IsReadyFor feeds) (same : d.SameSetUp d')
    (keeps : d.Keeps d') (later : ProvidersBecome d.providers d'.providers) :
  d'.IsReadyFor feeds
  where
  toIsLocal := keeps.isLocal ready.toIsLocal
  seated := by
    intro id number bound
    rw [same.subscriptions] at bound
    obtain ⟨q, found, -⟩ := later (List.getElem?_eq_getElem (ready.seated id number bound))
    apply (List.getElem?_eq_some_iff.1 found).1
  known := by
    intro e mem enabled r found
    rw [same.find] at found
    apply ready.known e mem enabled r found

theorem CanFeed.of_keeps (h : d.CanFeed loadTimeout e) (keeps : d.Keeps d') :
  d'.CanFeed loadTimeout e
  := by
  rw [CanFeed, keeps.storage, keeps.today]
  apply h

/-- A provider of the catalog can read what is at hand of its feed. -/
theorem CanFeed.reads (h : d.CanFeed loadTimeout e) (mem : e ∈ Catalog.entries) :
  (FeedProvider.fresh (e.settings loadTimeout) e.format).Reads d.today
    (d.loader.storage.payloadOr e.name e.backup)
  := by
  rw [Storage.payloadOr]
  split
  · rename_i read
    apply h _ (List.cons_ne_nil _ _) read
  · apply Catalog.reads_backup mem

/-! ### A provider is taken in -/

theorem keeps_knowing (d : Desk) (e : Catalog.Entry) : d.Keeps (d.knowing e)
  := by
  rw [knowing]
  split
  · apply Keeps.refl
  · rename_i free
    apply keeps_adding (Bool.eq_false_iff.2 free)

theorem keeps_taking (d : Desk) (e : Catalog.Entry) (loadTimeout : Nat) :
  d.Keeps (d.taking e loadTimeout)
  := (d.keeps_knowing e).trans (keeps_enlisting _ _)

/-- What is registered under the name of an entry is the resource of the catalog. -/
theorem IsReadyFor.holds (ready : d.IsReadyFor feeds) (mem : e ∈ Catalog.entries)
    (enabled : e.name ∈ feeds) :
  (d.knowing e).Holds e.resource (d.loader.storage.payloadOr e.name e.backup)
  := by
  have isLocal : (d.knowing e).IsLocal := (d.keeps_knowing e).isLocal ready.toIsLocal
  rw [knowing] at isLocal ⊢
  split
  · rename_i registered
    have found : d.loader.find e.name = .ok e.resource := by
      cases found : d.loader.find e.name with
      | ok r => rw [ready.known e mem enabled r found]
      | error x =>
        rw [Loader.isRegistered_of_find_eq_error found] at registered
        cases registered
    exact ⟨ready.toIsLocal, found, _, _, rfl, rfl⟩
  · apply holds_adding ready.toIsLocal rfl

/-- Nothing but the resources may change when one is registered. -/
theorem exists_knowing_eq (d : Desk) (e : Catalog.Entry) :
  ∃ resources, d.knowing e = { d with loader := { d.loader with resources := resources } }
  := by
  rw [knowing]
  split
  · exact ⟨d.loader.resources, rfl⟩
  · exact ⟨_, rfl⟩

theorem begun_taking (d : Desk) (e : Catalog.Entry) (loadTimeout : Nat) :
  (d.taking e loadTimeout).loader.counts.begun = d.loader.counts.begun
  := by
  obtain ⟨resources, known⟩ := d.exists_knowing_eq e
  rw [taking, enlisting_eq, known]

/-- A provider that was there before is fed as it was. -/
theorem Supplies.taking (supplies : d.Supplies number id) (e : Catalog.Entry)
    (loadTimeout : Nat) :
  (d.taking e loadTimeout).Supplies number id
    ∧ (d.taking e loadTimeout).successes number = d.successes number
  := by
  have known : (d.knowing e).Supplies number id := by
    obtain ⟨resources, known⟩ := d.exists_knowing_eq e
    have keeps := d.keeps_knowing e
    rw [known] at keeps ⊢
    exact supplies.of_keeps keeps (fun _ => .rfl) (fun p found => ⟨p, found, rfl, rfl⟩)
  obtain ⟨supplied, same⟩ :=
    known.enlisting (FeedProvider.fresh (e.settings loadTimeout) e.format)
  refine ⟨supplied, same.trans ?_⟩
  obtain ⟨resources, known⟩ := d.exists_knowing_eq e
  rw [known, successes, successes]

/-- The resource of the provider that is taken in is registered, and what was remains so. -/
theorem IsReadyFor.taking (ready : d.IsReadyFor feeds) (mem : e ∈ Catalog.entries)
    (enabled : e.name ∈ feeds) (loadTimeout : Nat) :
  (d.taking e loadTimeout).IsReadyFor feeds
  where
  toIsLocal := (d.keeps_taking e loadTimeout).isLocal ready.toIsLocal
  seated := by
    apply isSeated_enlisting
    obtain ⟨resources, known⟩ := d.exists_knowing_eq e
    rw [known]
    apply ready.seated
  known := by
    intro e' mem' enabled' r found
    have known : (d.knowing e).loader.find e'.name = .ok r := by
      rw [Desk.taking, enlisting_eq] at found
      apply found
    by_cases here : e'.name = e.resource.id
    · obtain rfl := Catalog.eq_of_name mem' mem here
      apply Except.ok.inj (known.symm.trans (ready.holds mem enabled).registered)
    · apply ready.known e' mem' enabled'
      rw [knowing] at known
      split at known
      · apply known
      · rw [find_adding, if_neg here] at known
        apply known

/-- The provider that is taken in comes last. -/
theorem getElem?_taking (d : Desk) (e : Catalog.Entry) (loadTimeout : Nat) :
  (d.taking e loadTimeout).providers[d.providers.length]?
    = some (FeedProvider.fresh (e.settings loadTimeout) e.format).connected
  := by
  obtain ⟨resources, known⟩ := d.exists_knowing_eq e
  rw [taking, enlisting_eq, known]
  apply List.getElem?_concat_length

/-- The provider that is taken in is fed from its resource, and can read what is at hand of it. -/
theorem IsReadyFor.supplies_taking (ready : d.IsReadyFor feeds) (mem : e ∈ Catalog.entries)
    (enabled : e.name ∈ feeds) (canFeed : d.CanFeed loadTimeout e) :
  (d.taking e loadTimeout).Supplies d.providers.length e.name
    ∧ (d.taking e loadTimeout).successes d.providers.length = 0
  := by
  let p := FeedProvider.fresh (e.settings loadTimeout) e.format
  have length : (d.knowing e).providers.length = d.providers.length := by
    obtain ⟨resources, known⟩ := d.exists_knowing_eq e
    rw [known]
  have seated : (d.knowing e).IsSeated := by
    obtain ⟨resources, known⟩ := d.exists_knowing_eq e
    rw [known]
    apply ready.seated
  have found := d.getElem?_taking e loadTimeout
  constructor
  · constructor
    case receives =>
      rw [← length]
      apply receives_enlisting seated (Catalog.name_ne_wildcard mem)
    case reads =>
      have holds := (keeps_enlisting _ p).holds (ready.holds mem enabled)
      refine ⟨p.connected, e.resource, _, found, rfl, holds, ?_⟩
      rw [(d.keeps_taking e loadTimeout).today]
      apply canFeed.reads mem
  · rw [successes, found]
    rfl

end Desk

end CrossRate
