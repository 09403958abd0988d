import CrossRate.Proofs.Loading.AtHand
import CrossRate.Proofs.Loading.Recipients
import CrossRate.Proofs.Runner.Orderly

/-!
# Providers that are enlisted

A provider that is added to a desk and fed from its resource (`Desk.enlisting`) gets the payloads
of that resource and no others, and whoever was there before gets what they got. Neither that nor
the registration of a resource takes away anything that was at hand.
-/

namespace CrossRate

namespace Subscriptions

variable {σ : Type} [DecidableEq σ] {s : Subscriptions σ} {subscriber other : σ} {id id' : String}

/-- Only who subscribes is one more subscriber. -/
theorem mem_boundTo_bind :
  other ∈ (s.bind subscriber id).boundTo id'
    ↔ other ∈ s.boundTo id' ∨ id' = id ∧ other = subscriber
  := by
  rw [boundTo_bind]
  split
  · rename_i fresh
    rw [List.mem_append, List.mem_singleton]
    simp [fresh.1]
  · rename_i stale
    simp only [not_and, not_not] at stale
    rw [iff_self_or]
    rintro ⟨here, rfl⟩
    apply stale here

end Subscriptions

namespace Desk

/-- All providers that have subscribed are at the desk. -/
def IsSeated (d : Desk) : Prop :=
  ∀ id number, .provider number ∈ d.loader.subscriptions.boundTo id → number < d.providers.length

/-- A desk with another provider that is fed from its resource. -/
def enlisting (d : Desk) (p : FeedProvider) : Desk := (d.addProvider p).attach d.providers.length

theorem enlisting_eq (d : Desk) (p : FeedProvider) :
  d.enlisting p
    = { d with
        loader := { d.loader with
          subscriptions :=
            d.loader.subscriptions.bind (.provider d.providers.length) p.settings.resource }
        providers := d.providers ++ [p.connected] }
  := by
  have found : (d.addProvider p).providers[d.providers.length]? = some p := by simp [addProvider]
  rw [enlisting, attach, found]
  simp [subscribe, modifyLoader, modifyProvider, addProvider, Subscriptions.add,
    Subscriptions.idsOf, List.modify_eq_set_getElem?]

variable {d : Desk} {p : FeedProvider} {r r' : Resource} {payload : Bytes} {number : Nat}
  {id : String}

theorem isSeated_enlisting (seated : d.IsSeated) (p : FeedProvider) : (d.enlisting p).IsSeated
  := by
  intro id number bound
  rw [enlisting_eq] at bound ⊢
  rw [List.length_append, List.length_singleton]
  obtain old | ⟨-, same⟩ := Subscriptions.mem_boundTo_bind.1 bound
  · apply Nat.lt_succ_of_lt (seated id number old)
  · rw [Subscriber.provider.inj same]
    apply Nat.lt_succ_self

/-- The provider that is enlisted gets the payloads of its resource and no others. -/
theorem receives_enlisting (seated : d.IsSeated)
    (named : p.settings.resource ≠ Subscriptions.wildcard) (other : String) :
  .provider d.providers.length ∈ (d.enlisting p).loader.subscriptions.recipients other
    ↔ other = p.settings.resource
  := by
  have absent (id : String) :
      .provider d.providers.length ∉ d.loader.subscriptions.boundTo id :=
    fun bound => Nat.lt_irrefl _ (seated id _ bound)
  rw [enlisting_eq, Subscriptions.mem_recipients_iff, Subscriptions.mem_boundTo_bind,
    Subscriptions.mem_boundTo_bind]
  simp [absent, Ne.symm named]

theorem keeps_enlisting (d : Desk) (p : FeedProvider) : d.Keeps (d.enlisting p)
  := by
  rw [enlisting_eq]
  exact ⟨rfl, rfl, rfl, id⟩

/-- A provider that was there before is fed as it was. -/
theorem Supplies.enlisting (supplies : d.Supplies number id) (p : FeedProvider) :
  (d.enlisting p).Supplies number id ∧ (d.enlisting p).successes number = d.successes number
  := by
  obtain ⟨q, r, payload, found, here, holds, reads⟩ := supplies.reads
  have bound : number < d.providers.length := (List.getElem?_eq_some_iff.1 found).1
  have same : (d.enlisting p).providers[number]? = d.providers[number]? := by
    rw [enlisting_eq]
    apply List.getElem?_append_left bound
  constructor
  · apply supplies.of_keeps (d.keeps_enlisting p)
    · intro other
      rw [enlisting_eq, Subscriptions.mem_recipients_iff, Subscriptions.mem_recipients_iff,
        Subscriptions.mem_boundTo_bind, Subscriptions.mem_boundTo_bind]
      simp [Nat.ne_of_lt bound]
    · intro q found
      rw [same]
      exact ⟨q, found, rfl, rfl⟩
  · rw [successes, successes, same]

/-! ### Resources that are registered -/

theorem find_adding (d : Desk) (r : Resource) (id : String) :
  (d.modifyLoader (·.adding r)).loader.find id = if id = r.id then .ok r else d.loader.find id
  := by
  rw [Loader.find, modifyLoader, Loader.adding, OrderedMap.get?_insert]
  by_cases here : id = r.id
  · simp [here]
  · simp [here, Loader.find]

/-- It does not matter which comes first, a provider or a resource. -/
theorem adding_enlisting (d : Desk) (p : FeedProvider) (r : Resource) :
  (d.enlisting p).modifyLoader (·.adding r) = (d.modifyLoader (·.adding r)).enlisting p
  := by
  rw [enlisting_eq, enlisting_eq]
  rfl

/-- What is registered remains so when a resource is registered under a free identifier. -/
theorem keeps_adding (free : d.loader.isRegistered r.id = false) :
  d.Keeps (d.modifyLoader (·.adding r))
  := by
  refine ⟨rfl, rfl, rfl, fun {id r'} found => ?_⟩
  rw [find_adding, if_neg, found]
  rintro rfl
  rw [Loader.isRegistered_of_find_eq_ok found] at free
  cases free

/-- What stands in for a resource is at hand once it is registered, or what the store keeps. -/
theorem holds_adding (isLocal : d.IsLocal) {name : String} {backup : Bytes}
    (embedded : r.backup = some (.embedded name backup)) :
  (d.modifyLoader (·.adding r)).Holds r (d.loader.storage.payloadOr r.id backup)
  where
  toIsLocal := ⟨isLocal.offline, isLocal.memory⟩
  registered := by rw [find_adding, if_pos rfl]
  embedded := ⟨name, backup, embedded, rfl⟩

/-! ### First loads -/

theorem keeps_noteFirstLoad (d : Desk) (number : Nat) (outcome : Except LoadError Layer) :
  d.Keeps (d.noteFirstLoad number outcome)
  := by cases outcome <;> exact ⟨rfl, rfl, rfl, id⟩

/-- To note how a first load has ended is not to load anything. -/
theorem Supplies.noteFirstLoad (supplies : d.Supplies number id) (other : Nat)
    (outcome : Except LoadError Layer) :
  (d.noteFirstLoad other outcome).Supplies number id
    ∧ (d.noteFirstLoad other outcome).successes number = d.successes number
  := by
  cases outcome with
  | ok layer => exact ⟨supplies, rfl⟩
  | error e =>
    have noted : (d.noteFirstLoad other (.error e)).providers[number]?
        = d.providers[number]?.map
            (fun p => if other = number then p.withFailure e.message else p) := by
      rw [Desk.noteFirstLoad, modifyProvider, List.getElem?_modify]
      split <;> simp [*]
    constructor
    · apply supplies.of_keeps (d.keeps_noteFirstLoad other (.error e)) (fun _ => .rfl)
      intro p found
      rw [noted, found]
      refine ⟨_, rfl, ?_⟩
      dsimp only
      split <;> exact ⟨rfl, rfl⟩
    · rw [successes, successes, noted, Option.map_map]
      congr 2
      funext p
      rw [Function.comp]
      split <;> rfl

end Desk

end CrossRate
