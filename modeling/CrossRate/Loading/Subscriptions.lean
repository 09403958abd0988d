import CrossRate.OrderedMap

/-!
# Subscriptions

Subscribers ask for the payloads of some resources, or of all. `recipients` are those who
get a payload: the subscribers to its resource and then those to all that are not among
them, each once and in the order of their subscriptions.
-/

namespace CrossRate

/-- What became of a payload that was delivered. -/
structure DeliveryReport where
  /-- How many recipients took it. -/
  delivered : Nat
  /-- How many failed to. -/
  failed : Nat
deriving DecidableEq

/-- Who has asked for the payloads of which resources. -/
structure Subscriptions (σ : Type) where
  /-- The subscribers to each identifier, first one first. -/
  bindings : OrderedMap String (List σ)
  /-- Nobody has subscribed to an identifier twice. -/
  distinct {id : String} {bound : List σ} : bindings.get? id = some bound → bound.Nodup

namespace Subscriptions

variable {σ : Type}

/-- The identifier that stands for all resources. -/
def wildcard : String := ""

def empty : Subscriptions σ := ⟨.empty, by simp⟩

/-- The subscribers to an identifier itself. -/
def boundTo (s : Subscriptions σ) (id : String) : List σ := (s.bindings.get? id).getD []

theorem nodup_boundTo (s : Subscriptions σ) (id : String) : (s.boundTo id).Nodup
  := by
  rw [boundTo]
  cases h : s.bindings.get? id with
  | none => exact List.Pairwise.nil
  | some bound => apply s.distinct h

/-- The subscriptions with other subscribers to one identifier. -/
def rebound (s : Subscriptions σ) (id : String) (bound : List σ) (distinct : bound.Nodup) :
    Subscriptions σ where
  bindings := s.bindings.insert id bound
  distinct := by
    intro id' bound' h
    rw [OrderedMap.get?_insert] at h
    split at h
    · rwa [← Option.some.inj h]
    · apply s.distinct h

/-- The identifiers of a subscription: no identifier at all means every resource. -/
def idsOf (ids : List String) : List String := if ids.isEmpty then [wildcard] else ids

theorem nodup_concat {bound : List σ} {subscriber : σ} (distinct : bound.Nodup)
    (h : subscriber ∉ bound) :
  (bound ++ [subscriber]).Nodup
  := by
  simp only [List.nodup_append, List.mem_singleton, forall_eq]
  refine ⟨distinct, List.pairwise_singleton .., fun other bound same => ?_⟩
  rw [same] at bound
  apply h bound

section Changes

variable [DecidableEq σ]

/-- Subscribe to one identifier, unless that has been done. -/
def bind (s : Subscriptions σ) (subscriber : σ) (id : String) : Subscriptions σ :=
  if h : subscriber ∈ s.boundTo id then s
  else s.rebound id (s.boundTo id ++ [subscriber]) (nodup_concat (s.nodup_boundTo id) h)

/-- Unsubscribe from one identifier. -/
def release (s : Subscriptions σ) (subscriber : σ) (id : String) : Subscriptions σ :=
  s.rebound id ((s.boundTo id).filter (· ≠ subscriber)) ((s.nodup_boundTo id).filter _)

/-- Subscribe to some identifiers. -/
def add (s : Subscriptions σ) (subscriber : σ) (ids : List String) : Subscriptions σ :=
  (idsOf ids).foldl (fun s id => s.bind subscriber id) s

/-- Unsubscribe from some identifiers. -/
def remove (s : Subscriptions σ) (subscriber : σ) (ids : List String) : Subscriptions σ :=
  (idsOf ids).foldl (fun s id => s.release subscriber id) s

/-- Who gets the payload of a resource, in the order of delivery. -/
def recipients (s : Subscriptions σ) (id : String) : List σ :=
  if id = wildcard then s.boundTo wildcard
  else s.boundTo id ++ (s.boundTo wildcard).filter (· ∉ s.boundTo id)

/-- Those get a payload who have subscribed to its resource or to all. -/
theorem mem_recipients_iff {s : Subscriptions σ} {id : String} {subscriber : σ} :
  subscriber ∈ s.recipients id ↔ subscriber ∈ s.boundTo id ∨ subscriber ∈ s.boundTo wildcard
  := by
  rw [recipients]
  split
  · rename_i same
    rw [same, or_self]
  · by_cases h : subscriber ∈ s.boundTo id <;> simp [h]

/-- Nobody gets a payload twice. -/
theorem nodup_recipients (s : Subscriptions σ) (id : String) : (s.recipients id).Nodup
  := by
  rw [recipients]
  split
  · apply s.nodup_boundTo
  · refine List.nodup_append.2 ⟨s.nodup_boundTo id, (s.nodup_boundTo wildcard).filter _, ?_⟩
    rintro a bound b rest rfl
    simp only [List.mem_filter, decide_eq_true_eq] at rest
    apply rest.2 bound

end Changes

/-- Hand a payload to recipients one after the other, whether or not some of them fail. Each
may change a state, and says whether it succeeded. -/
def deliverTo {ω : Type} (take : ω → σ → ω × Bool) (world : ω) :
    List σ → ω × DeliveryReport
  | [] => (world, ⟨0, 0⟩)
  | r :: rest =>
    let (world, taken) := take world r
    let (world, report) := deliverTo take world rest
    if taken then (world, { report with delivered := report.delivered + 1 })
    else (world, { report with failed := report.failed + 1 })

section Deliveries

variable {ω : Type} (take : ω → σ → ω × Bool) (world : ω) (r : σ) (rest : List σ)

theorem deliverTo_cons_fst :
  (deliverTo take world (r :: rest)).1 = (deliverTo take (take world r).1 rest).1
  := by
  rw [deliverTo]
  dsimp only
  split <;> rfl

theorem deliverTo_cons_snd :
  (deliverTo take world (r :: rest)).2
    = { delivered := (deliverTo take (take world r).1 rest).2.delivered
          + if (take world r).2 then 1 else 0
        failed := (deliverTo take (take world r).1 rest).2.failed
          + if (take world r).2 then 0 else 1 }
  := by
  rw [deliverTo]
  dsimp only
  split <;> rfl

end Deliveries

end Subscriptions

end CrossRate
