import CrossRate.Desk
import Mathlib.Data.List.Basic

/-!
# Deliveries

A payload that is delivered is handed to its recipients: what observers note of it and what
becomes of the providers (`Desk.deliverTo_fst`). Since nobody is among the recipients twice, each
of them is handed it once (`Desk.HandsOn`).
-/

namespace CrossRate

/-- What a subscriber notes of a payload. -/
def Subscriber.delivery? (id : String) (payload : Bytes) : Subscriber → Option Delivery
  | observer name _ => some ⟨name, id, payload⟩
  | provider _ => none

/-- The providers after a payload was handed to a subscriber. -/
def Subscriber.fed (today : Date) (payload : Bytes) (providers : List FeedProvider) :
    Subscriber → List FeedProvider
  | observer .. => providers
  | provider number => providers.modify number (fun p => (p.apply today payload).2)

namespace Desk

/-- A desk after a payload was handed to a subscriber. -/
theorem hand_fst (id : String) (payload : Bytes) (d : Desk) (s : Subscriber) :
  (hand id payload d s).1
    = { d with
        handed := (s.delivery? id payload).toList ++ d.handed
        providers := s.fed d.today payload d.providers }
  := by
  cases s with
  | observer name fails => rfl
  | provider number =>
    simp only [hand, modifyProvider, Subscriber.fed, List.modify_eq_set_getElem?]
    cases found : d.providers[number]? with
    | none => rfl
    | some p =>
      cases applied : p.apply d.today payload with
      | mk result p' => cases result <;> simp [applied, Subscriber.delivery?]

/-- A desk after a payload was delivered. -/
theorem deliverTo_fst (id : String) (payload : Bytes) (d : Desk) (recipients : List Subscriber) :
  (Subscriptions.deliverTo (hand id payload) d recipients).1
    = { d with
        handed := (recipients.filterMap (·.delivery? id payload)).reverse ++ d.handed
        providers := recipients.foldl (Subscriber.fed d.today payload) d.providers }
  := by
  induction recipients generalizing d with
  | nil => rfl
  | cons s recipients ih =>
    rw [Subscriptions.deliverTo_cons_fst, ih, hand_fst, List.filterMap_cons]
    cases s.delivery? id payload <;> simp

/-- Of those to whom a payload is handed each provider is fed with it once. -/
theorem getElem?_foldl_fed {today : Date} {payload : Bytes} {recipients : List Subscriber}
    (distinct : recipients.Nodup) (providers : List FeedProvider) (number : Nat) :
  (recipients.foldl (Subscriber.fed today payload) providers)[number]?
    = if .provider number ∈ recipients
      then providers[number]?.map (fun p => (p.apply today payload).2) else providers[number]?
  := by
  induction recipients generalizing providers with
  | nil => rfl
  | cons s recipients ih =>
    -- A provider that is fed first is not among those who are left.
    obtain ⟨fresh, distinct⟩ := List.nodup_cons.1 distinct
    rw [List.foldl_cons, ih distinct]
    cases s with
    | observer name fails => simp [Subscriber.fed]
    | provider other =>
      rw [Subscriber.fed, List.getElem?_modify]
      by_cases same : other = number
      · subst same
        simp [fresh]
      · simp [same, Ne.symm same]

/-- A desk before and after a payload of a resource was handed once to each of those who have
subscribed to the resource or to all, and to nobody else. -/
structure HandsOn (d d' : Desk) (id : String) (payload : Bytes) (recipients : List Subscriber) :
    Prop where
  once : recipients.Nodup
  mem_iff : ∀ s, s ∈ recipients
    ↔ s ∈ d.loader.subscriptions.boundTo id
        ∨ s ∈ d.loader.subscriptions.boundTo Subscriptions.wildcard
  heard : d'.heard = d.heard ++ recipients.filterMap (·.delivery? id payload)
  providers : ∀ number : Nat, d'.providers[number]?
    = if .provider number ∈ recipients
      then d.providers[number]?.map (fun p => (p.apply d.today payload).2)
      else d.providers[number]?

end Desk

end CrossRate
