import CrossRate.Loading.Subscriptions
import CrossRate.Text.Bytes
import Mathlib.Data.List.Induction

/-!
# Who gets a payload

A payload is handed to those who are bound to its resource at the time, and then to those who are
bound to all resources only. Who is bound to an identifier is read off the history of the
subscriptions (`Subscriptions.IsBound`), and so is the order, which is that in which the bindings
began (`Subscriptions.BoundSince`). Each of them is handed the payload once, whatever the others make
of it (`Subscriptions.deliversInOrder_run`).
-/

namespace CrossRate

/-- A change of subscriptions. -/
inductive SubscriptionEvent (σ : Type) where
  | add (subscriber : σ) (ids : List String)
  | remove (subscriber : σ) (ids : List String)

namespace SubscriptionEvent

variable {σ : Type}

/-- The identifiers that a change is about. -/
def ids : SubscriptionEvent σ → List String
  | add _ ids | remove _ ids => Subscriptions.idsOf ids

/-- A change subscribes somebody to an identifier. -/
def Subscribes (event : SubscriptionEvent σ) (subscriber : σ) (id : String) : Prop :=
  match event with
  | add s _ => s = subscriber ∧ id ∈ event.ids
  | remove .. => False

/-- A change unsubscribes somebody from an identifier. -/
def Unsubscribes (event : SubscriptionEvent σ) (subscriber : σ) (id : String) : Prop :=
  match event with
  | add .. => False
  | remove s _ => s = subscriber ∧ id ∈ event.ids

theorem Subscribes.not_unsubscribes {event : SubscriptionEvent σ} {subscriber : σ} {id : String}
    (h : event.Subscribes subscriber id) :
  ¬ event.Unsubscribes subscriber id
  := by
  cases event with
  | add => rintro ⟨⟩
  | remove => cases h

end SubscriptionEvent

namespace Subscriptions

variable {σ : Type}

/-! ### Histories -/

/-- Somebody has subscribed to an identifier and has not unsubscribed from it since. -/
def IsBound (events : List (SubscriptionEvent σ)) (id : String) (subscriber : σ) : Prop :=
  ∃ before event after, events = before ++ event :: after ∧ event.Subscribes subscriber id
    ∧ ∀ e ∈ after, ¬ e.Unsubscribes subscriber id

/-- The binding of somebody to an identifier began after a number of events: with the next one
somebody subscribed who was not bound then, and has not unsubscribed since. -/
def BoundSince (events : List (SubscriptionEvent σ)) (id : String) (subscriber : σ) (n : Nat) :
    Prop :=
  ∃ before event after, events = before ++ event :: after ∧ before.length = n
    ∧ event.Subscribes subscriber id ∧ ¬ IsBound before id subscriber
    ∧ ∀ e ∈ after, ¬ e.Unsubscribes subscriber id

/-- The bindings of subscribers to an identifier began one after the other. -/
def AreInOrder (events : List (SubscriptionEvent σ)) (id : String) (subscribers : List σ) : Prop :=
  subscribers.Pairwise fun a b =>
    ∃ m n, m < n ∧ BoundSince events id a m ∧ BoundSince events id b n

variable {events : List (SubscriptionEvent σ)} {event : SubscriptionEvent σ} {id : String}
  {subscriber : σ} {n : Nat}

theorem not_isBound_nil : ¬ IsBound [] id subscriber
  := by
  rintro ⟨before, event, after, split, -⟩
  simp at split

/-- Where an event stands in a history with one more event at its end. -/
theorem concat_eq_append_cons_iff {e : SubscriptionEvent σ}
    {before after : List (SubscriptionEvent σ)} :
  events ++ [event] = before ++ e :: after
    ↔ (before = events ∧ e = event ∧ after = [])
      ∨ ∃ rest, after = rest ++ [event] ∧ events = before ++ e :: rest
  := by
  constructor
  · intro split
    obtain rfl | ⟨rest, last, rfl⟩ := after.eq_nil_or_concat
    · obtain ⟨rfl, same⟩ := List.append_inj' split rfl
      exact .inl ⟨rfl, (List.cons.inj same).1.symm, rfl⟩
    · rw [List.concat_eq_append, ← List.cons_append, ← List.append_assoc] at split
      obtain ⟨rfl, same⟩ := List.append_inj' split rfl
      exact .inr ⟨rest, by rw [List.concat_eq_append, same], rfl⟩
  · rintro (⟨rfl, rfl, rfl⟩ | ⟨rest, rfl, rfl⟩)
    · rfl
    · simp

/-- Who is bound after one more event: who subscribes with it, and who was bound and does not
unsubscribe. -/
theorem isBound_concat_iff :
  IsBound (events ++ [event]) id subscriber
    ↔ event.Subscribes subscriber id
      ∨ IsBound events id subscriber ∧ ¬ event.Unsubscribes subscriber id
  := by
  constructor
  · rintro ⟨before, e, after, split, subscribes, kept⟩
    obtain ⟨rfl, rfl, rfl⟩ | ⟨rest, rfl, rfl⟩ := concat_eq_append_cons_iff.1 split
    · exact .inl subscribes
    · rw [List.forall_mem_append, List.forall_mem_singleton] at kept
      exact .inr ⟨⟨before, e, rest, rfl, subscribes, kept.1⟩, kept.2⟩
  · rintro (subscribes | ⟨⟨before, e, after, rfl, subscribes, kept⟩, keeps⟩)
    · exact ⟨events, event, [], rfl, subscribes, List.forall_mem_nil _⟩
    · refine ⟨before, e, after ++ [event], by simp, subscribes, ?_⟩
      rw [List.forall_mem_append, List.forall_mem_singleton]
      exact ⟨kept, keeps⟩

/-- Since when somebody is bound after one more event: since that event if they subscribe with it and
were not bound, and since they were bound if they do not unsubscribe. -/
theorem boundSince_concat_iff :
  BoundSince (events ++ [event]) id subscriber n
    ↔ (n = events.length ∧ event.Subscribes subscriber id ∧ ¬ IsBound events id subscriber)
      ∨ BoundSince events id subscriber n ∧ ¬ event.Unsubscribes subscriber id
  := by
  constructor
  · rintro ⟨before, e, after, split, rfl, subscribes, fresh, kept⟩
    obtain ⟨rfl, rfl, rfl⟩ | ⟨rest, rfl, rfl⟩ := concat_eq_append_cons_iff.1 split
    · exact .inl ⟨rfl, subscribes, fresh⟩
    · rw [List.forall_mem_append, List.forall_mem_singleton] at kept
      exact .inr ⟨⟨before, e, rest, rfl, rfl, subscribes, fresh, kept.1⟩, kept.2⟩
  · rintro (⟨rfl, subscribes, fresh⟩ | ⟨⟨before, e, after, rfl, began, subscribes, fresh, kept⟩, keeps⟩)
    · exact ⟨events, event, [], rfl, rfl, subscribes, fresh, List.forall_mem_nil _⟩
    · refine ⟨before, e, after ++ [event], by simp, began, subscribes, fresh, ?_⟩
      rw [List.forall_mem_append, List.forall_mem_singleton]
      exact ⟨kept, keeps⟩

theorem BoundSince.isBound (h : BoundSince events id subscriber n) : IsBound events id subscriber
  := by
  obtain ⟨before, e, after, split, -, subscribes, -, kept⟩ := h
  exact ⟨before, e, after, split, subscribes, kept⟩

theorem BoundSince.lt_length (h : BoundSince events id subscriber n) : n < events.length
  := by
  obtain ⟨before, e, after, rfl, rfl, -⟩ := h
  simp

/-- Every binding has begun at some time. -/
theorem IsBound.exists_boundSince (h : IsBound events id subscriber) :
  ∃ n, BoundSince events id subscriber n
  := by
  induction events using List.reverseRecOn with
  | nil => apply absurd h not_isBound_nil
  | append_singleton events event ih =>
    simp only [boundSince_concat_iff]
    by_cases bound : IsBound events id subscriber
    · obtain ⟨n, since⟩ := ih bound
      refine ⟨n, .inr ⟨since, ?_⟩⟩
      obtain subscribes | ⟨-, keeps⟩ := isBound_concat_iff.1 h
      · apply subscribes.not_unsubscribes
      · apply keeps
    · obtain subscribes | ⟨old, -⟩ := isBound_concat_iff.1 h
      · exact ⟨events.length, .inl ⟨rfl, subscribes, bound⟩⟩
      · apply absurd old bound

/-- There is no doubt about when a binding began. -/
theorem BoundSince.unique {m : Nat} (h : BoundSince events id subscriber m)
    (h' : BoundSince events id subscriber n) :
  m = n
  := by
  induction events using List.reverseRecOn with
  | nil => apply absurd h.isBound not_isBound_nil
  | append_singleton events event ih =>
    obtain ⟨rfl, -, fresh⟩ | ⟨since, -⟩ := boundSince_concat_iff.1 h
      <;> obtain ⟨rfl, -, fresh'⟩ | ⟨since', -⟩ := boundSince_concat_iff.1 h'
    · rfl
    · apply absurd since'.isBound fresh
    · apply absurd since.isBound fresh'
    · apply ih since since'

/-- An order lasts over an event that ends none of the bindings. -/
theorem AreInOrder.concat {subscribers : List σ} (h : AreInOrder events id subscribers)
    (keeps : ∀ s ∈ subscribers, ¬ event.Unsubscribes s id) :
  AreInOrder (events ++ [event]) id subscribers
  := by
  apply List.Pairwise.imp_of_mem _ h
  rintro a b ha hb ⟨m, n, lt, since, since'⟩
  exact ⟨m, n, lt, boundSince_concat_iff.2 (.inr ⟨since, keeps a ha⟩),
    boundSince_concat_iff.2 (.inr ⟨since', keeps b hb⟩)⟩

/-! ### Changes -/

section Changes

variable {s : Subscriptions σ} {id' : String} {ids : List String}

theorem boundTo_rebound {bound : List σ} {distinct : bound.Nodup} :
  (s.rebound id bound distinct).boundTo id' = if id' = id then bound else s.boundTo id'
  := by
  rw [boundTo, rebound, OrderedMap.get?_insert]
  split <;> rfl

variable [DecidableEq σ]

theorem boundTo_bind :
  (s.bind subscriber id).boundTo id'
    = if id' = id ∧ subscriber ∉ s.boundTo id' then s.boundTo id' ++ [subscriber]
      else s.boundTo id'
  := by
  rw [bind]
  split
  · rename_i bound
    rw [if_neg]
    rintro ⟨rfl, unbound⟩
    apply unbound bound
  · rename_i unbound
    rw [boundTo_rebound]
    by_cases here : id' = id
    · subst here
      simp [unbound]
    · simp [here]

theorem boundTo_release :
  (s.release subscriber id).boundTo id'
    = if id' = id then (s.boundTo id').filter (· ≠ subscriber) else s.boundTo id'
  := by
  have released : (s.release subscriber id).boundTo id'
      = if id' = id then (s.boundTo id).filter (· ≠ subscriber) else s.boundTo id' :=
    boundTo_rebound
  rw [released]
  split
  · rename_i here
    rw [here]
  · rfl

/-- Whoever subscribes to identifiers comes last where they were not bound. -/
theorem boundTo_add :
  (s.add subscriber ids).boundTo id
    = if id ∈ idsOf ids ∧ subscriber ∉ s.boundTo id then s.boundTo id ++ [subscriber]
      else s.boundTo id
  := by
  rw [add]
  induction idsOf ids generalizing s with
  | nil => simp
  | cons first rest ih =>
    rw [List.foldl_cons, ih, boundTo_bind]
    by_cases bound : subscriber ∈ s.boundTo id
    · simp [bound]
    · by_cases here : id = first
      · subst here
        simp [bound]
      · simp [bound, here]

/-- Whoever unsubscribes from identifiers leaves the others there in their places. -/
theorem boundTo_remove :
  (s.remove subscriber ids).boundTo id
    = if id ∈ idsOf ids then (s.boundTo id).filter (· ≠ subscriber) else s.boundTo id
  := by
  rw [remove]
  induction idsOf ids generalizing s with
  | nil => simp
  | cons first rest ih =>
    rw [List.foldl_cons, ih, boundTo_release]
    by_cases here : id = first
    · subst here
      simp [List.filter_filter]
    · simp [here]

/-- The subscriptions after a change. -/
def after (s : Subscriptions σ) : SubscriptionEvent σ → Subscriptions σ
  | .add subscriber ids => s.add subscriber ids
  | .remove subscriber ids => s.remove subscriber ids

/-- The subscriptions that come of a history. -/
def run (events : List (SubscriptionEvent σ)) : Subscriptions σ := events.foldl after empty

theorem run_concat : run (events ++ [event]) = (run events).after event
  := by rw [run, List.foldl_append, List.foldl_cons, List.foldl_nil, run]

/-- A change of other subscriptions changes nothing here. -/
theorem boundTo_after_of_notMem (elsewhere : id ∉ event.ids) :
  (s.after event).boundTo id = s.boundTo id
  := by
  cases event with
  | add subscriber ids =>
    rw [after, boundTo_add, if_neg]
    exact fun h => elsewhere h.1
  | remove subscriber ids =>
    rw [after, boundTo_remove, if_neg]
    exact elsewhere

theorem boundTo_after_congr {t : Subscriptions σ} (same : s.boundTo id = t.boundTo id) :
  (s.after event).boundTo id = (t.after event).boundTo id
  := by
  cases event with
  | add subscriber ids => rw [after, boundTo_add, same, after, boundTo_add]
  | remove subscriber ids => rw [after, boundTo_remove, same, after, boundTo_remove]

/-- Who is bound after a change. -/
theorem mem_boundTo_after_iff :
  subscriber ∈ (s.after event).boundTo id
    ↔ event.Subscribes subscriber id
      ∨ subscriber ∈ s.boundTo id ∧ ¬ event.Unsubscribes subscriber id
  := by
  cases event with
  | add other ids =>
    rw [after, boundTo_add]
    change _ ↔ (other = subscriber ∧ id ∈ idsOf ids) ∨ subscriber ∈ s.boundTo id ∧ ¬ False
    split
    · rename_i fresh
      rw [List.mem_append, List.mem_singleton, eq_comm, or_comm]
      simp [fresh.1]
    · rename_i stale
      simp only [not_and, not_not] at stale
      simp only [not_false_eq_true, and_true, iff_or_self]
      rintro ⟨rfl, here⟩
      apply stale here
  | remove other ids =>
    rw [after, boundTo_remove]
    change _ ↔ False ∨ subscriber ∈ s.boundTo id ∧ ¬ (other = subscriber ∧ id ∈ idsOf ids)
    split
    · rename_i here
      rw [List.mem_filter, decide_eq_true_eq, ne_comm]
      simp [here]
    · rename_i elsewhere
      simp [elsewhere]

/-- Those are bound who have subscribed and not unsubscribed since. -/
theorem mem_boundTo_run_iff : subscriber ∈ (run events).boundTo id ↔ IsBound events id subscriber
  := by
  induction events using List.reverseRecOn with
  | nil => simp [run, boundTo, empty, not_isBound_nil]
  | append_singleton events event ih =>
    rw [run_concat, mem_boundTo_after_iff, ih, isBound_concat_iff]

/-- The subscribers to an identifier stand in the order in which their bindings began. -/
theorem areInOrder_run : AreInOrder events id ((run events).boundTo id)
  := by
  induction events using List.reverseRecOn with
  | nil => apply List.Pairwise.nil
  | append_singleton events event ih =>
    rw [run_concat]
    cases event with
    | add other ids =>
      have lasting : AreInOrder (events ++ [.add other ids]) id ((run events).boundTo id) := by
        apply ih.concat
        rintro a - ⟨⟩
      rw [after, boundTo_add]
      split
      · rename_i fresh
        -- The bindings that are there began before this event, with which the new one begins.
        refine List.pairwise_append.2 ⟨lasting, List.pairwise_singleton .., ?_⟩
        simp only [List.mem_singleton, forall_eq]
        intro a bound
        obtain ⟨m, since⟩ := (mem_boundTo_run_iff.1 bound).exists_boundSince
        refine ⟨m, events.length, since.lt_length, boundSince_concat_iff.2 (.inr ⟨since, ?_⟩),
          boundSince_concat_iff.2 (.inl ⟨rfl, ⟨rfl, fresh.1⟩, ?_⟩)⟩
        · rintro ⟨⟩
        · rw [← mem_boundTo_run_iff]
          apply fresh.2
      · apply lasting
    | remove other ids =>
      rw [after, boundTo_remove]
      split
      · -- Those who are left do not unsubscribe, so their bindings last.
        apply AreInOrder.concat (ih.sublist List.filter_sublist)
        rintro a remains ⟨rfl, -⟩
        simp at remains
      · rename_i elsewhere
        apply ih.concat
        rintro a - ⟨-, here⟩
        apply elsewhere here

/-- Changes that are about other identifiers may as well be left out. -/
theorem boundTo_run_filter {p : SubscriptionEvent σ → Bool} (about : ∀ e, id ∈ e.ids → p e = true) :
  (run (events.filter p)).boundTo id = (run events).boundTo id
  := by
  induction events using List.reverseRecOn with
  | nil => rfl
  | append_singleton events event ih =>
    rw [List.filter_append, run_concat]
    by_cases kept : p event = true
    · rw [List.filter_cons_of_pos kept, List.filter_nil, run_concat]
      apply boundTo_after_congr ih
    · rw [List.filter_cons_of_neg kept, List.filter_nil, List.append_nil, ih,
        boundTo_after_of_notMem]
      intro here
      apply kept (about event here)

end Changes

/-! ### Deliveries -/

/-- A payload of a resource was handed to a subscriber, who took it or failed to. -/
structure Handover (σ : Type) where
  subscriber : σ
  id : String
  payload : Bytes
  taken : Bool
deriving DecidableEq

section Deliveries

variable {ω : Type}

/-- Handovers lead from a world to another one, each in the world that the one before has left. -/
inductive Leads (hand : String → Bytes → ω → σ → ω × Bool) : ω → List (Handover σ) → ω → Prop where
  | done (world : ω) : Leads hand world [] world
  | next {world world' after : ω} {h : Handover σ} {rest : List (Handover σ)} :
    hand h.id h.payload world h.subscriber = (world', h.taken) → Leads hand world' rest after →
      Leads hand world (h :: rest) after

/-- Every recipient is handed the payload, one after the other, and what they say of it is counted. -/
theorem exists_leads_deliverTo (hand : String → Bytes → ω → σ → ω × Bool) (id : String)
    (payload : Bytes) (world : ω) (recipients : List σ) :
  ∃ handovers, Leads hand world handovers (deliverTo (hand id payload) world recipients).1
    ∧ handovers.map (·.subscriber) = recipients
    ∧ (∀ h ∈ handovers, h.id = id ∧ h.payload = payload)
    ∧ (deliverTo (hand id payload) world recipients).2
      = ⟨handovers.countP (·.taken), handovers.countP (! ·.taken)⟩
  := by
  induction recipients generalizing world with
  | nil => exact ⟨[], .done world, rfl, List.forall_mem_nil _, rfl⟩
  | cons first rest ih =>
    obtain ⟨handovers, leads, same, alike, report⟩ := ih (hand id payload world first).1
    refine ⟨⟨first, id, payload, (hand id payload world first).2⟩ :: handovers, .next rfl ?_, ?_,
      List.forall_mem_cons.2 ⟨⟨rfl, rfl⟩, alike⟩, ?_⟩
    · rw [deliverTo_cons_fst]
      apply leads
    · rw [List.map_cons, same]
    · rw [deliverTo_cons_snd, report, List.countP_cons, List.countP_cons]
      cases (hand id payload world first).2 <;> rfl

end Deliveries

/-- Payloads of a resource go to those who are bound to it and then to those who are bound to all
resources only. -/
structure DeliversInOrder [DecidableEq σ] (events : List (SubscriptionEvent σ)) (id : String) :
    Prop where
  /-- Who gets a payload: first those who are bound to the resource and then those who are bound to
  all and not to it, both in the order in which their bindings began. -/
  recipients : ∃ others, (run events).recipients id = (run events).boundTo id ++ others
    ∧ (∀ s, s ∈ (run events).boundTo id ↔ IsBound events id s)
    ∧ (∀ s, s ∈ others ↔ IsBound events wildcard s ∧ ¬ IsBound events id s)
    ∧ AreInOrder events id ((run events).boundTo id) ∧ AreInOrder events wildcard others
  /-- Nobody gets it twice. -/
  once : ((run events).recipients id).Nodup
  /-- Each of them is handed the payload, whatever the others make of it, and all are counted. -/
  delivery {ω : Type} (hand : String → Bytes → ω → σ → ω × Bool) (payload : Bytes) (world : ω) :
    ∃ after report handovers,
      deliverTo (hand id payload) world ((run events).recipients id) = (after, report)
        ∧ Leads hand world handovers after
        ∧ handovers.map (·.subscriber) = (run events).recipients id
        ∧ (∀ h ∈ handovers, h.id = id ∧ h.payload = payload)
        ∧ report.delivered = handovers.countP (·.taken)
        ∧ report.failed = handovers.countP (! ·.taken)
        ∧ report.delivered + report.failed = ((run events).recipients id).length
  /-- Who is bound to an identifier has to do with the changes about that identifier only. -/
  apart : (run (events.filter (id ∈ ·.ids))).boundTo id = (run events).boundTo id
  /-- Who gets a payload has to do with the changes about its resource and about all only. -/
  undisturbed : (run (events.filter fun e => id ∈ e.ids ∨ wildcard ∈ e.ids)).recipients id
    = (run events).recipients id

/-- After any history payloads are delivered to those who are bound, each once, in order and apart
from other resources. -/
theorem deliversInOrder_run [DecidableEq σ] (events : List (SubscriptionEvent σ)) (id : String) :
  DeliversInOrder events id
  where
  recipients := by
    refine ⟨if id = wildcard then [] else ((run events).boundTo wildcard).filter
        (· ∉ (run events).boundTo id), ?_, fun _ => mem_boundTo_run_iff, ?_, areInOrder_run, ?_⟩
    · rw [Subscriptions.recipients]
      split
      · rename_i all
        rw [all, List.append_nil]
      · rfl
    · intro s
      split
      · rename_i all
        simp [all]
      · simp [mem_boundTo_run_iff]
    · split
      · apply List.Pairwise.nil
      · apply areInOrder_run.sublist List.filter_sublist
  once := nodup_recipients _ id
  delivery hand payload world := by
    obtain ⟨handovers, leads, same, alike, counts⟩ :=
      exists_leads_deliverTo hand id payload world ((run events).recipients id)
    refine ⟨_, _, handovers, rfl, leads, same, alike, ?_, ?_, ?_⟩
    · rw [counts]
    · rw [counts]
    · rw [counts, ← same, List.length_map, List.length_eq_countP_add_countP (·.taken)]
      simp
  apart := by
    apply boundTo_run_filter
    simp
  undisturbed := by
    have own : (run (events.filter fun e => id ∈ e.ids ∨ wildcard ∈ e.ids)).boundTo id
        = (run events).boundTo id := by
      apply boundTo_run_filter
      simp +contextual
    have all : (run (events.filter fun e => id ∈ e.ids ∨ wildcard ∈ e.ids)).boundTo wildcard
        = (run events).boundTo wildcard := by
      apply boundTo_run_filter
      simp +contextual
    rw [Subscriptions.recipients, own, all, Subscriptions.recipients]

/-- A subscriber to a resource and to all is first, and one who has come back is last. -/
example : (run [.add 1 [], .add 2 ["a", "b", "a"], .add 3 [], .add 3 ["a"], .remove 1 [],
    .add 1 [""]]).recipients "a" = [2, 3, 1]
  := by decide

end Subscriptions

end CrossRate
