import CrossRate.Proofs.Loading.Delivery
import CrossRate.Proofs.Loading.Pieces
import CrossRate.Proofs.Provider.Lifecycle

/-!
# What becomes of providers

Whatever is done at a desk, its providers live on: each becomes another by events, and others
may be added (`Desk.Continues`). A query settles a provider. When it is asked again, on the same
day and after no load that succeeded, the provider has the same rate or again none, and stays as
it is (`FeedProvider.rate_again`).
-/

namespace CrossRate

namespace FeedProvider

variable {p q r : FeedProvider} {today : Date} {query : RateQuery}

/-- What a provider has become by events. -/
def Becomes (p q : FeedProvider) : Prop := ∃ events, q = p.live events

theorem Becomes.refl (p : FeedProvider) : p.Becomes p
  := ⟨[], rfl⟩

theorem Becomes.trans (h : p.Becomes q) (h' : q.Becomes r) : p.Becomes r
  := by
  obtain ⟨earlier, rfl⟩ := h
  obtain ⟨later, rfl⟩ := h'
  use earlier ++ later
  rw [live_append]

/-- A provider becomes another by one event. -/
theorem becomes_after (p : FeedProvider) (today : Date) (event : ProviderEvent) :
  p.Becomes (p.after today event)
  := ⟨[(today, event)], rfl⟩

theorem Becomes.precedes (h : p.Becomes q) : p.Precedes q
  := by
  obtain ⟨events, rfl⟩ := h
  apply precedes_live

theorem Becomes.name (h : p.Becomes q) : q.name = p.name
  := by rw [FeedProvider.name, h.precedes.sameFeed.1, FeedProvider.name]

theorem Becomes.isConsistent (h : p.Becomes q) (consistent : p.IsConsistent) : q.IsConsistent
  := by
  obtain ⟨events, rfl⟩ := h
  apply consistent.live

/-! ### Queries that are asked again -/

/-- A provider whose gate is not pending stays as it is. -/
theorem rate_snd_of_released (released : p.gate ≠ .pending) : (p.rate today query).2 = p
  := by
  rw [rate]
  split
  · rfl
  · simp [Gate.isOpen, released]

/-- A provider that has answered a query, in whatever way, is not pending any more. -/
theorem gate_rate_ne_pending (accepts : query.accepts p.name = true) :
  (p.rate today query).2.gate ≠ .pending
  := by
  rw [gate_rate, accepts]
  cases p.gate <;> decide

/-- It is never pending again. -/
theorem released_of_rate_becomes (later : (p.rate today query).2.Becomes q)
    (accepts : query.accepts p.name = true) :
  q.gate ≠ .pending
  := by
  have released : (p.rate today query).2.gate ≠ .pending := gate_rate_ne_pending accepts
  rw [later.precedes.gate released]
  apply released

/-- A query that is asked again, on the same day and after no load that succeeded, leaves the
provider as it is, and gets the same rate or again none. -/
theorem rate_again (consistent : p.IsConsistent) (later : (p.rate today query).2.Becomes q)
    (same : q.successes = p.successes) (accepts : query.accepts p.name = true) :
  (q.rate today query).2 = q
    ∧ (q.rate today query).1.toOption = (p.rate today query).1.toOption
  := by
  have name : q.name = p.name := later.name.trans (by rw [rate_snd_eq]; rfl)
  have released := released_of_rate_becomes later accepts
  have table : q.table = p.table := by
    have kept := later.precedes.table
    rw [rate_snd_eq] at kept
    apply kept same
  use rate_snd_of_released released
  rw [← name] at accepts
  rw [rate_eq_resolve accepts released, name, table]
  by_cases pending : p.gate = .pending
  · have empty : p.table = .empty := by
      by_contra some
      have load := consistent.table_iff.1 some
      rw [consistent.pending pending] at load
      omega
    rw [name] at accepts
    simp [rate, accepts, pending, Gate.isOpen, empty, RateTable.resolve, Except.toOption]
  · rw [name] at accepts
    rw [rate_eq_resolve accepts pending]

/-- On another day a provider answers a query alike if its table does not lag, or if the query asks
for a day. -/
theorem rate_fst_of_lags (dayless : query.asOf = none → p.table.lags = false) (later : Date) :
  (p.rate later query).1 = (p.rate today query).1
  := by
  have same : p.answer later query = p.answer today query :=
    RateTable.resolve_eq_of_lags dayless p.name today later
  rw [rate, rate]
  split
  · rfl
  · split
    · exact same
    · rfl

end FeedProvider

/-! ### Providers of a desk -/

/-- What providers have become, each under its number. -/
def ProvidersBecome (ps qs : List FeedProvider) : Prop :=
  ∀ ⦃number : Nat⦄ ⦃p : FeedProvider⦄, ps[number]? = some p →
    ∃ q, qs[number]? = some q ∧ p.Becomes q

namespace ProvidersBecome

variable {ps qs rs : List FeedProvider}

theorem refl (ps : List FeedProvider) : ProvidersBecome ps ps
  := fun _ p found => ⟨p, found, .refl p⟩

theorem trans (h : ProvidersBecome ps qs) (h' : ProvidersBecome qs rs) : ProvidersBecome ps rs
  := by
  intro number p found
  obtain ⟨q, found, becomes⟩ := h found
  obtain ⟨r, found, becomes'⟩ := h' found
  exact ⟨r, found, becomes.trans becomes'⟩

/-- Some providers may be added. -/
theorem append (ps more : List FeedProvider) : ProvidersBecome ps (ps ++ more)
  := by
  intro number p found
  use p
  constructor
  · rw [List.getElem?_append_left (List.getElem?_eq_some_iff.1 found).1, found]
  · apply FeedProvider.Becomes.refl

/-- One provider may become another. -/
theorem modify (number : Nat) {f : FeedProvider → FeedProvider}
    (becomes : ∀ p, ps[number]? = some p → p.Becomes (f p)) :
  ProvidersBecome ps (ps.modify number f)
  := by
  intro other p found
  rw [List.getElem?_modify, found]
  by_cases same : number = other
  · subst same
    exact ⟨f p, by simp, becomes p found⟩
  · exact ⟨p, by simp [same], .refl p⟩

/-- Providers that are fed with a payload. -/
theorem foldl_fed (today : Date) (payload : Bytes) (recipients : List Subscriber) :
  ProvidersBecome ps (recipients.foldl (Subscriber.fed today payload) ps)
  := by
  induction recipients generalizing ps with
  | nil => apply refl
  | cons s recipients ih =>
    apply trans _ ih
    cases s with
    | observer name fails => apply refl
    | provider number => exact modify number (fun p _ => p.becomes_after today (.payload payload))

end ProvidersBecome

namespace Desk

variable {d d' d'' : Desk}

/-- A desk at which things were done on one day. -/
structure Continues (d d' : Desk) : Prop where
  today : d'.today = d.today
  providers : ProvidersBecome d.providers d'.providers

theorem Continues.refl (d : Desk) : d.Continues d
  := ⟨rfl, .refl _⟩

theorem Continues.trans (h : d.Continues d') (h' : d'.Continues d'') : d.Continues d''
  := ⟨h'.today.trans h.today, h.providers.trans h'.providers⟩

theorem continues_modifyProvider (number : Nat) {f : FeedProvider → FeedProvider}
    (becomes : ∀ p, d.providers[number]? = some p → p.Becomes (f p)) :
  d.Continues (d.modifyProvider number f)
  := ⟨rfl, .modify number becomes⟩

theorem continues_addProvider (d : Desk) (p : FeedProvider) : d.Continues (d.addProvider p)
  := ⟨rfl, .append _ _⟩

theorem continues_modifyLoader (d : Desk) (f : Loader Subscriber → Loader Subscriber) :
  d.Continues (d.modifyLoader f)
  := ⟨rfl, .refl _⟩

theorem continues_attach (d : Desk) (number : Nat) : d.Continues (d.attach number)
  := by
  rw [attach]
  split
  · apply (continues_modifyLoader d _).trans
    exact continues_modifyProvider number (fun p _ => p.becomes_after d.today .connected)
  · apply Continues.refl

theorem continues_noteFirstLoad (d : Desk) (number : Nat) (outcome : Except LoadError Layer) :
  d.Continues (d.noteFirstLoad number outcome)
  := by
  cases outcome with
  | ok layer => apply Continues.refl
  | error e =>
    exact continues_modifyProvider number (fun p _ => p.becomes_after d.today (.failed e.message))

theorem rate_of_getElem? {number : Nat} {p : FeedProvider} (query : RateQuery)
    (found : d.providers[number]? = some p) :
  d.rate number query
    = ((p.rate d.today query).1, d.modifyProvider number (fun _ => (p.rate d.today query).2))
  := by rw [rate, found]

/-- To put a provider in its own place changes nothing. -/
theorem modifyProvider_self {number : Nat} {p : FeedProvider}
    (found : d.providers[number]? = some p) :
  d.modifyProvider number (fun _ => p) = d
  := by
  obtain ⟨bound, rfl⟩ := List.getElem?_eq_some_iff.1 found
  simp [modifyProvider, List.modify_eq_set_getElem?, found]

theorem continues_rate (d : Desk) (number : Nat) (query : RateQuery) :
  d.Continues (d.rate number query).2
  := by
  rw [rate]
  split
  · rename_i p found
    apply continues_modifyProvider number
    intro q found'
    obtain rfl : p = q := Option.some.inj (found.symm.trans found')
    apply p.becomes_after d.today (.asked query)
  · apply Continues.refl

/-- The providers of a desk live on during loads. -/
theorem admitsLoads_continues : AdmitsLoads Continues
  where
  refl := .refl
  trans := .trans
  counting := fun d _ => d.continues_modifyLoader _
  noting := fun _ _ => ⟨rfl, .refl _⟩
  answered := fun _ _ _ _ => ⟨rfl, .refl _⟩
  stored := fun _ _ _ => ⟨rfl, .refl _⟩
  handOn := by
    intro d id ending
    rw [handOn]
    split
    · rw [deliver, deliverTo_fst]
      exact ⟨rfl, .foldl_fed _ _ _⟩
    · apply Continues.refl
  account := fun d _ => d.continues_modifyLoader _
  noteFirstLoad := continues_noteFirstLoad

end Desk

end CrossRate
