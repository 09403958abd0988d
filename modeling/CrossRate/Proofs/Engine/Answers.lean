import CrossRate.Proofs.Engine.Assembly
import CrossRate.Proofs.Session.Lawful

/-!
# Answers of an engine

Without a memo an engine asks its providers in the order of its settings. Its answer is that of
the first provider that the query accepts and that has a rate; whatever the others fail with,
they hide nobody, and if all fail the answer is the plain one that there is no such rate. Asked
again, it answers the same until some load has succeeded (`Engine.asksInTurn_of_assemble`).
-/

namespace CrossRate.Engine

variable {ω η : Type} {h : Runner ω η} {fits : ω → Prop}

/-- A query to an engine without a memo. -/
structure AsksInTurn (h : Runner ω η) (fits : ω → Prop) (e : Engine) (query : RateQuery) (w : ω) :
    Prop where
  engine (now : Nat) : (e.rate h now query w).2.1 = e
  /-- The answer is the rate of the first link that is accepted and has one when it is asked. -/
  answer_iff {now : Nat} {r : RateRecord} {w' : ω} :
    e.rate h now query w = (.ok r, e, w')
      ↔ ∃ skipped link rest s, e.links = skipped ++ link :: rest
          ∧ h.access.PassesOver query skipped w s ∧ query.accepts link.name = true
          ∧ h.access.rate link query s = (.ok r, w')
  /-- If there is none, the answer does not depend on why. -/
  failure_iff {now : Nat} {x : RateError} {w' : ω} :
    e.rate h now query w = (.error x, e, w')
      ↔ x = .unavailable query.pair chainName
          ∧ h.access.PassesOver query e.links w w'
  /-- A rate is from a provider that the query accepts. -/
  accepted {now : Nat} {r : RateRecord} :
    (e.rate h now query w).1 = .ok r → query.accepts r.provider = true
  /-- If no load has succeeded since, the query is answered the same at any time of the day, and
  nobody is waited for. -/
  again {now later : Nat} {w' : ω} : h.Continues fits (e.rate h now query w).2.2 w' →
    (∀ link ∈ e.links, h.successesOf w' link = h.successesOf w link) →
      e.rate h later query w' = ((e.rate h now query w).1, e, w')

/-- An engine without a memo answers what its chain answers. -/
theorem rate_of_memo_eq_none {e : Engine} (plain : e.memo = none) (now : Nat) (query : RateQuery)
    (w : ω) :
  e.rate h now query w
    = ((h.access.firstRate query e.links w).1, e, (h.access.firstRate query e.links w).2)
  := by
  have nothing : e.remembered? now query = (none, e) := by rw [remembered?, plain]
  rw [rate, nothing]
  dsimp only
  rcases h.access.firstRate query e.links w with ⟨x | r, w'⟩
  · rfl
  · have same : e.remember now query r = e := by
      obtain ⟨settings, links, memo⟩ := e
      obtain rfl : memo = none := plain
      rfl
    dsimp only
    rw [same]

/-- Whatever an engine is asked after it has been set up, it asks its providers in turn. -/
theorem asksInTurn_of_assemble (lawful : h.IsLawful fits) {s : EngineSettings} {e : Engine}
    {w₀ w₁ w : ω} (fit : fits w₀) (assembled : Engine.assemble h s w₀ = (.ok e, w₁))
    (plain : s.remembers = false) (fit' : fits w)
    (later : ProvidersBecome (h.desk w₁).providers (h.desk w).providers) (query : RateQuery) :
  List.Forall₂ (h.IsLinkOf s.loadTimeout w) s.providers e.links ∧ e.AsksInTurn h fits query w
  := by
  have links := (links_of_assemble lawful fit assembled).2.imp (fun _ _ hl => hl.of_becomes later)
  have wired := isWired_of_assemble lawful fit assembled later
  have memo : e.memo = none := by
    obtain ⟨-, links, -, rfl⟩ := assemble_eq_ok_iff.1 assembled
    simp [memoOf, plain]
  use links
  constructor
  case engine =>
    intro now
    rw [rate_of_memo_eq_none memo]
  case answer_iff =>
    intro now r w'
    rw [rate_of_memo_eq_none memo]
    apply Iff.trans _ ChainAccess.firstRate_eq_ok_iff
    simp [Prod.ext_iff]
  case failure_iff =>
    intro now x w'
    rw [rate_of_memo_eq_none memo, ← ChainAccess.firstRate_eq_error_iff]
    simp [Prod.ext_iff]
  case accepted =>
    intro now r answer
    rw [rate_of_memo_eq_none memo] at answer
    obtain ⟨skipped, link, rest, s', split, passed, accepts, rate⟩ :=
      ChainAccess.firstRate_eq_ok_iff.1 (Prod.ext answer rfl)
    have here := wired link (by simp [split])
    have before := lawful.continues_of_passesOver fit' passed
    have provider := lawful.provider_of_access_rate before.fits
      (here.of_becomes before.desk.providers) (congrArg Prod.fst rate)
    rw [provider]
    apply accepts
  case again =>
    intro now now' w' continues same
    rw [rate_of_memo_eq_none memo] at continues ⊢
    have today := continues.desk.today.trans
      (lawful.continues_firstRate fit' e.links query).desk.today
    rw [rate_of_memo_eq_none memo,
      lawful.firstRate_again fit' wired continues.desk.providers (.inl today) same]

/-- The provider that is asked first is waited for in vain, since its feed is late, and hides
nobody. -/
theorem asksInTurn_of_assemble_late_feed :
  ∃ (s : EngineSettings) (start w : Session) (query : RateQuery) (e : Engine) (r : RateRecord),
    s = { providers := ["ECB", "ident"], loadTimeout := 2, remembers := false }
      ∧ Engine.assemble (Session.runner Session.mainSeat) s start = (.ok e, w)
      ∧ query = ⟨.euro, .euro, none, []⟩
      ∧ (e.rate (Session.runner Session.mainSeat) 0 query w).1 = .ok r ∧ r.provider = "IDENT"
      ∧ w.first.providers.map (·.gate) = [.pending]
      ∧ (e.rate (Session.runner Session.mainSeat) 0 query w).2.2.first.providers.map (·.gate)
          = [.forced]
      ∧ (e.rate (Session.runner Session.mainSeat) 0 query w).2.2.now = 2000
      ∧ e.AsksInTurn (Session.runner Session.mainSeat) (Session.Seats Session.mainSeat) query w
  := by
  let h := Session.runner Session.mainSeat
  let s : EngineSettings := { providers := ["ECB", "ident"], loadTimeout := 2, remembers := false }
  let today : Date := ⟨739194, by decide, by decide⟩
  let address := (Location.web (Catalog.ecbAddress "eurofxref-daily.xml")).print
  let late : SetAnswer := { answer := .error "refused", delay := 60000 }
  let start : Session := { first := { today, supply := .set (.ofList [(address, late)]) } }
  let query : RateQuery := ⟨.euro, .euro, none, []⟩
  let w := (Engine.assemble h s start).2
  have checked : (Engine.assemble h s start).1.toOption.any (fun e =>
      (e.rate h 0 query w).1.toOption.any (·.provider = "IDENT")
        && (w.first.providers.map (·.gate) = [.pending]
          && ((e.rate h 0 query w).2.2.first.providers.map (·.gate) = [.forced]
            && (e.rate h 0 query w).2.2.now = 2000))) = true := by
    decide +kernel
  obtain ⟨e, assembled, checked⟩ := (Option.any_eq_true _ _).1 checked
  have assembled : Engine.assemble h s start = (.ok e, w) :=
    Prod.ext (toOption_eq_some_iff.1 assembled) rfl
  simp only [Bool.and_eq_true, decide_eq_true_eq] at checked
  obtain ⟨some, before, after, time⟩ := checked
  obtain ⟨r, answer, provider⟩ := (Option.any_eq_true _ _).1 some
  rw [toOption_eq_some_iff] at answer
  have lawful := Session.isLawful_runner Session.mainSeat
  have seats : Session.Seats Session.mainSeat start := Nat.zero_le _
  have seats' := (links_of_assemble lawful seats assembled).1.fits
  have inTurn := asksInTurn_of_assemble lawful seats assembled rfl seats' (.refl _) query
  use s, start, w, query, e, r, rfl, assembled, rfl, answer, of_decide_eq_true provider, before,
    after, time
  apply inTurn.2

end CrossRate.Engine
