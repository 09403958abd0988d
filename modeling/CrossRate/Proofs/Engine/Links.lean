import CrossRate.Engine
import CrossRate.Proofs.Provider.Chain
import CrossRate.Proofs.Runner.Lawful

/-!
# Links of an engine

A link is wired in a world if its number leads to a provider of its name (`Runner.IsWired`), and
remains so while the providers live on. A query settles the links that are asked: when it is
asked again, after no load of theirs that succeeded, it has the same answer and changes nothing
(`Runner.IsLawful.firstRate_again`). That is so on the same day, and on another one if the query
asks for a day or accepts no link whose table lags (`Runner.IsDayless`).
-/

namespace CrossRate

namespace Runner

variable {ω η : Type} (h : Runner ω η)

/-- A link leads to a provider of its name. -/
def IsWired (w : ω) : Link → Prop
  | .identity => True
  | .feed name number => ∃ p, (h.desk w).providers[number]? = some p ∧ p.name = name
    ∧ p.IsConsistent

/-- How many loads of the provider of a link have succeeded. -/
def successesOf (w : ω) : Link → Nat
  | .identity => 0
  | .feed _ number => ((h.desk w).providers[number]?.map (·.successes)).getD 0

/-- Whether the table of the provider of a link lags. -/
def lags (w : ω) : Link → Bool
  | .identity => false
  | .feed _ number => ((h.desk w).providers[number]?.map (·.table.lags)).getD false

/-- The day on which a query is asked does not matter: it asks for a day, or accepts no link that
lags. -/
def IsDayless (w : ω) (links : List Link) (query : RateQuery) : Prop :=
  query.asOf = none → ∀ link ∈ links, query.accepts link.name = true → h.lags w link = false

variable {h} {fits : ω → Prop} {w w' w'' : ω} {query : RateQuery} {link : Link}

theorem IsWired.of_becomes (wired : h.IsWired w link)
    (later : ProvidersBecome (h.desk w).providers (h.desk w').providers) :
  h.IsWired w' link
  := by
  cases link with
  | identity => trivial
  | feed name number =>
    obtain ⟨p, found, named, consistent⟩ := wired
    obtain ⟨q, found', becomes⟩ := later found
    exact ⟨q, found', becomes.name.trans named, becomes.isConsistent consistent⟩

/-- No load is undone. -/
theorem IsWired.successesOf_le (wired : h.IsWired w link)
    (later : ProvidersBecome (h.desk w).providers (h.desk w').providers) :
  h.successesOf w link ≤ h.successesOf w' link
  := by
  cases link with
  | identity => apply Nat.le_refl
  | feed name number =>
    obtain ⟨p, found, -⟩ := wired
    obtain ⟨q, found', becomes⟩ := later found
    simpa [successesOf, found, found'] using becomes.precedes.successes

/-- If no load of a link has succeeded between two worlds, none has from one in between. -/
theorem IsWired.successesOf_eq (wired : h.IsWired w link)
    (first : ProvidersBecome (h.desk w).providers (h.desk w').providers)
    (second : ProvidersBecome (h.desk w').providers (h.desk w'').providers)
    (same : h.successesOf w'' link = h.successesOf w link) :
  h.successesOf w'' link = h.successesOf w' link
  := by
  have before := wired.successesOf_le first
  have after := (wired.of_becomes first).successesOf_le second
  omega

/-- A link that has had no load lags as it did before. -/
theorem IsWired.lags_eq (wired : h.IsWired w link)
    (later : ProvidersBecome (h.desk w).providers (h.desk w').providers)
    (same : h.successesOf w' link = h.successesOf w link) :
  h.lags w' link = h.lags w link
  := by
  cases link with
  | identity => rfl
  | feed name number =>
    obtain ⟨p, found, -⟩ := wired
    obtain ⟨q, found', becomes⟩ := later found
    have table := becomes.precedes.table (by simpa [successesOf, found, found'] using same)
    simp [lags, found, found', table]

theorem IsDayless.mono {links more : List Link} (dayless : h.IsDayless w more query)
    (subset : links ⊆ more) :
  h.IsDayless w links query
  := fun undated link mem => dayless undated link (subset mem)

/-- A query that is dayless remains so while no load succeeds. -/
theorem IsDayless.of_becomes {links : List Link} (dayless : h.IsDayless w links query)
    (wired : ∀ link ∈ links, h.IsWired w link)
    (later : ProvidersBecome (h.desk w).providers (h.desk w').providers)
    (same : ∀ link ∈ links, h.successesOf w' link = h.successesOf w link) :
  h.IsDayless w' links query
  := by
  intro undated link mem accepts
  rw [(wired link mem).lags_eq later (same link mem)]
  exact dayless undated link mem accepts

/-- A rate between a currency and itself is of the provider of such rates. -/
theorem provider_of_identityRate {r : RateRecord} (answer : identityRate query = .ok r) :
  r.provider = Catalog.identityName
  := by
  rw [identityRate] at answer
  split at answer
  · obtain ⟨draft, -, -⟩ := RateDraft.build_eq_ok_iff.1 (mapError_eq_ok_iff.1 answer)
    have context := congrArg RateDraft.context draft
    exact congrArg RateContext.provider (Option.some.inj context).symm
  · simp at answer

namespace IsLawful

variable (lawful : h.IsLawful fits)

include lawful

theorem continues_access_rate (hw : fits w) (link : Link) (query : RateQuery) :
  h.Continues fits w (h.access.rate link query w).2
  := by
  cases link with
  | identity => apply Continues.refl hw
  | feed name number => apply lawful.continues_rate hw

/-- A provider is asked as it has become while the query waited. -/
theorem exists_rate_eq {number : Nat} {p : FeedProvider} (hw : fits w)
    (found : (h.desk w).providers[number]? = some p) (query : RateQuery) :
  ∃ q, p.Becomes q
    ∧ (h.rate number query w).1 = (q.rate (h.desk w).today query).1
    ∧ (h.desk (h.rate number query w).2).providers[number]?
        = some (q.rate (h.desk w).today query).2
  := by
  have waited := lawful.continues_waited hw number query
  obtain ⟨q, found', becomes⟩ := waited.desk.providers found
  use q, becomes
  rw [rate_eq, modifyDesk, lawful.desk_setDesk _ waited.fits, Desk.rate_of_getElem? query found',
    waited.desk.today]
  use rfl
  simp [Desk.modifyProvider, found']

/-- A provider whose gate is not pending is asked at once, and nothing changes. -/
theorem rate_of_released {number : Nat} {p : FeedProvider}
    (found : (h.desk w).providers[number]? = some p) (released : p.gate ≠ .pending)
    (query : RateQuery) :
  h.rate number query w = ((p.rate (h.desk w).today query).1, w)
  := by
  have waited : h.waited number query w = w := by
    simp [Runner.waited, Desk.mustWait, found, Gate.isOpen, released]
  rw [rate_eq, waited, modifyDesk, Desk.rate_of_getElem? query found,
    FeedProvider.rate_snd_of_released released, Desk.modifyProvider_self found,
    lawful.setDesk_desk]

/-- A rate that a link has is one of the provider of its name. -/
theorem provider_of_access_rate (hw : fits w) (wired : h.IsWired w link) {r : RateRecord}
    (rate : (h.access.rate link query w).1 = .ok r) :
  r.provider = link.name
  := by
  cases link with
  | identity => apply provider_of_identityRate rate
  | feed name number =>
    obtain ⟨p, found, named, consistent⟩ := wired
    obtain ⟨q, becomes, answer, -⟩ := lawful.exists_rate_eq hw found query
    have answer := FeedProvider.answer_of_rate (answer.symm.trans rate)
    obtain ⟨day, made⟩ := (becomes.isConsistent consistent).isOf.resolve answer
    exact made.provider.trans (becomes.name.trans named)

/-- A link that has been asked is settled. -/
theorem access_rate_again (hw : fits w) (wired : h.IsWired w link)
    (accepts : query.accepts link.name = true)
    (later : ProvidersBecome (h.desk (h.access.rate link query w).2).providers
      (h.desk w'').providers)
    (day : (h.desk w'').today = (h.desk w).today ∨ (query.asOf = none → h.lags w'' link = false))
    (same : h.successesOf w'' link = h.successesOf w link) :
  ∃ answer, h.access.rate link query w'' = (answer, w'')
    ∧ answer.toOption = (h.access.rate link query w).1.toOption
  := by
  cases link with
  | identity => exact ⟨identityRate query, rfl, rfl⟩
  | feed name number =>
    obtain ⟨p, found, rfl, consistent⟩ := wired
    obtain ⟨q, becomes, answer, left⟩ := lawful.exists_rate_eq hw found query
    obtain ⟨q', found', becomes'⟩ := later left
    have accepts : query.accepts q.name = true := by
      rw [becomes.name]
      apply accepts
    have successes : q'.successes = q.successes := by
      have loads : q'.successes = p.successes := by simpa [successesOf, found, found'] using same
      have first := becomes.precedes.successes
      have second := (q.becomes_after (h.desk w).today (.asked query)).trans becomes'
      have second := second.precedes.successes
      omega
    obtain ⟨-, again⟩ :=
      FeedProvider.rate_again (becomes.isConsistent consistent) becomes' successes accepts
    have released := FeedProvider.released_of_rate_becomes becomes' accepts
    have today : (q'.rate (h.desk w'').today query).1 = (q'.rate (h.desk w).today query).1 := by
      obtain today | dayless := day
      · rw [today]
      · apply FeedProvider.rate_fst_of_lags
        simpa [lags, found'] using dayless
    use (q'.rate (h.desk w'').today query).1
    constructor
    · apply lawful.rate_of_released found' released
    · rw [today, again, ← answer]
      rfl

theorem continues_of_passesOver {links : List Link} (hw : fits w)
    (passed : h.access.PassesOver query links w w') :
  h.Continues fits w w'
  := by
  induction passed with
  | nil => apply Continues.refl hw
  | barred barred others ih => apply ih hw
  | @failed link _ _ _ _ _ accepts failed others ih =>
    have asked := lawful.continues_access_rate hw link query
    rw [failed] at asked
    apply asked.trans (ih asked.fits)

/-- To ask a chain lets the providers live on. -/
theorem continues_firstRate (hw : fits w) (links : List Link) (query : RateQuery) :
  h.Continues fits w (h.access.firstRate query links w).2
  := by
  obtain ⟨t, passed⟩ | ⟨skipped, link, rest, s, r, t, rfl, passed, accepts, rate⟩ :=
    h.access.passesOver_or_exists_first query links w
  · rw [ChainAccess.firstRate_eq_error_iff.2 ⟨rfl, passed⟩]
    apply lawful.continues_of_passesOver hw passed
  · rw [ChainAccess.firstRate_eq_ok_iff.2 ⟨skipped, link, rest, s, rfl, passed, accepts, rate⟩]
    have before := lawful.continues_of_passesOver hw passed
    have asked := lawful.continues_access_rate before.fits link query
    rw [rate] at asked
    apply before.trans asked

/-- Links that have been passed over are so again. -/
theorem passesOver_again {links : List Link} (hw : fits w)
    (wired : ∀ link ∈ links, h.IsWired w link) (passed : h.access.PassesOver query links w w')
    (later : ProvidersBecome (h.desk w').providers (h.desk w'').providers)
    (day : (h.desk w'').today = (h.desk w).today ∨ h.IsDayless w'' links query)
    (same : ∀ link ∈ links, h.successesOf w'' link = h.successesOf w link) :
  h.access.PassesOver query links w'' w''
  := by
  induction passed with
  | nil => exact .nil w''
  | barred barred others ih =>
    apply ChainAccess.PassesOver.barred barred
    apply ih hw (List.forall_mem_cons.1 wired).2 later _ (List.forall_mem_cons.1 same).2
    exact day.imp_right (·.mono (List.subset_cons_self _ _))
  | @failed link rest e s s' t accepts failed others ih =>
    obtain ⟨wiredHere, wired⟩ := List.forall_mem_cons.1 wired
    obtain ⟨sameHere, same⟩ := List.forall_mem_cons.1 same
    have asked := lawful.continues_access_rate hw link query
    rw [failed] at asked
    have after := (lawful.continues_of_passesOver asked.fits others).desk.providers.trans later
    obtain ⟨answer, again, none⟩ :=
      lawful.access_rate_again hw wiredHere accepts (by rwa [failed])
        (day.imp_right (fun dayless undated => dayless undated link List.mem_cons_self accepts))
        sameHere
    rw [failed] at none
    cases answer with
    | ok r => simp [Except.toOption] at none
    | error e' =>
      apply ChainAccess.PassesOver.failed accepts again
      apply ih asked.fits
      · intro link' mem
        apply (wired link' mem).of_becomes asked.desk.providers
      · apply later
      · rw [asked.desk.today]
        exact day.imp_right (·.mono (List.subset_cons_self _ _))
      · intro link' mem
        apply (wired link' mem).successesOf_eq asked.desk.providers after
        apply same link' mem

/-- A query that is asked again, on the same day or if the day does not matter, and after no load
that succeeded, has the same answer and changes nothing. -/
theorem firstRate_again {links : List Link} (hw : fits w)
    (wired : ∀ link ∈ links, h.IsWired w link)
    (later : ProvidersBecome (h.desk (h.access.firstRate query links w).2).providers
      (h.desk w'').providers)
    (day : (h.desk w'').today = (h.desk w).today ∨ h.IsDayless w'' links query)
    (same : ∀ link ∈ links, h.successesOf w'' link = h.successesOf w link) :
  h.access.firstRate query links w'' = ((h.access.firstRate query links w).1, w'')
  := by
  obtain ⟨t, passed⟩ | ⟨skipped, link, rest, s, r, t, rfl, passed, accepts, rate⟩ :=
    h.access.passesOver_or_exists_first query links w
  · have none := ChainAccess.firstRate_eq_error_iff.2 ⟨rfl, passed⟩
    rw [none] at later ⊢
    apply ChainAccess.firstRate_eq_error_iff.2
    exact ⟨rfl, lawful.passesOver_again hw wired passed later day same⟩
  · have first := ChainAccess.firstRate_eq_ok_iff.2
      ⟨skipped, link, rest, s, rfl, passed, accepts, rate⟩
    rw [first] at later ⊢
    have before := lawful.continues_of_passesOver hw passed
    have asked := lawful.continues_access_rate before.fits link query
    rw [rate] at asked
    have after := asked.desk.providers.trans later
    have last : link ∈ skipped ++ link :: rest := List.mem_append_right _ List.mem_cons_self
    have here := wired link last
    obtain ⟨answer, again, some⟩ :=
      lawful.access_rate_again before.fits (here.of_becomes before.desk.providers)
        accepts (by rwa [rate])
        (by
          rw [before.desk.today]
          exact day.imp_right (fun dayless undated => dayless undated link last accepts))
        (here.successesOf_eq before.desk.providers after (same link last))
    rw [rate] at some
    obtain rfl : answer = .ok r := toOption_eq_some_iff.1 some
    apply ChainAccess.firstRate_eq_ok_iff.2
    refine ⟨skipped, link, rest, w'', rfl, ?_, accepts, again⟩
    apply lawful.passesOver_again hw _ passed after
    · exact day.imp_right (·.mono (List.subset_append_left _ _))
    · exact fun link mem => same link (List.mem_append_left _ mem)
    · exact fun link mem => wired link (List.mem_append_left _ mem)

end IsLawful

end Runner

end CrossRate
