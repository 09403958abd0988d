import CrossRate.Proofs.Decimal.Value
import CrossRate.Proofs.Rate.Quote

/-!
# Records that can be built

Records are built from drafts, drafts are made part by part or copied from records, and the chain of
a draft is made of records that were built before (`RateDraft.IsReached`, `RateRecord.IsBuilt`). The
records that come of this, with chains of chains to any depth, are the coherent ones: the factor of
each is positive and, if it has a chain, the product of the factors of its chain
(`RateRecord.isBuilt_iff_isCoherent`). What a draft makes can be copied and is then made again
(`RateDraft.IsReached.buildsCoherently`).
-/

namespace CrossRate

/-- What can be put into a draft. -/
inductive RatePart where
  | context (context : RateContext)
  | base (currency : Currency)
  | term (currency : Currency)
  | factor (factor : Decimal)
  | chain (records : List RateRecord)
  | asOf (day : Date)

/-- The records that a part is made of. -/
def RatePart.links : RatePart → List RateRecord
  | chain records => records
  | _ => []

/-- The draft with a part in place of the one that it had. -/
def RateDraft.put (d : RateDraft) : RatePart → RateDraft
  | .context context => { d with context := some context }
  | .base currency => { d with base := some currency }
  | .term currency => { d with term := some currency }
  | .factor factor => { d with factor := some factor }
  | .chain records => { d with chain := records }
  | .asOf day => { d with asOf := some day }

mutual

/-- Drafts that start blank or as the copy of a record and are changed part by part. -/
inductive RateDraft.IsReached : RateDraft → Prop
  | blank : RateDraft.IsReached {}
  | copy {r : RateRecord} (built : RateRecord.IsBuilt r) : RateDraft.IsReached (.ofRecord r)
  | put {d : RateDraft} (reached : RateDraft.IsReached d) (part : RatePart)
    (links : ∀ link ∈ part.links, RateRecord.IsBuilt link) : RateDraft.IsReached (d.put part)

/-- Records that are made from such drafts. -/
inductive RateRecord.IsBuilt : RateRecord → Prop
  | build {d : RateDraft} {r : RateRecord} (reached : RateDraft.IsReached d)
    (build : d.build = .ok r) : RateRecord.IsBuilt r

end

/-- A factor has the value of the product of those of a chain, unless the chain is empty. -/
def Decimal.IsProductOf (factor : Decimal) (chain : List RateRecord) : Prop :=
  chain = [] ∨ ∃ product, chainProduct chain = .ok product ∧ product.toRat = factor.toRat

/-- Records with a positive factor that is the product of those of the chain, the links of which are
coherent themselves. -/
inductive RateRecord.IsCoherent : RateRecord → Prop
  | intro {r : RateRecord} (positive : 0 < r.factor.toRat) (product : r.factor.IsProductOf r.chain)
    (links : ∀ link ∈ r.chain, link.IsCoherent) : IsCoherent r

/-- Drafts with all that a record has, that fits together. -/
structure RateDraft.IsComplete (d : RateDraft) : Prop where
  context : d.context.isSome = true
  base : d.base.isSome = true
  term : d.term.isSome = true
  factor : ∃ factor, d.factor = some factor ∧ 0 < factor.toRat ∧ factor.IsProductOf d.chain

/-! ### Building -/

namespace RateDraft

variable {d : RateDraft} {r : RateRecord}

theorem checkChain_eq_ok_iff_isProductOf {pair : CurrencyPair} {factor : Decimal}
    {chain : List RateRecord} :
  checkChain pair factor chain = .ok () ↔ factor.IsProductOf chain
  := by simp only [checkChain_eq_ok_iff, Decimal.IsProductOf, Decimal.sameValue_iff]

/-- A record is made from the draft that has its parts, if they fit together. -/
theorem build_eq_ok_iff_isProductOf :
  d.build = .ok r ↔ d = ofRecord r ∧ 0 < r.factor.toRat ∧ r.factor.IsProductOf r.chain
  := by rw [build_eq_ok_iff, Decimal.isPositive_iff, checkChain_eq_ok_iff_isProductOf]

/-- A draft makes a record if it is complete. -/
theorem exists_build_iff : (∃ r, d.build = .ok r) ↔ d.IsComplete
  := by
  simp only [build_eq_ok_iff_isProductOf]
  constructor
  · rintro ⟨r, rfl, positive, product⟩
    exact ⟨rfl, rfl, rfl, r.factor, rfl, positive, product⟩
  · rintro ⟨hasContext, hasBase, hasTerm, factor, hasFactor, positive, product⟩
    obtain ⟨context, hc⟩ := Option.isSome_iff_exists.1 hasContext
    obtain ⟨base, hb⟩ := Option.isSome_iff_exists.1 hasBase
    obtain ⟨term, ht⟩ := Option.isSome_iff_exists.1 hasTerm
    use ⟨context, base, term, factor, d.chain, d.asOf⟩
    refine ⟨?_, positive, product⟩
    rw [ofRecord, ← hc, ← hb, ← ht, ← hasFactor]

/-- The links of a draft are those that it had or those of the part that was put into it. -/
theorem mem_chain_put {part : RatePart} {link : RateRecord} (mem : link ∈ (d.put part).chain) :
  link ∈ d.chain ∨ link ∈ part.links
  := by
  cases part with
  | chain records => exact .inr mem
  | _ => exact .inl mem

end RateDraft

/-! ### Coherence -/

/-- Whatever can be built is coherent. -/
theorem RateRecord.IsBuilt.isCoherent {r : RateRecord} (built : r.IsBuilt) : r.IsCoherent
  := by
  -- By induction on drafts and records at once: the links of a draft are coherent.
  refine @RateRecord.IsBuilt.rec (fun d _ => ∀ link ∈ d.chain, link.IsCoherent)
    (fun r _ => r.IsCoherent) ?blank ?copy ?put ?build r built
  case blank => exact List.forall_mem_nil _
  case copy =>
    rintro r - ⟨-, -, links⟩
    exact links
  case put =>
    intro d _ part _ old new link mem
    obtain mem | mem := RateDraft.mem_chain_put mem
    · exact old link mem
    · exact new link mem
  case build =>
    intro d r _ build links
    obtain ⟨rfl, positive, product⟩ := RateDraft.build_eq_ok_iff_isProductOf.1 build
    exact .intro positive product links

/-- The draft with the parts of a record can be reached if the links of the record can be built. -/
theorem RateDraft.isReached_ofRecord {r : RateRecord} (links : ∀ link ∈ r.chain, link.IsBuilt) :
  (ofRecord r).IsReached
  := by
  have put {d : RateDraft} (reached : d.IsReached) (part : RatePart) (none : part.links = []) :
      (d.put part).IsReached := by
    apply reached.put
    rw [none]
    exact List.forall_mem_nil _
  have undated := (put (put (put (put .blank (.context r.context) rfl) (.base r.base) rfl)
    (.term r.term) rfl) (.factor r.factor) rfl).put (.chain r.chain) links
  obtain ⟨context, base, term, factor, chain, asOf⟩ := r
  cases asOf with
  | none => exact undated
  | some day => exact put undated (.asOf day) rfl

/-- The records that can be built are the coherent ones. -/
theorem RateRecord.isBuilt_iff_isCoherent {r : RateRecord} : r.IsBuilt ↔ r.IsCoherent
  := by
  constructor
  · exact IsBuilt.isCoherent
  · intro coherent
    induction coherent with
    | intro positive product _ links =>
      apply IsBuilt.build (RateDraft.isReached_ofRecord links)
      exact RateDraft.build_eq_ok_iff_isProductOf.2 ⟨rfl, positive, product⟩

/-! ### Copies -/

/-- A draft makes a record just if it is complete. The record is coherent, and a copy of it makes
the same record again. -/
structure RateDraft.BuildsCoherently (d : RateDraft) : Prop where
  exists_iff : (∃ r, d.build = .ok r) ↔ d.IsComplete
  isCoherent {r : RateRecord} : d.build = .ok r → r.IsCoherent
  copy {r : RateRecord} : d.build = .ok r → (ofRecord r).build = .ok r

/-- Whatever calls a draft comes of, it builds coherently. -/
theorem RateDraft.IsReached.buildsCoherently {d : RateDraft} (reached : d.IsReached) :
  d.BuildsCoherently
  where
  exists_iff := exists_build_iff
  isCoherent build := (RateRecord.IsBuilt.build reached build).isCoherent
  copy build := by
    obtain ⟨rfl, -⟩ := build_eq_ok_iff.1 build
    exact build

/-- A record that is derived from a derived one, with a factor that has the value of the product but
other decimals. -/
theorem RateDraft.buildsCoherently_of_nested_chain :
  ∃ (d : RateDraft) (inner last outer : RateRecord) (product : Decimal),
    d.IsReached ∧ d.chain = [inner, last] ∧ inner.chain ≠ []
      ∧ chainProduct d.chain = .ok product ∧ product ≠ outer.factor
      ∧ d.build = .ok outer ∧ outer.IsCoherent ∧ (ofRecord outer).build = .ok outer
  := by
  let link (base term : String) (factor : Decimal) (chain : List RateRecord) : RateRecord :=
    ⟨⟨"ECB", .historic⟩, .ofCode base, .ofCode term, factor, chain, none⟩
  let first := link "USD" "EUR" ⟨false, 9, 1, by decide, by decide⟩ []
  let second := link "EUR" "BRL" ⟨false, 55, 1, by decide, by decide⟩ []
  let inner := link "USD" "BRL" ⟨false, 495, 2, by decide, by decide⟩ [first, second]
  let last := link "BRL" "JPY" ⟨false, 2, 0, by decide, by decide⟩ []
  let outer := link "USD" "JPY" ⟨false, 99, 1, by decide, by decide⟩ [inner, last]
  let product : Decimal := ⟨false, 990, 2, by decide, by decide⟩
  have unchained (r : RateRecord) (positive : r.factor.isPositive) (none : r.chain = []) :
      r.IsBuilt := by
    have reached : (ofRecord r).IsReached := by
      apply isReached_ofRecord
      rw [none]
      exact List.forall_mem_nil _
    exact .build reached
      (build_eq_ok_iff.2 ⟨rfl, positive, checkChain_eq_ok_iff.2 (.inl none)⟩)
  have innerProduct : chainProduct inner.chain = .ok inner.factor :=
    toOption_eq_some_iff.1 (by decide +kernel)
  have innerReached : (ofRecord inner).IsReached := by
    apply isReached_ofRecord
    rw [List.forall_mem_cons, List.forall_mem_singleton]
    exact ⟨unchained first rfl rfl, unchained second rfl rfl⟩
  have innerBuild : (ofRecord inner).build = .ok inner :=
    build_eq_ok_iff.2 ⟨rfl, rfl, checkChain_eq_ok_iff.2 (.inr ⟨_, innerProduct, by decide⟩)⟩
  have reached : (ofRecord outer).IsReached := by
    apply isReached_ofRecord
    rw [List.forall_mem_cons, List.forall_mem_singleton]
    exact ⟨.build innerReached innerBuild, unchained last rfl rfl⟩
  have outerProduct : chainProduct outer.chain = .ok product :=
    toOption_eq_some_iff.1 (by decide +kernel)
  have build : (ofRecord outer).build = .ok outer :=
    build_eq_ok_iff.2 ⟨rfl, rfl, checkChain_eq_ok_iff.2 (.inr ⟨_, outerProduct, by decide⟩)⟩
  have coherently := reached.buildsCoherently
  exact ⟨ofRecord outer, inner, last, outer, product, reached, rfl, by simp [inner, link],
    outerProduct, by decide, build, coherently.isCoherent build, coherently.copy build⟩

end CrossRate
