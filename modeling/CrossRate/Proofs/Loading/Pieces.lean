import CrossRate.Desk
import Mathlib.Tactic.Common

/-!
# Pieces of a load

A load is counted, asks its questions and uses the store, hands its payload on and is taken into
account, and a provider notes how it has ended. A relation that admits each of these pieces
(`Desk.AdmitsLoads`) holds between a desk and what a whole load makes of it, whether that is done
at once (`Desk.AdmitsLoads.perform`) or takes its time.
-/

namespace CrossRate.Desk

/-- A preorder of desks which holds between each desk and what a piece of a load makes of it. -/
structure AdmitsLoads (R : Desk → Desk → Prop) : Prop where
  refl (d : Desk) : R d d
  trans {d d' d'' : Desk} : R d d' → R d' d'' → R d d''
  counting (d : Desk) (way : LoadWay) : R d (d.modifyLoader (·.counting way))
  noting (d : Desk) (question : Question) : R d (d.noting question)
  answered (d : Desk) (r : Resource) (answer : Except LoadError Bytes) (question : Question) :
    R d (d.answered r answer question).1
  stored (d : Desk) (r : Resource) (use : StoreUse) : R d (d.stored r use).1
  handOn (d : Desk) (id : String) (ending : LoadEnding) : R d (d.handOn id ending).1
  account (d : Desk) (report : DeliveryReport) : R d (d.account report)
  noteFirstLoad (d : Desk) (number : Nat) (outcome : Except LoadError Layer) :
    R d (d.noteFirstLoad number outcome)

namespace AdmitsLoads

variable {R : Desk → Desk → Prop} (admits : AdmitsLoads R)

include admits

theorem complete (answer : Question → Except LoadError Bytes) (d : Desk) (r : Resource)
    (stage : LoadStage) :
  R d (d.complete answer r stage).1
  := by
  fun_induction Desk.complete answer d r stage with
  | case1 d ending => apply admits.refl
  | case2 d question ih =>
    apply admits.trans _ ih
    apply admits.trans (admits.noting d question)
    apply admits.answered _ r (answer question) question
  | case3 d use ih => apply admits.trans (admits.stored d r use) ih

/-- A load that is done at once. -/
theorem perform (answer : Question → Except LoadError Bytes) (d : Desk) (id : String)
    (way : LoadWay) :
  R d (d.perform answer id way).2
  := by
  rw [Desk.perform]
  split
  · apply admits.refl
  · rename_i r found
    have done := admits.trans (admits.counting d way) (admits.complete answer _ r
      ((d.modifyLoader (·.counting way)).loader.firstStage r way))
    dsimp only
    cases completed : Desk.complete answer (d.modifyLoader (·.counting way)) r
        ((d.modifyLoader (·.counting way)).loader.firstStage r way) with
    | mk d' ending =>
      rw [completed] at done
      apply admits.trans done
      apply admits.trans (admits.handOn d' id ending) (admits.account _ _)

end AdmitsLoads

end CrossRate.Desk
