import CrossRate.Proofs.Provider.Succession
import CrossRate.Runner.AtOnce
import CrossRate.Runner.Providers

/-!
# Lawful runners

A runner is lawful if its desk can be put in place of another, and if at that desk the providers
live on whatever the runner does (`Runner.IsLawful`). They do so then when resources are
registered and providers fed and asked. Of the worlds of a runner some may not have a place for
its desk; the laws are for those that it fits.
-/

namespace CrossRate

namespace Runner

variable {ω η : Type} (h : Runner ω η) (fits : ω → Prop)

/-- What a world becomes on one day while its providers live on. -/
structure Continues (w w' : ω) : Prop where
  fits : fits w'
  desk : (h.desk w).Continues (h.desk w')

/-- What a world becomes, on whatever day, while its providers live on. -/
structure LivesOn (w w' : ω) : Prop where
  fits : fits w'
  providers : ProvidersBecome (h.desk w).providers (h.desk w').providers

/-- The laws of a runner in the worlds that it fits. -/
structure IsLawful : Prop where
  desk_setDesk {w : ω} (d : Desk) : fits w → h.desk (h.setDesk d w) = d
  setDesk_desk (w : ω) : h.setDesk (h.desk w) w = w
  fits_setDesk {w : ω} (d : Desk) : fits w → fits (h.setDesk d w)
  setSchedule {w : ω} (schedule : Schedule) :
    fits w → h.Continues fits w (h.setSchedule schedule w)
  load {w : ω} (id : String) (way : LoadWay) : fits w → h.Continues fits w (h.load id way w).2
  start {w : ω} (id : String) : fits w → h.Continues fits w (h.start id w).2
  await {w : ω} (load : η) : fits w → h.Continues fits w (h.await load w).2
  watch {w : ω} (load : η) (number : Nat) : fits w → h.Continues fits w (h.watch load number w)
  wind {w : ω} (id : String) (ticker : Ticker) :
    fits w → h.Continues fits w (h.wind id ticker w)
  awaitGate {w : ω} (number : Nat) : fits w → h.Continues fits w (h.awaitGate number w)

/-- The world on a day. -/
def onDay (today : Date) (w : ω) : ω := h.modifyDesk (fun d => { d with today := today }) w

/-- The world in which a query to a provider is answered. -/
def waited (number : Nat) (query : RateQuery) (w : ω) : ω :=
  if (h.desk w).mustWait number query then h.awaitGate number w else w

theorem rate_eq (number : Nat) (query : RateQuery) (w : ω) :
  h.rate number query w
    = (((h.desk (h.waited number query w)).rate number query).1,
      h.modifyDesk (fun d => (d.rate number query).2) (h.waited number query w))
  := rfl

variable {h fits} {w w' w'' : ω}

theorem Continues.refl (hw : fits w) : h.Continues fits w w
  := ⟨hw, .refl _⟩

theorem Continues.trans (first : h.Continues fits w w') (second : h.Continues fits w' w'') :
  h.Continues fits w w''
  := ⟨second.fits, first.desk.trans second.desk⟩

theorem LivesOn.refl (hw : fits w) : h.LivesOn fits w w
  := ⟨hw, .refl _⟩

theorem LivesOn.trans (first : h.LivesOn fits w w') (second : h.LivesOn fits w' w'') :
  h.LivesOn fits w w''
  := ⟨second.fits, first.providers.trans second.providers⟩

namespace IsLawful

variable (lawful : h.IsLawful fits)

include lawful

/-! ### Days -/

/-- Whatever is done at the desk, its providers live on. -/
theorem continues_modifyDesk (hw : fits w) {f : Desk → Desk}
    (becomes : (h.desk w).Continues (f (h.desk w))) :
  h.Continues fits w (h.modifyDesk f w)
  where
  fits := lawful.fits_setDesk _ hw
  desk := by
    rw [modifyDesk, lawful.desk_setDesk _ hw]
    apply becomes

theorem continues_refresh (hw : fits w) (r : Resource) : h.Continues fits w (h.refresh r w)
  := by
  have scheduled := lawful.setSchedule ((h.schedule w).start (h.loader w).settings r) hw
  apply scheduled.trans
  apply lawful.wind _ _ scheduled.fits

theorem continues_follow (hw : fits w) (r : Resource) : h.Continues fits w (h.follow r w).2
  := by
  rw [follow]
  split
  · apply lawful.load r.id .atHand hw
  · apply lawful.start r.id hw
  · have started := lawful.start r.id hw
    apply started.trans (lawful.continues_refresh started.fits r)
  · apply Continues.refl hw

theorem continues_register (hw : fits w) (r : Resource) : h.Continues fits w (h.register r w).2
  := by
  rw [register]
  split
  · apply Continues.refl hw
  · rename_i loader accepted
    have known := lawful.continues_modifyDesk (f := fun d => { d with loader := loader }) hw
      ((h.desk w).continues_modifyLoader (fun _ => loader))
    apply known.trans (lawful.continues_follow known.fits r)

/-! ### Providers -/

theorem continues_track (hw : fits w) (number : Nat) (load : η) :
  h.Continues fits w (h.track number load w)
  := by
  rw [track]
  split
  · have awaited := lawful.await load hw
    apply awaited.trans
    apply lawful.continues_modifyDesk awaited.fits (Desk.continues_noteFirstLoad _ _ _)
  · apply lawful.watch load number hw

theorem continues_loadFirst (hw : fits w) (number : Nat) :
  h.Continues fits w (h.loadFirst number w)
  := by
  rw [loadFirst]
  split
  · rename_i p found
    have started := lawful.start p.settings.resource hw
    apply started.trans (lawful.continues_track started.fits _ _)
  · apply Continues.refl hw

theorem continues_connect (hw : fits w) (number : Nat) :
  h.Continues fits w (h.connect number w).2
  := by
  rw [connect]
  split
  · split
    · have attached := lawful.continues_modifyDesk (f := (·.attach number)) hw
        (Desk.continues_attach _ _)
      apply attached.trans (lawful.continues_loadFirst attached.fits number)
    · apply Continues.refl hw
  · apply Continues.refl hw

theorem continues_adopt (hw : fits w) (number : Nat) (registration : Registration η) :
  h.Continues fits w (h.adopt number registration w)
  := by
  cases registration with
  | loaded outcome =>
    apply lawful.continues_modifyDesk (f := (·.noteFirstLoad number outcome)) hw
    apply Desk.continues_noteFirstLoad
  | started load => apply lawful.continues_track hw
  | deferred => apply lawful.continues_loadFirst hw

/-! ### Queries -/

theorem continues_waited (hw : fits w) (number : Nat) (query : RateQuery) :
  h.Continues fits w (h.waited number query w)
  := by
  rw [waited]
  split
  · apply lawful.awaitGate number hw
  · apply Continues.refl hw

theorem continues_rate (hw : fits w) (number : Nat) (query : RateQuery) :
  h.Continues fits w (h.rate number query w).2
  := by
  have waited := lawful.continues_waited hw number query
  apply waited.trans
  apply lawful.continues_modifyDesk (f := fun d => (d.rate number query).2) waited.fits
  apply Desk.continues_rate

end IsLawful

end Runner

/-- Loads that end at once are lawful, in every office. -/
theorem Office.isLawful_runner (ask : Desk → Location → Except LoadError Bytes) :
  (Office.runner ask).IsLawful (fun _ => True)
  where
  desk_setDesk := fun _ _ => rfl
  setDesk_desk := fun _ => rfl
  fits_setDesk := fun _ _ => trivial
  setSchedule := fun _ _ => ⟨trivial, .refl _⟩
  load := fun _ _ _ => ⟨trivial, Desk.admitsLoads_continues.perform _ _ _ _⟩
  start := fun _ _ => ⟨trivial, Desk.admitsLoads_continues.perform _ _ _ _⟩
  await := fun _ _ => ⟨trivial, .refl _⟩
  watch := fun _ _ _ => ⟨trivial, Desk.continues_noteFirstLoad _ _ _⟩
  wind := fun _ _ _ => ⟨trivial, .refl _⟩
  awaitGate := fun _ _ => ⟨trivial, .refl _⟩

end CrossRate
