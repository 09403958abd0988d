import CrossRate.Proofs.Engine.Feeds
import CrossRate.Proofs.Session.Enrolling
import Mathlib.Data.List.Dedup

/-!
# The start of an engine

A provider of the catalog that is enrolled without the network has one load of its feed under way
or done (`Session.exists_enroll_eq`): one that is registered for it is loaded at once, and one that
was there before is loaded in the background. So an engine is set up with one load for each of its
providers that has a feed, and when the loads have ended a provider has had the payload of its own
load and of each later one of its feed, and of no more loads than there are of that feed
(`Session.loads_of_assemble`). If each feed is asked for once, each is loaded once; if one is asked
for twice, it is loaded twice (`Session.not_loadsFeedsOnce_offline`).
-/

namespace CrossRate

namespace Runner

variable {ω η : Type} {h : Runner ω η} {w w' : ω} {e : Catalog.Entry} {loadTimeout : Nat}

/-- Add a provider of an entry to the desk. -/
def seating (h : Runner ω η) (e : Catalog.Entry) (loadTimeout : Nat) (w : ω) : ω :=
  h.modifyDesk (·.addProvider (FeedProvider.fresh (e.settings loadTimeout) e.format)) w

/-- A provider whose resource is registered is connected to it. -/
theorem enroll_of_connect
    (registered : (h.loader (h.seating e loadTimeout w)).isRegistered e.name = true)
    (connected : h.connect (h.desk w).providers.length (h.seating e loadTimeout w) = (.ok (), w')) :
  h.enroll e loadTimeout w = (.ok (.feed e.name (h.desk w).providers.length), w')
  := by
  rw [enroll]
  split
  · split
    · rename_i connected'
      rw [← (Prod.mk.inj (connected.symm.trans connected')).2]
    · rename_i connected'
      cases (Prod.mk.inj (connected.symm.trans connected')).1
  · rename_i unknown
    exact absurd registered unknown

/-- The resource of a provider is registered if it is not. -/
theorem enroll_of_register {registration : Registration η}
    (unknown : (h.loader (h.seating e loadTimeout w)).isRegistered e.name = false)
    (registered : h.register e.resource
        (h.modifyDesk (·.attach (h.desk w).providers.length) (h.seating e loadTimeout w))
      = (.ok registration, w')) :
  h.enroll e loadTimeout w
    = (.ok (.feed e.name (h.desk w).providers.length),
        h.adopt (h.desk w).providers.length registration w')
  := by
  rw [enroll]
  split
  · rename_i registered
    exact absurd registered (Bool.eq_false_iff.1 unknown)
  · split
    · rename_i registered'
      obtain ⟨same, rfl⟩ := Prod.mk.inj (registered.symm.trans registered')
      rw [Except.ok.inj same]
    · rename_i registered'
      cases (Prod.mk.inj (registered.symm.trans registered')).1

end Runner

namespace Session

variable {s s' : Session} {seat : Seat} {e : Catalog.Entry} {loadTimeout : Nat}
  {feeds : List String}

/-- The session with a new provider of an entry at a desk, whose resource is registered. -/
def taking (s : Session) (place : Nat) (e : Catalog.Entry) (loadTimeout : Nat) : Session :=
  s.modifyDesk place (·.taking e loadTimeout)

theorem desk_taking {place : Nat} (bound : place ≤ s.others.length) :
  (s.taking place e loadTimeout).desk place = (s.desk place).taking e loadTimeout
  := desk_setDesk _ bound

theorem desk_seating (seats : Seats seat s) :
  (runner seat).desk ((runner seat).seating e loadTimeout s)
    = (s.desk seat.desk).addProvider (FeedProvider.fresh (e.settings loadTimeout) e.format)
  := desk_setDesk _ seats

/-- The provider that is added is fed from its resource. -/
theorem attach_seating (seats : Seats seat s) :
  (runner seat).modifyDesk (·.attach (s.desk seat.desk).providers.length)
      ((runner seat).seating e loadTimeout s)
    = s.modifyDesk seat.desk
        (·.enlisting (FeedProvider.fresh (e.settings loadTimeout) e.format))
  := by
  rw [Runner.modifyDesk, desk_seating seats]
  apply setDesk_setDesk

/-- A provider of the catalog loads its resource in the background. -/
theorem loadFirst_taking (seats : Seats seat s) :
  (runner seat).loadFirst (s.desk seat.desk).providers.length (s.taking seat.desk e loadTimeout)
    = watch seat.desk (s.taking seat.desk e loadTimeout).loads
        (s.desk seat.desk).providers.length
        ((s.taking seat.desk e loadTimeout).start seat.desk e.name .started).2
  := by
  let taken := s.taking seat.desk e loadTimeout
  have found : (taken.desk seat.desk).providers[(s.desk seat.desk).providers.length]?
      = some (FeedProvider.fresh (e.settings loadTimeout) e.format).connected := by
    rw [desk_taking seats, Desk.getElem?_taking]
  have background : ((taken.start seat.desk e.name .started).2.desk seat.desk).waitsFor
      (s.desk seat.desk).providers.length = false := by
    have desk : (taken.start seat.desk e.name .started).2.desk seat.desk = taken.desk seat.desk :=
      rfl
    rw [desk, Desk.waitsFor, found]
    rfl
  rw [Runner.loadFirst]
  split
  · rename_i p found'
    obtain rfl : FeedProvider.connected _ = p := Option.some.inj (found.symm.trans found')
    apply if_neg (Bool.eq_false_iff.1 background)
  · rename_i found'
    cases found.symm.trans found'

/-- If its resource is registered, a provider is fed from that, and loads it in the background. -/
theorem enroll_of_registered (seats : Seats seat s)
    (registered : (s.desk seat.desk).loader.isRegistered e.name = true) :
  (runner seat).enroll e loadTimeout s
    = (.ok (.feed e.name (s.desk seat.desk).providers.length),
        watch seat.desk (s.taking seat.desk e loadTimeout).loads
          (s.desk seat.desk).providers.length
          ((s.taking seat.desk e loadTimeout).start seat.desk e.name .started).2)
  := by
  let p := FeedProvider.fresh (e.settings loadTimeout) e.format
  have known : ((runner seat).loader ((runner seat).seating e loadTimeout s)).isRegistered e.name
      = true := by
    rw [Runner.loader, desk_seating seats]
    apply registered
  have found : ((runner seat).desk ((runner seat).seating e loadTimeout s)).providers[
      (s.desk seat.desk).providers.length]? = some p := by
    rw [desk_seating seats]
    apply List.getElem?_concat_length
  have taken : (runner seat).modifyDesk (·.attach (s.desk seat.desk).providers.length)
      ((runner seat).seating e loadTimeout s) = s.taking seat.desk e loadTimeout := by
    have knowing : (s.desk seat.desk).knowing e = s.desk seat.desk := if_pos registered
    rw [attach_seating seats, taking, modifyDesk, modifyDesk, Desk.taking, knowing]
  have connected : (runner seat).connect (s.desk seat.desk).providers.length
        ((runner seat).seating e loadTimeout s)
      = (.ok (), (runner seat).loadFirst (s.desk seat.desk).providers.length
          (s.taking seat.desk e loadTimeout)) := by
    have named : p.settings.resource = e.name := rfl
    simp only [Runner.connect, found, named, known, if_true, taken]
  rw [loadFirst_taking seats] at connected
  apply Runner.enroll_of_connect known connected

/-- If its resource is not registered, it is registered for a provider, and then loaded. -/
theorem enroll_of_free (seats : Seats seat s) (mem : e ∈ Catalog.entries)
    (offline : (s.desk seat.desk).loader.settings.offline = true)
    (free : (s.desk seat.desk).loader.isRegistered e.name = false) :
  (runner seat).enroll e loadTimeout s
    = (.ok (.feed e.name (s.desk seat.desk).providers.length),
        (load seat.desk e.name .atHand (s.taking seat.desk e loadTimeout)).2.modifyDesk seat.desk
          (·.noteFirstLoad (s.desk seat.desk).providers.length
            (load seat.desk e.name .atHand (s.taking seat.desk e loadTimeout)).1))
  := by
  let p := FeedProvider.fresh (e.settings loadTimeout) e.format
  let enlisted := s.modifyDesk seat.desk (·.enlisting p)
  have desk : enlisted.desk seat.desk = (s.desk seat.desk).enlisting p := desk_setDesk _ seats
  have unknown : ((runner seat).loader ((runner seat).seating e loadTimeout s)).isRegistered e.name
      = false := by
    rw [Runner.loader, desk_seating seats]
    apply free
  have admits : ((runner seat).loader enlisted).admits e.resource = .ok () := by
    have admits : (enlisted.desk seat.desk).loader.admits e.resource = .ok () := by
      rw [desk, Desk.enlisting_eq]
      apply (Loader.admits_eq_ok_iff _ _).2 ⟨Catalog.validate_resource mem, free⟩
    apply admits
  have taken : (runner seat).adding e.resource enlisted = s.taking seat.desk e loadTimeout := by
    have added : enlisted.modifyDesk seat.desk (·.modifyLoader (·.adding e.resource))
        = s.taking seat.desk e loadTimeout := by
      have knowing : (s.desk seat.desk).knowing e
          = (s.desk seat.desk).modifyLoader (·.adding e.resource) :=
        if_neg (Bool.eq_false_iff.1 free)
      rw [modifyDesk, desk, Desk.adding_enlisting, ← knowing]
      apply setDesk_setDesk
    apply added
  have never : ((runner seat).loader (s.taking seat.desk e loadTimeout)).policyFor e.resource
      = .never := by
    have settings : ((s.taking seat.desk e loadTimeout).desk seat.desk).loader.settings.offline
        = true := by
      rw [desk_taking seats, ((s.desk seat.desk).keeps_taking e loadTimeout).settings, offline]
    apply if_pos settings
  have registered : (runner seat).register e.resource enlisted
      = (.ok (.loaded (load seat.desk e.name .atHand (s.taking seat.desk e loadTimeout)).1),
          (load seat.desk e.name .atHand (s.taking seat.desk e loadTimeout)).2) := by
    rw [Runner.register_eq, admits]
    simp only [taken, Runner.follow, never]
    rfl
  have attached : (runner seat).modifyDesk (·.attach (s.desk seat.desk).providers.length)
      ((runner seat).seating e loadTimeout s) = enlisted := attach_seating seats
  rw [← attached] at registered
  exact Runner.enroll_of_register unknown registered

/-! ### Loads of the providers -/

/-- The loads that a provider has had with success, and those of its resource that are awaited. -/
def promised (s : Session) (place number : Nat) (id : String) : Nat :=
  (s.desk place).successes number + s.underway.countP (·.isAwaited id)

/-- A session in which a provider of an entry has been enrolled. A load of its feed is under way,
or has ended. -/
structure Enrolls (place : Nat) (feeds : List String) (e : Catalog.Entry) (loadTimeout : Nat)
    (s s' : Session) : Prop where
  atWork : s'.IsAtWork place
  ready : (s'.desk place).IsReadyFor feeds
  settles : Settles place [e.name] s s'
  fed : (s.desk place).CanFeed loadTimeout e →
    (s'.desk place).Supplies (s.desk place).providers.length e.name
      ∧ s'.promised place (s.desk place).providers.length e.name
        = s.underway.countP (·.isAwaited e.name) + 1

variable {place : Nat}

theorem IsAtWork.taking (h : s.IsAtWork place) (e : Catalog.Entry) (loadTimeout : Nat) :
  (s.taking place e loadTimeout).IsAtWork place
    ∧ Settles place [] s (s.taking place e loadTimeout)
  := by
  apply h.setDesk ((s.desk place).keeps_taking e loadTimeout)
  · apply Desk.begun_taking
  · intro number id supplies
    apply supplies.taking

/-- A provider has been enrolled once it has been taken in and its feed is being loaded. -/
theorem enrolls_of_settles (h : s.IsAtWork place) (ready : (s.desk place).IsReadyFor feeds)
    (mem : e ∈ Catalog.entries) (enabled : e.name ∈ feeds) (atWork : s'.IsAtWork place)
    (settles : Settles place [e.name] (s.taking place e loadTimeout) s')
    (becomes : ∀ R, Desk.AdmitsLoads R → (s.taking place e loadTimeout).Becomes R s') :
  Enrolls place feeds e loadTimeout s s'
  := by
  obtain ⟨-, taken⟩ := h.taking e loadTimeout
  have desk : (s.taking place e loadTimeout).desk place = (s.desk place).taking e loadTimeout :=
    desk_taking h.seated
  constructor
  case atWork => apply atWork
  case settles => apply taken.trans settles
  case ready =>
    have ready := ready.taking mem enabled loadTimeout
    have same := becomes _ Desk.admitsLoads_sameSetUp
    have continues := becomes _ Desk.admitsLoads_continues
    rw [← desk] at ready
    apply ready.of_sameSetUp (same.desk place) settles.keeps.desk (continues.desk place).providers
  case fed =>
    intro canFeed
    obtain ⟨supplies, none⟩ := ready.supplies_taking mem enabled canFeed
    rw [← desk] at supplies none
    obtain ⟨supplies, promised⟩ := settles.supplies _ _ supplies
    have underway : (s.taking place e loadTimeout).underway = s.underway := by
      simp [Session.underway, Session.taking, modifyDesk]
    refine ⟨supplies, promised.trans ?_⟩
    rw [none, underway, List.count_singleton_self, Nat.zero_add]

/-- A provider of the catalog is enrolled at a desk that is ready. -/
theorem exists_enroll_eq (h : s.IsAtWork seat.desk) (ready : (s.desk seat.desk).IsReadyFor feeds)
    (mem : e ∈ Catalog.entries) (enabled : e.name ∈ feeds) (loadTimeout : Nat) :
  ∃ s', (runner seat).enroll e loadTimeout s
      = (.ok (.feed e.name (s.desk seat.desk).providers.length), s')
    ∧ Enrolls seat.desk feeds e loadTimeout s s'
  := by
  let taken := s.taking seat.desk e loadTimeout
  obtain ⟨work, -⟩ := h.taking e loadTimeout
  have holds : (taken.desk seat.desk).Holds e.resource
      ((s.desk seat.desk).loader.storage.payloadOr e.name e.backup) := by
    rw [desk_taking h.seated]
    apply (Desk.keeps_enlisting _ _).holds (ready.holds mem enabled)
  cases registered : (s.desk seat.desk).loader.isRegistered e.name with
  | true =>
    refine ⟨_, enroll_of_registered h.seated registered, ?_⟩
    obtain ⟨started, settles⟩ := work.start holds
    obtain ⟨watched, waits⟩ := started.watch taken.loads (s.desk seat.desk).providers.length
    apply enrolls_of_settles h ready mem enabled watched (settles.trans waits)
    intro R admits
    have start := becomes_start admits taken seat.desk e.name .started
    apply start.trans admits
    apply becomes_watch admits
  | false =>
    refine ⟨_, enroll_of_free h.seated mem ready.offline registered, ?_⟩
    have free : (seat.desk, e.name) ∉ taken.busy := by
      have busy : taken.busy = s.busy := busy_setDesk _ _ _
      rw [busy]
      apply h.not_mem_busy registered
    obtain ⟨loaded, settles⟩ := work.load holds free
    obtain ⟨noted, notes⟩ := loaded.noteFirstLoad (s.desk seat.desk).providers.length
      (load seat.desk e.name .atHand taken).1
    apply enrolls_of_settles h ready mem enabled noted (settles.trans notes)
    intro R admits
    have load := becomes_load admits taken seat.desk e.name .atHand
    apply load.trans admits
    apply becomes_modifyDesk admits
    apply admits.noteFirstLoad

/-- A session in which links to feeds have been made. A provider has as many loads as there are
links to its feed from its own on, and no more than there are links to its feed besides the loads
that were awaited before. -/
structure LinksUp (place : Nat) (feeds ids : List String) (loadTimeout : Nat) (links : List Link)
    (s s' : Session) : Prop where
  atWork : s'.IsAtWork place
  ready : (s'.desk place).IsReadyFor feeds
  settles : Settles place ids s s'
  feeds : Link.feeds links = ids
  fed {before after : List Link} {e : Catalog.Entry} {number : Nat} :
    links = before ++ .feed e.name number :: after → e ∈ Catalog.entries →
    (s.desk place).CanFeed loadTimeout e →
      (s'.desk place).Supplies number e.name
        ∧ (Link.feeds after).count e.name + 1 ≤ s'.promised place number e.name
        ∧ s'.promised place number e.name
          ≤ s.underway.countP (·.isAwaited e.name) + ids.count e.name

variable {ids names : List String} {links : List Link} {s'' : Session}

theorem LinksUp.nil (h : s.IsAtWork place) (ready : (s.desk place).IsReadyFor feeds) :
  LinksUp place feeds [] loadTimeout [] s s
  := ⟨h, ready, .refl s, rfl, fun absurd => by simp at absurd⟩

theorem LinksUp.after (first : Settles place [] s s')
    (h : LinksUp place feeds ids loadTimeout links s' s'') :
  LinksUp place feeds ids loadTimeout links s s''
  where
  atWork := h.atWork
  ready := h.ready
  settles := first.trans h.settles
  feeds := h.feeds
  fed := by
    intro before after e number split mem canFeed
    obtain ⟨supplies, least, most⟩ := h.fed split mem (canFeed.of_keeps first.keeps.desk)
    have awaited := first.awaited e.name
    rw [List.count_nil] at awaited
    refine ⟨supplies, least, ?_⟩
    omega

/-- A link without a feed changes nothing. -/
theorem LinksUp.identity (h : LinksUp place feeds ids loadTimeout links s s') :
  LinksUp place feeds ids loadTimeout (.identity :: links) s s'
  where
  atWork := h.atWork
  ready := h.ready
  settles := h.settles
  feeds := h.feeds
  fed := by
    intro before after e number split
    cases before with
    | nil => cases split
    | cons link before => apply h.fed (List.cons.inj split).2

/-- The loads of the feeds that come later are handed to the provider of the first link too. -/
theorem LinksUp.cons (first : Enrolls place feeds e loadTimeout s s') (mem : e ∈ Catalog.entries)
    (rest : LinksUp place feeds ids loadTimeout links s' s'') :
  LinksUp place feeds (e.name :: ids) loadTimeout
    (.feed e.name (s.desk place).providers.length :: links) s s''
  where
  atWork := rest.atWork
  ready := rest.ready
  settles := first.settles.trans rest.settles
  feeds := congrArg (e.name :: ·) rest.feeds
  fed := by
    intro before after e' number split mem' canFeed
    cases before with
    | nil =>
      obtain ⟨same, rfl⟩ := List.cons.inj split
      obtain ⟨named, rfl⟩ := Link.feed.inj same
      obtain rfl := Catalog.eq_of_name mem mem' named
      obtain ⟨supplies, one⟩ := first.fed canFeed
      obtain ⟨supplies, more⟩ := rest.settles.supplies _ _ supplies
      have promised : s''.promised place (s.desk place).providers.length e.name
          = s.underway.countP (·.isAwaited e.name) + 1 + ids.count e.name := by
        rw [← one]
        apply more
      rw [promised, rest.feeds, List.count_cons_self]
      refine ⟨supplies, ?_, ?_⟩ <;> omega
    | cons link before =>
      have canFeed := canFeed.of_keeps first.settles.keeps.desk
      obtain ⟨supplies, least, most⟩ := rest.fed (List.cons.inj split).2 mem' canFeed
      refine ⟨supplies, least, ?_⟩
      have awaited := first.settles.awaited e'.name
      rw [List.count_cons, List.count_nil] at awaited
      rw [List.count_cons]
      omega

/-- All names that are known have links. -/
theorem exists_linksOf_eq (h : s.IsAtWork seat.desk) (ready : (s.desk seat.desk).IsReadyFor feeds)
    (known : ∀ name ∈ names, Catalog.isKnown name = true)
    (enabled : Catalog.feedsOf names ⊆ feeds) (loadTimeout : Nat) :
  ∃ links s', (runner seat).linksOf loadTimeout names s = (.ok links, s')
    ∧ LinksUp seat.desk feeds (Catalog.feedsOf names) loadTimeout links s s'
  := by
  induction names generalizing s with
  | nil => exact ⟨[], s, rfl, .nil h ready⟩
  | cons name names ih =>
    have others : ∀ name ∈ names, Catalog.isKnown name = true :=
      fun name mem => known name (.tail _ mem)
    by_cases identity : Text.sameIgnoringCase name Catalog.identityName = true
    · have same : Catalog.feedsOf (name :: names) = Catalog.feedsOf names := by
        simp [Catalog.feedsOf, Catalog.find?_of_identity identity]
      rw [same] at enabled ⊢
      obtain ⟨links, s', linked, up⟩ := ih h ready others enabled
      refine ⟨.identity :: links, s', ?_, up.identity⟩
      rw [Runner.linksOf, Runner.linkOf, if_pos identity]
      simp only [linked]
    · have named := known name List.mem_cons_self
      rw [Catalog.isKnown, Bool.eq_false_iff.2 identity, Bool.false_or] at named
      obtain ⟨e, found⟩ := Option.isSome_iff_exists.1 named
      have more : Catalog.feedsOf (name :: names) = e.name :: Catalog.feedsOf names := by
        simp [Catalog.feedsOf, found]
      rw [more, List.cons_subset] at enabled
      rw [more]
      have mem := Catalog.mem_of_find? found
      obtain ⟨s₁, enrolled, first⟩ := exists_enroll_eq h ready mem enabled.1 loadTimeout
      obtain ⟨links, s', linked, up⟩ := ih first.atWork first.ready others enabled.2
      refine ⟨_ :: links, s', ?_, up.cons first mem⟩
      rw [Runner.linksOf, Runner.linkOf, if_neg identity, found]
      simp only [enrolled, linked]

end Session

/-- The feeds that settings enable, one for each of the providers that has a feed. -/
def EngineSettings.feeds (s : EngineSettings) : List String := Catalog.feedsOf s.providers

namespace Session

variable {settings : EngineSettings} {s t : Session} {place : Nat}

/-- An engine with valid settings is set up at a desk that is ready. -/
theorem exists_assemble_eq (valid : settings.validate = .ok ()) (h : s.IsAtWork place)
    (ready : (s.desk place).IsReadyFor settings.feeds) :
  ∃ e seat s', s.assemble settings place = (.ok (e, seat), s')
    ∧ LinksUp place settings.feeds settings.feeds settings.loadTimeout e.links s s'
  := by
  let seat : Seat := ⟨place, s.schedules.length⟩
  let scheduled : Session := s.addSchedule.2
  obtain ⟨atWork, settles⟩ : scheduled.IsAtWork seat.desk ∧ Settles seat.desk [] s scheduled :=
    h.of_same rfl rfl rfl rfl rfl rfl rfl
  have ready : (scheduled.desk seat.desk).IsReadyFor settings.feeds := ready
  have known := (EngineSettings.validate_eq_ok_iff.1 valid).2.2.1
  obtain ⟨links, s', linked, up⟩ := exists_linksOf_eq atWork ready known
    (List.Subset.refl settings.feeds) settings.loadTimeout
  have assembled := Engine.assemble_eq_ok_iff.2 ⟨valid, links, linked, rfl⟩
  refine ⟨⟨settings, links, Engine.memoOf settings⟩, seat, s', ?_, up.after settles⟩
  simp only [assemble, addSchedule]
  split
  · rename_i done
    obtain ⟨same, rfl⟩ := Prod.mk.inj (assembled.symm.trans done)
    rw [Except.ok.inj same]
  · rename_i done
    cases (Prod.mk.inj (assembled.symm.trans done)).1

/-! ### A session without the network -/

/-- Settings without the network and with a store in memory. -/
def offWeb : LoaderSettings := { storeDirectory := none, offline := true }

/-- A session without the network in which nothing has been loaded. -/
def offline : Session where
  first := { loader := { settings := offWeb }, today := ⟨739401, by decide, by decide⟩ }

theorem isIdle_offline : offline.IsIdle
  := ⟨rfl, rfl, rfl, rfl, rfl⟩

theorem isLocal_offline : (offline.desk 0).IsLocal
  := ⟨rfl, rfl⟩

theorem isSeated_offline : (offline.desk 0).IsSeated
  := by
  intro id number bound
  cases bound

/-- Nothing is kept that a provider could not read. -/
theorem canFeed_offline (loadTimeout : Nat) (e : Catalog.Entry) :
  (offline.desk 0).CanFeed loadTimeout e
  := by
  intro payload _ read
  cases read

/-! ### When the loads have ended -/

/-- Once an engine has been set up at a desk that is ready, and the loads have ended, there have
been as many loads as there are providers with a feed, and each of these has had as many
successful ones as there are providers of its feed from its own on, if not more. -/
theorem loads_of_assemble (valid : settings.validate = .ok ()) (idle : s.IsIdle)
    (bound : place ≤ s.others.length) (isLocal : (s.desk place).IsLocal)
    (seated : (s.desk place).IsSeated)
    (free : ∀ name ∈ settings.feeds, (s.desk place).loader.isRegistered name = false) :
  ∃ e seat s', s.assemble settings place = (.ok (e, seat), s')
    ∧ Link.feeds e.links = settings.feeds
    ∧ ∀ t, s'.Runs t → (∃ t', t.Runs t' ∧ t'.IsIdle)
      ∧ (t.IsIdle →
        (t.desk place).loader.counts.begun
            = (s.desk place).loader.counts.begun + settings.feeds.length
          ∧ ∀ before after entry number, entry ∈ Catalog.entries →
            e.links = before ++ .feed entry.name number :: after →
            (s.desk place).CanFeed settings.loadTimeout entry →
              (Link.feeds after).count entry.name + 1 ≤ (t.desk place).successes number
                ∧ (t.desk place).successes number ≤ settings.feeds.count entry.name)
  := by
  have ready := Desk.isReadyFor_of_free isLocal seated free
  obtain ⟨e, seat, s', assembled, up⟩ := exists_assemble_eq valid (idle.isAtWork bound) ready
  refine ⟨e, seat, s', assembled, up.feeds, fun t runs => ?_⟩
  obtain ⟨atWork, settles⟩ := up.atWork.runs runs
  refine ⟨atWork.exists_isIdle, fun done => ⟨?_, ?_⟩⟩
  · have begun := (up.settles.trans settles).begun
    rw [idle.underway, done.underway, List.append_nil] at begun
    apply begun
  · intro before after entry number mem split canFeed
    obtain ⟨supplies, least, most⟩ := up.fed split mem canFeed
    obtain ⟨-, promised⟩ := settles.supplies _ _ supplies
    rw [done.underway, List.countP_nil, List.count_nil] at promised
    rw [idle.underway, List.countP_nil, Nat.zero_add] at most
    rw [Session.promised] at least most
    omega

/-- The providers that are asked by default are all fed once. -/
theorem loads_of_assemble_offline :
  ∃ e seat s', offline.assemble { loader := offWeb } 0 = (.ok (e, seat), s')
    ∧ (∃ t, s'.Runs t ∧ t.IsIdle)
    ∧ ∀ t, s'.Runs t → t.IsIdle →
      (t.desk 0).loader.counts.begun = 4
        ∧ ∀ before after entry number, entry ∈ Catalog.entries →
          e.links = before ++ .feed entry.name number :: after →
          (t.desk 0).successes number = 1
  := by
  let settings : EngineSettings := { loader := offWeb }
  have valid : settings.validate = .ok () := rfl
  have feeds : settings.feeds = ["ECB", "IMF", "ECB-HIST90", "ECB-HIST"] := by decide
  have once : ∀ name ∈ Catalog.entries.map (·.name), settings.feeds.count name = 1 := by
    rw [feeds]
    decide
  obtain ⟨e, seat, s', assembled, -, runs⟩ := loads_of_assemble valid isIdle_offline
    (Nat.zero_le _) isLocal_offline isSeated_offline (fun _ _ => rfl)
  refine ⟨e, seat, s', assembled, (runs s' .refl).1, fun t later idle => ?_⟩
  obtain ⟨begun, fed⟩ := (runs t later).2 idle
  refine ⟨begun, fun before after entry number mem split => ?_⟩
  obtain ⟨least, most⟩ := fed before after entry number mem split (canFeed_offline _ _)
  rw [once _ (List.mem_map_of_mem mem)] at most
  omega

/-- Each feed that is enabled is loaded once when an engine is set up, and each provider with a feed
has one successful load. -/
def LoadsFeedsOnce (s : Session) (settings : EngineSettings) (place : Nat) : Prop :=
  ∃ e seat s', s.assemble settings place = (.ok (e, seat), s')
    ∧ ∀ t, s'.Runs t → t.IsIdle →
      (t.desk place).loader.counts.begun
          = (s.desk place).loader.counts.begun + settings.feeds.dedup.length
        ∧ ∀ name number, .feed name number ∈ e.links → (t.desk place).successes number = 1

/-- Settings that name one provider twice. -/
def twice : EngineSettings := { providers := ["ECB", "ecb"], loader := offWeb }

/-- A provider that is named twice loads its feed twice. -/
theorem not_loadsFeedsOnce_offline :
  twice.validate = .ok () ∧ ¬ offline.LoadsFeedsOnce twice 0
  := by
  have valid : twice.validate = .ok () := rfl
  have feeds : twice.feeds = ["ECB", "ECB"] := by decide
  use valid
  rintro ⟨e, seat, s', assembled, once⟩
  obtain ⟨e', seat', s'', assembled', up⟩ := exists_assemble_eq valid
    (isIdle_offline.isAtWork (Nat.zero_le _))
    (Desk.isReadyFor_of_free isLocal_offline isSeated_offline (fun _ _ => rfl))
  obtain ⟨-, rfl⟩ := Prod.mk.inj (assembled.symm.trans assembled')
  obtain ⟨t, runs, idle⟩ := up.atWork.exists_isIdle
  have begun := (up.settles.trans (up.atWork.runs runs).2).begun
  rw [isIdle_offline.underway, idle.underway, feeds] at begun
  obtain ⟨once, -⟩ := once t runs idle
  rw [feeds] at once
  have two : (t.desk 0).loader.counts.begun = 2 := begun
  have one : (t.desk 0).loader.counts.begun = 1 := once
  omega

end Session

end CrossRate
