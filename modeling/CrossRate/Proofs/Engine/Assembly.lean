import CrossRate.Proofs.Engine.Links
import Mathlib.Data.List.Forall2

/-!
# Engines that are set up

Setting an engine up adds a provider to the desk for each link with a feed, and whatever else
happens meanwhile the providers live on. So the links of an engine are those of the names in its
settings, in their order, and each leads to its own provider (`Engine.links_of_assemble`).
-/

namespace CrossRate

/-- What settings have to be like. -/
theorem EngineSettings.validate_eq_ok_iff {s : EngineSettings} :
  s.validate = .ok ()
    ↔ s.loader.validate = .ok () ∧ s.providers ≠ []
        ∧ (∀ name ∈ s.providers, Catalog.isKnown name = true) ∧ s.loadTimeout ≠ 0
        ∧ (s.remembers = true → s.capacity ≠ 0)
  := by
  rw [validate]
  cases loader : s.loader.validate with
  | error fault => simp [bind, Except.bind]
  | ok _ =>
    cases unknown : s.providers.find? (!Catalog.isKnown ·) with
    | some name =>
      have found : Catalog.isKnown name = false := by simpa using List.find?_some unknown
      have mem := List.mem_of_find?_eq_some unknown
      have all : ¬ ∀ name ∈ s.providers, Catalog.isKnown name = true := by
        intro known
        rw [known name mem] at found
        exact Bool.noConfusion found
      simp [bind, Except.bind, throw, throwThe, MonadExceptOf.throw, all, List.ne_nil_of_mem mem]
    | none =>
      have all : ∀ name ∈ s.providers, Catalog.isKnown name = true := by simpa using unknown
      by_cases empty : s.providers = []
      · simp [bind, Except.bind, throw, throwThe, MonadExceptOf.throw, empty]
      · by_cases time : s.loadTimeout = 0
        · simp [bind, Except.bind, throw, throwThe, MonadExceptOf.throw, empty, time]
        · cases s.remembers
          · simp [bind, Except.bind, pure, Except.pure, empty, time]
            apply all
          · simp [bind, Except.bind, throw, throwThe, MonadExceptOf.throw, pure, Except.pure,
              empty, time]
            exact fun _ => all

namespace Runner

variable {ω η : Type} (h : Runner ω η)

/-- A link is what the name of a provider stands for: it leads to a provider that is fed as the
catalog describes it. -/
def IsLinkOf (loadTimeout : Nat) (w : ω) (name : String) : Link → Prop
  | .identity => Text.sameIgnoringCase name Catalog.identityName = true
  | .feed known number => ∃ entry p, Catalog.find? name = some entry ∧ entry.name = known
    ∧ (h.desk w).providers[number]? = some p
    ∧ (FeedProvider.fresh (entry.settings loadTimeout) entry.format).Becomes p

variable {h} {fits : ω → Prop} {w w' : ω} {loadTimeout : Nat} {name : String} {link : Link}

theorem IsLinkOf.of_becomes (hl : h.IsLinkOf loadTimeout w name link)
    (later : ProvidersBecome (h.desk w).providers (h.desk w').providers) :
  h.IsLinkOf loadTimeout w' name link
  := by
  cases link with
  | identity => apply hl
  | feed known number =>
    obtain ⟨entry, p, entry_of, named, found, begun⟩ := hl
    obtain ⟨q, found', becomes⟩ := later found
    exact ⟨entry, q, entry_of, named, found', begun.trans becomes⟩

theorem IsLinkOf.isWired (hl : h.IsLinkOf loadTimeout w name link) : h.IsWired w link
  := by
  cases link with
  | identity => trivial
  | feed known number =>
    obtain ⟨entry, p, -, rfl, found, begun⟩ := hl
    exact ⟨p, found, begun.name, begun.isConsistent (FeedProvider.isConsistent_fresh _ _)⟩

namespace IsLawful

variable (lawful : h.IsLawful fits)

include lawful

/-- A provider that is enrolled is added to the desk and lives on there. -/
theorem enroll_eq_ok {entry : Catalog.Entry} (hw : fits w)
    (enrolled : h.enroll entry loadTimeout w = (.ok link, w')) :
  h.Continues fits w w'
    ∧ ∃ number p, link = .feed entry.name number ∧ (h.desk w').providers[number]? = some p
        ∧ (FeedProvider.fresh (entry.settings loadTimeout) entry.format).Becomes p
  := by
  let fresh := FeedProvider.fresh (entry.settings loadTimeout) entry.format
  let number := (h.desk w).providers.length
  let added := h.modifyDesk (·.addProvider fresh) w
  have adding : h.Continues fits w added :=
    lawful.continues_modifyDesk hw (Desk.continues_addProvider _ fresh)
  have found : (h.desk added).providers[number]? = some fresh := by
    simp [added, modifyDesk, lawful.desk_setDesk _ hw, Desk.addProvider, number]
  have fed : link = .feed entry.name number ∧ h.Continues fits added w' := by
    simp only [enroll] at enrolled
    split at enrolled
    · have connecting := lawful.continues_connect adding.fits number
      split at enrolled
      · rename_i w₁ connected
        obtain ⟨rfl, rfl⟩ : .feed entry.name number = link ∧ w₁ = w' := by simpa using enrolled
        have last : (h.connect number added).2 = w₁ := congrArg Prod.snd connected
        rw [last] at connecting
        exact ⟨rfl, connecting⟩
      · simp at enrolled
    · have attaching := lawful.continues_modifyDesk (f := (·.attach number)) adding.fits
        (Desk.continues_attach _ _)
      have registering := lawful.continues_register attaching.fits entry.resource
      split at enrolled
      · rename_i registration w₁ registered
        obtain ⟨rfl, rfl⟩ : .feed entry.name number = link ∧ h.adopt number registration w₁ = w' := by
          simpa using enrolled
        have last : (h.register entry.resource (h.modifyDesk (·.attach number) added)).2 = w₁ :=
          congrArg Prod.snd registered
        rw [last] at registering
        have adopting := lawful.continues_adopt registering.fits number registration
        exact ⟨rfl, attaching.trans (registering.trans adopting)⟩
      · simp at enrolled
  obtain ⟨p, there, becomes⟩ := fed.2.desk.providers found
  exact ⟨adding.trans fed.2, number, p, fed.1, there, becomes⟩

theorem linkOf_eq_ok (hw : fits w) (linked : h.linkOf loadTimeout name w = (.ok link, w')) :
  h.Continues fits w w' ∧ h.IsLinkOf loadTimeout w' name link
  := by
  rw [linkOf] at linked
  split at linked
  · rename_i identity
    obtain ⟨rfl, rfl⟩ : .identity = link ∧ w = w' := by simpa using linked
    exact ⟨.refl hw, identity⟩
  · split at linked
    · rename_i entry found
      obtain ⟨continues, number, p, rfl, there, becomes⟩ := lawful.enroll_eq_ok hw linked
      exact ⟨continues, entry, p, found, rfl, there, becomes⟩
    · simp at linked

/-- The links of names are one for each name, in their order. -/
theorem linksOf_eq_ok {names : List String} {links : List Link} (hw : fits w)
    (linked : h.linksOf loadTimeout names w = (.ok links, w')) :
  h.Continues fits w w' ∧ List.Forall₂ (h.IsLinkOf loadTimeout w') names links
  := by
  induction names generalizing w links with
  | nil =>
    obtain ⟨rfl, rfl⟩ : [] = links ∧ w = w' := by simpa [linksOf] using linked
    exact ⟨.refl hw, .nil⟩
  | cons name names ih =>
    rw [linksOf] at linked
    rcases here : h.linkOf loadTimeout name w with ⟨e | link, w₁⟩
    · simp [here] at linked
    · rcases rest : h.linksOf loadTimeout names w₁ with ⟨e | links', w₂⟩
      · simp [here, rest] at linked
      · obtain ⟨rfl, rfl⟩ : link :: links' = links ∧ w₂ = w' := by
          simpa [here, rest] using linked
        obtain ⟨before, isLink⟩ := lawful.linkOf_eq_ok hw here
        obtain ⟨after, areLinks⟩ := ih before.fits rest
        -- The provider of the first link lives on while the others are added.
        exact ⟨before.trans after, .cons (isLink.of_becomes after.desk.providers) areLinks⟩

end IsLawful

end Runner

namespace Engine

variable {ω η : Type} {h : Runner ω η} {fits : ω → Prop} {s : EngineSettings} {e : Engine}
  {w w' : ω}

/-- An engine is set up if its settings are valid and each of its names has a link. -/
theorem assemble_eq_ok_iff :
  Engine.assemble h s w = (.ok e, w')
    ↔ s.validate = .ok () ∧ ∃ links, h.linksOf s.loadTimeout s.providers w = (.ok links, w')
        ∧ e = ⟨s, links, memoOf s⟩
  := by
  rw [assemble]
  cases s.validate with
  | error fault => simp
  | ok _ =>
    rcases h.linksOf s.loadTimeout s.providers w with ⟨x | links, w₁⟩
    · simp
    · simp [and_comm, eq_comm]

/-- The links of an engine are those of the names in its settings. -/
theorem links_of_assemble (lawful : h.IsLawful fits) (hw : fits w)
    (assembled : Engine.assemble h s w = (.ok e, w')) :
  h.Continues fits w w' ∧ List.Forall₂ (h.IsLinkOf s.loadTimeout w') s.providers e.links
  := by
  obtain ⟨-, links, linked, rfl⟩ := assemble_eq_ok_iff.1 assembled
  apply lawful.linksOf_eq_ok hw linked

/-- All links of an engine lead to providers, which live on. -/
theorem isWired_of_assemble (lawful : h.IsLawful fits) (hw : fits w)
    (assembled : Engine.assemble h s w = (.ok e, w')) {w'' : ω}
    (later : ProvidersBecome (h.desk w').providers (h.desk w'').providers) :
  ∀ link ∈ e.links, h.IsWired w'' link
  := by
  have links := (links_of_assemble lawful hw assembled).2.imp
    (fun _ _ hl => And.intro (hl.isWired.of_becomes later) hl)
  exact ((List.forall₂_and_left e.links _).1 links.flip).1

end Engine

end CrossRate
