import CrossRate.Proofs.Loading.Tally
import CrossRate.Runner.AtOnce

/-!
# What is asked of the web

Requests come to an office one after the other (`Office.serve`), and a `Fetcher` answers what is
asked of locations meanwhile. A run that asks nothing of the web goes as it would with any other
fetcher that answers alike elsewhere (`Office.undisturbed_serve`).
-/

namespace CrossRate

/-- What locations answer. It may depend on what was asked before. -/
abbrev Fetcher := List Question → Location → Except LoadError Bytes

/-- Two fetchers answer alike but on the web. -/
def Fetcher.AgreesOffWeb (fetch fetch' : Fetcher) : Prop :=
  ∀ asked location, location.isRemote = false → fetch asked location = fetch' asked location

namespace Desk

variable {d : Desk} {r : Resource} {answer answer' : Question → Except LoadError Bytes}

/-- How often locations on the web were asked. -/
def webAsked (d : Desk) : Nat := d.asked.countP (·.location.isRemote)

theorem webAsked_noting (d : Desk) (question : Question) :
  (d.noting question).webAsked = d.webAsked + question.location.isRemote.toNat
  := by
  rw [webAsked, asked_noting, List.countP_append, List.countP_singleton, webAsked]
  cases question.location.isRemote <;> rfl

/-- What an answer changes is not what was asked. -/
theorem webAsked_answered (d : Desk) (r : Resource) (answer : Except LoadError Bytes)
    (question : Question) :
  (d.answered r answer question).1.webAsked = d.webAsked
  := rfl

theorem webAsked_le_complete (answer : Question → Except LoadError Bytes) (d : Desk)
    (r : Resource) (stage : LoadStage) :
  d.webAsked ≤ (d.complete answer r stage).1.webAsked
  := by
  fun_induction complete answer d r stage with
  | case1 d ending => apply Nat.le_refl
  | case2 d question ih =>
    rw [webAsked_answered, webAsked_noting] at ih
    omega
  | case3 d use ih => apply ih

/-- A load that asks nothing of the web does not depend on what it would be answered there. -/
theorem complete_congr
    (agree : ∀ question, question.location.isRemote = false → answer question = answer' question)
    (d : Desk) (r : Resource) (stage : LoadStage)
    (quiet : (d.complete answer r stage).1.webAsked = d.webAsked) :
  d.complete answer' r stage = d.complete answer r stage
  := by
  fun_induction complete answer d r stage with
  | case1 d ending => apply complete_ended
  | case2 d question ih =>
    have grows := webAsked_le_complete answer
      ((d.noting question).answered r (answer question) question).1 r
      ((d.noting question).answered r (answer question) question).2
    rw [webAsked_answered, webAsked_noting] at ih grows
    have offWeb : question.location.isRemote = false := by
      rw [← Bool.toNat_eq_zero]
      omega
    rw [complete_asking, ← agree question offWeb]
    apply ih
    rw [quiet, offWeb]
    rfl
  | case3 d use ih =>
    rw [complete_storing]
    apply ih quiet

theorem webAsked_handOn (d : Desk) (id : String) (ending : LoadEnding) :
  (d.handOn id ending).1.webAsked = d.webAsked
  := by rw [webAsked, asked_handOn, webAsked]

theorem webAsked_perform (answer : Question → Except LoadError Bytes) {id : String}
    (registered : d.loader.find id = .ok r) (way : LoadWay) :
  (d.perform answer id way).2.webAsked
    = ((d.modifyLoader (·.counting way)).complete answer r
        ((d.modifyLoader (·.counting way)).loader.firstStage r way)).1.webAsked
  := by
  rw [perform, registered]
  apply webAsked_handOn

theorem webAsked_le_perform (answer : Question → Except LoadError Bytes) (d : Desk) (id : String)
    (way : LoadWay) :
  d.webAsked ≤ (d.perform answer id way).2.webAsked
  := by
  cases found : d.loader.find id with
  | error e =>
    apply Nat.le_of_eq
    rw [perform_of_find_eq_error found]
  | ok r =>
    rw [webAsked_perform answer found]
    apply webAsked_le_complete answer (d.modifyLoader (·.counting way))

theorem perform_congr
    (agree : ∀ question, question.location.isRemote = false → answer question = answer' question)
    {id : String} {way : LoadWay} (quiet : (d.perform answer id way).2.webAsked = d.webAsked) :
  d.perform answer' id way = d.perform answer id way
  := by
  cases found : d.loader.find id with
  | error e => rw [perform_of_find_eq_error found, perform_of_find_eq_error found]
  | ok r =>
    rw [webAsked_perform answer found] at quiet
    rw [perform, perform, found]
    dsimp only
    rw [complete_congr agree _ _ _ quiet]

end Desk

namespace Office

variable {α β : Type}

/-- What comes of something under two fetchers when locations on the web were asked a number of
times before: they may be asked again, and if they are not it is the same. -/
structure Undisturbed (asked : Nat) (x x' : α × Office) : Prop where
  grows : asked ≤ x.2.desk.webAsked
  same : x.2.desk.webAsked = asked → x' = x

namespace Undisturbed

variable {o : Office} {x x' : α × Office} {asked : Nat}

/-- What is done without a load. -/
theorem refl (a : α) (o : Office) : Undisturbed o.desk.webAsked (a, o) (a, o)
  := ⟨Nat.le_refl _, fun _ => rfl⟩

/-- What is done with the outcome and without another load. -/
theorem map (h : Undisturbed asked x x') (f : α → β) (g : Office → Office)
    (quiet : ∀ p, (g p).desk.webAsked = p.desk.webAsked) :
  Undisturbed asked (f x.1, g x.2) (f x'.1, g x'.2)
  where
  grows := (quiet x.2).symm ▸ h.grows
  same none := by rw [h.same ((quiet x.2).symm.trans none)]

/-- What is done after something else, which is the same if nothing has come in between. -/
theorem trans (h : Undisturbed asked x x') {y y' : β × Office}
    (grows : x.2.desk.webAsked ≤ y.2.desk.webAsked)
    (next : x' = x → Undisturbed x.2.desk.webAsked y y') :
  Undisturbed asked y y'
  where
  grows := Nat.le_trans h.grows grows
  same none := by
    have before := h.grows
    apply (next (h.same (by omega))).same
    omega

end Undisturbed

/-- The runner of loads that end at once, given a fetcher. -/
def fetching (fetch : Fetcher) : Runner Office (Except LoadError Layer) :=
  runner (fun d => fetch d.asked)

theorem load_fetching (fetch : Fetcher) (id : String) (way : LoadWay) (o : Office) :
  let done := o.desk.perform (fun question => fetch o.desk.asked question.location) id way
  (fetching fetch).load id way o = (done.1, { o with desk := done.2 })
  := rfl

theorem loader_fetching (fetch : Fetcher) (o : Office) :
  (fetching fetch).loader o = o.desk.loader
  := rfl

variable {fetch fetch' : Fetcher}

theorem undisturbed_load (agree : fetch.AgreesOffWeb fetch') (id : String) (way : LoadWay)
    (o : Office) :
  Undisturbed o.desk.webAsked ((fetching fetch).load id way o) ((fetching fetch').load id way o)
  where
  grows := Desk.webAsked_le_perform _ _ _ _
  same quiet := by
    rw [load_fetching, load_fetching,
      Desk.perform_congr (fun question => agree o.desk.asked question.location) quiet]

theorem undisturbed_follow (agree : fetch.AgreesOffWeb fetch') (r : Resource) (o : Office) :
  Undisturbed o.desk.webAsked ((fetching fetch).follow r o) ((fetching fetch').follow r o)
  := by
  have atHand := undisturbed_load agree r.id .atHand o
  have full := undisturbed_load agree r.id .full o
  rw [Runner.follow, Runner.follow, loader_fetching, loader_fetching]
  cases o.desk.loader.policyFor r with
  | never => exact atHand.map Registration.loaded id (fun _ => rfl)
  | onStartup => exact full.map Registration.started id (fun _ => rfl)
  | scheduled => exact full.map Registration.started ((fetching fetch).refresh r) (fun _ => rfl)
  | onDemand => apply Undisturbed.refl

theorem undisturbed_register (agree : fetch.AgreesOffWeb fetch') (r : Resource) (o : Office) :
  Undisturbed o.desk.webAsked ((fetching fetch).register r o) ((fetching fetch').register r o)
  := by
  rw [Runner.register, Runner.register, loader_fetching, loader_fetching]
  cases o.desk.loader.register r with
  | error e => apply Undisturbed.refl
  | ok loader =>
    have followed := undisturbed_follow agree r { o with desk := { o.desk with loader := loader } }
    exact followed.map Except.ok id (fun _ => rfl)

theorem undisturbed_registerAll (agree : fetch.AgreesOffWeb fetch') (rs : List Resource)
    (o : Office) :
  Undisturbed o.desk.webAsked ((fetching fetch).registerAll rs o)
    ((fetching fetch').registerAll rs o)
  := by
  induction rs generalizing o with
  | nil => apply Undisturbed.refl
  | cons r rs ih =>
    rw [Runner.registerAll, Runner.registerAll, loader_fetching, loader_fetching]
    split
    · split
      · exact ih ((fetching fetch).refresh r o)
      · apply ih
    · have registered := undisturbed_register agree r o
      rcases first : (fetching fetch).register r o with ⟨e | a, p⟩
      · rw [first] at registered
        dsimp only
        refine registered.trans (Nat.le_refl _) (fun same => ?_)
        rw [same]
        apply Undisturbed.refl
      · rw [first] at registered
        dsimp only
        refine registered.trans (ih p).grows (fun same => ?_)
        rw [same]
        apply ih

/-- What an office is asked to do. -/
inductive Request where
  /-- Register a resource and do what its policy asks for. -/
  | register (r : Resource)
  /-- Put a new schedule in place of the one there is. -/
  | reconfigure (rs : List Resource)
  /-- Do a load. -/
  | load (id : String) (way : LoadWay)

/-- What an office replies to a request. -/
inductive Reply where
  | registered (outcome : Except LoadError (Registration (Except LoadError Layer)))
  | reconfigured (outcome : Except LoadError Unit)
  | loaded (outcome : Except LoadError Layer)

/-- Do what is requested. -/
def handle (fetch : Fetcher) (o : Office) : Request → Reply × Office
  | .register r =>
    let (outcome, o) := (fetching fetch).register r o
    (.registered outcome, o)
  | .reconfigure rs =>
    let (outcome, o) := (fetching fetch).reconfigure rs o
    (.reconfigured outcome, o)
  | .load id way =>
    let (outcome, o) := (fetching fetch).load id way o
    (.loaded outcome, o)

/-- Do what is requested, one thing after the other. -/
def serve (fetch : Fetcher) (o : Office) : List Request → List Reply × Office
  | [] => ([], o)
  | request :: requests =>
    let (reply, o) := o.handle fetch request
    let (replies, o) := o.serve fetch requests
    (reply :: replies, o)

theorem serve_cons (fetch : Fetcher) (o : Office) (request : Request) (requests : List Request) :
  o.serve fetch (request :: requests)
    = ((o.handle fetch request).1 :: ((o.handle fetch request).2.serve fetch requests).1,
        ((o.handle fetch request).2.serve fetch requests).2)
  := rfl

theorem undisturbed_handle (agree : fetch.AgreesOffWeb fetch') (o : Office) (request : Request) :
  Undisturbed o.desk.webAsked (o.handle fetch request) (o.handle fetch' request)
  := by
  cases request with
  | register r => exact (undisturbed_register agree r o).map Reply.registered id (fun _ => rfl)
  | reconfigure rs =>
    have reconfigured := undisturbed_registerAll agree rs ((fetching fetch).shutdown o)
    exact reconfigured.map Reply.reconfigured id (fun _ => rfl)
  | load id way =>
    exact (undisturbed_load agree id way o).map Reply.loaded (fun p => p) (fun _ => rfl)

/-- Requests that ask nothing of the web do not depend on what they would be answered there. -/
theorem undisturbed_serve (agree : fetch.AgreesOffWeb fetch') (o : Office)
    (requests : List Request) :
  Undisturbed o.desk.webAsked (o.serve fetch requests) (o.serve fetch' requests)
  := by
  induction requests generalizing o with
  | nil => apply Undisturbed.refl
  | cons request requests ih =>
    have later := ih (o.handle fetch request).2
    rw [serve_cons, serve_cons]
    refine (undisturbed_handle agree o request).trans later.grows (fun same => ?_)
    rw [same]
    exact later.map (List.cons (o.handle fetch request).1) id (fun _ => rfl)

end Office

end CrossRate
