import CrossRate.Proofs.Loading.Directory
import Mathlib.Data.List.Induction

/-!
# What stores reply

Calls come to a store one after the other. A store in a directory that was empty replies to them
as a store in memory that knows resources by the stems of their files only
(`Storage.servesByStem_of_succeeds`): step by step, the files are what the other one keeps
(`Storage.Mirrors.step`). So it replies as a store in memory as long as no two resources have the
same stem.
-/

namespace CrossRate

/-- What is asked of a store. -/
inductive StoreCall where
  | read (id : String)
  | write (id : String) (payload : Bytes)
  | remove (id : String)

namespace StoreCall

/-- The resource of a call. -/
def resource : StoreCall → String
  | read id | write id _ | remove id => id

/-- The same call for another resource. -/
def withId (f : String → String) : StoreCall → StoreCall
  | read id => .read (f id)
  | write id payload => .write (f id) payload
  | remove id => .remove (f id)

/-- What a call leaves of a resource, if it changes one of those that pass a test. -/
def change? (test : String → Bool) : StoreCall → Option (Option Bytes)
  | read _ => none
  | write id payload => if test id then some (some payload) else none
  | remove id => if test id then some none else none

/-- What the last call has left that changes a resource that passes a test. -/
def left? (test : String → Bool) (calls : List StoreCall) : Option Bytes :=
  (calls.reverse.findSome? (change? test)).join

/-- The names of the files that a call uses. -/
def fileNames : StoreCall → List String
  | read id | remove id => [Storage.fileNameOf id]
  | write id _ => [Storage.draftNameOf id, Storage.fileNameOf id]

variable {test : String → Bool} {calls : List StoreCall} {call : StoreCall}

theorem left?_concat :
  left? test (calls ++ [call]) = (change? test call).getD (left? test calls)
  := by
  rw [left?, List.reverse_append, List.reverse_singleton, List.singleton_append,
    List.findSome?_cons]
  cases change? test call <;> rfl

theorem change?_withId (f : String → String) :
  change? test (call.withId f) = change? (test ∘ f) call
  := by cases call <;> rfl

theorem left?_withId (f : String → String) :
  left? test (calls.map (·.withId f)) = left? (test ∘ f) calls
  := by
  have same : change? test ∘ (·.withId f) = change? (test ∘ f) := by
    funext call
    apply change?_withId
  rw [left?, ← List.map_reverse, List.findSome?_map, same, left?]

/-- Only whether the resources of the calls pass is of consequence. -/
theorem left?_congr {test' : String → Bool}
    (h : ∀ call ∈ calls, test call.resource = test' call.resource) :
  left? test calls = left? test' calls
  := by
  induction calls using List.reverseRecOn with
  | nil => rfl
  | append_singleton calls call ih =>
    simp only [List.mem_append, List.mem_singleton, or_imp, forall_and, forall_eq] at h
    have same : change? test call = change? test' call := by
      cases call <;> simp_all [change?, resource]
    rw [left?_concat, left?_concat, same, ih h.1]

end StoreCall

/-- A part of a list stands at its end or before that. -/
theorem eq_or_of_concat {α : Type} {l earlier later : List α} {a b : α}
    (split : l ++ [a] = earlier ++ b :: later) :
  later = [] ∧ l = earlier ∧ a = b ∨ ∃ later', later = later' ++ [a] ∧ l = earlier ++ b :: later'
  := by
  obtain rfl | ⟨later, c, rfl⟩ := List.eq_nil_or_concat later
  · exact .inl ⟨rfl, List.append_singleton_inj.1 split⟩
  · rw [List.concat_eq_append, ← List.cons_append, ← List.append_assoc] at split
    obtain ⟨rfl, rfl⟩ := List.append_singleton_inj.1 split
    exact .inr ⟨later, List.concat_eq_append, rfl⟩

namespace Storage

/-- What a store replies to a call. -/
def reply (s : Storage) : StoreCall → Except StorageFault (Option Bytes)
  | .read id => s.read id
  | .write id payload => (s.write id payload).1.map (fun _ => none)
  | .remove id => (s.remove id).1.map (fun _ => none)

/-- The store after a call. -/
def after (s : Storage) : StoreCall → Storage
  | .read _ => s
  | .write id payload => (s.write id payload).2
  | .remove id => (s.remove id).2

/-- The store after calls, one after the other. -/
def run (s : Storage) (calls : List StoreCall) : Storage := calls.foldl after s

/-- What a store replies to calls, one after the other. -/
def replies (s : Storage) : List StoreCall → List (Except StorageFault (Option Bytes))
  | [] => []
  | call :: calls => s.reply call :: (s.after call).replies calls

theorem run_concat (s : Storage) (calls : List StoreCall) (call : StoreCall) :
  s.run (calls ++ [call]) = (s.run calls).after call
  := by rw [run, List.foldl_append]; rfl

theorem replies_concat (s : Storage) (calls : List StoreCall) (call : StoreCall) :
  s.replies (calls ++ [call]) = s.replies calls ++ [(s.run calls).reply call]
  := by
  induction calls generalizing s with
  | nil => rfl
  | cons first calls ih =>
    rw [List.cons_append, replies, ih]
    rfl

/-! ### In memory -/

/-- A store in memory that is in order and empty. -/
def inMemory : Storage := {}

/-- A store in memory keeps of each resource what the last change has left. -/
theorem inMemory_run (calls : List StoreCall) :
  (inMemory.run calls).place = .memory true true
    ∧ ∀ id, (inMemory.run calls).kept.get? id = StoreCall.left? (· = id) calls
  := by
  induction calls using List.reverseRecOn with
  | nil => exact ⟨rfl, fun id => rfl⟩
  | append_singleton calls call ih =>
    obtain ⟨place, kept⟩ := ih
    rw [run_concat]
    simp only [StoreCall.left?_concat, ← kept]
    cases call with
    | read id' => exact ⟨place, fun id => rfl⟩
    | write id' payload =>
      simp only [after, write, place, if_true, StoreCall.change?, OrderedMap.get?_insert]
      refine ⟨trivial, fun id => ?_⟩
      by_cases same : id' = id
      · simp [same]
      · simp [same, Ne.symm same]
    | remove id' =>
      simp only [after, remove, place, StoreCall.change?, OrderedMap.get?_erase]
      refine ⟨trivial, fun id => ?_⟩
      by_cases same : id' = id
      · simp [same]
      · simp [same, Ne.symm same]

theorem reply_inMemory_run_read (calls : List StoreCall) (id : String) :
  (inMemory.run calls).reply (.read id) = .ok (StoreCall.left? (· = id) calls)
  := by
  obtain ⟨place, kept⟩ := inMemory_run calls
  simp [reply, read, place, kept]

theorem reply_inMemory_run_write (calls : List StoreCall) (id : String) (payload : Bytes) :
  (inMemory.run calls).reply (.write id payload) = .ok none
  := by
  simp only [reply, write, (inMemory_run calls).1]
  rfl

theorem reply_inMemory_run_remove (calls : List StoreCall) (id : String) :
  (inMemory.run calls).reply (.remove id) = .ok none
  := by
  simp only [reply, remove, (inMemory_run calls).1]
  rfl

/-- Something holds of all reads, and what came before them, if it holds of the last call and of
the others. -/
theorem forall_read_concat_iff {calls : List StoreCall} {call : StoreCall}
    {P : List StoreCall → String → Prop} :
  (∀ earlier id later, calls ++ [call] = earlier ++ .read id :: later → P earlier id)
    ↔ (∀ earlier id later, calls = earlier ++ .read id :: later → P earlier id)
      ∧ ∀ id, call = .read id → P calls id
  := by
  constructor
  · intro h
    constructor
    · rintro earlier id later rfl
      apply h earlier id (later ++ [call])
      simp
    · rintro id rfl
      apply h calls id []
      rfl
  · rintro ⟨before, last⟩ earlier id later split
    obtain ⟨-, rfl, same⟩ | ⟨later, -, rfl⟩ := eq_or_of_concat split
    · apply last id same
    · apply before _ _ _ rfl

/-- A store in memory that takes some resources for one replies as one that does not if whenever
a resource is read the last change of those taken for it has left what its own last change has. -/
theorem replies_withId_eq_iff (f : String → String) (calls : List StoreCall) :
  inMemory.replies (calls.map (·.withId f)) = inMemory.replies calls
    ↔ ∀ earlier id later, calls = earlier ++ .read id :: later →
        StoreCall.left? (f · = f id) earlier = StoreCall.left? (· = id) earlier
  := by
  induction calls using List.reverseRecOn with
  | nil => simp [replies]
  | append_singleton calls call ih =>
    rw [List.map_append, List.map_singleton, replies_concat, replies_concat,
      List.append_singleton_inj, ih, forall_read_concat_iff]
    apply and_congr_right'
    cases call with
    | read id =>
      rw [StoreCall.withId, reply_inMemory_run_read, reply_inMemory_run_read,
        StoreCall.left?_withId]
      simp [Function.comp_def]
    | write id payload => simp [StoreCall.withId, reply_inMemory_run_write]
    | remove id => simp [StoreCall.withId, reply_inMemory_run_remove]

/-- They reply alike if no two resources of the calls are taken for one. -/
theorem replies_withId_eq {f : String → String} {calls : List StoreCall}
    (apart : ∀ call ∈ calls, ∀ call' ∈ calls, f call.resource = f call'.resource →
      call.resource = call'.resource) :
  inMemory.replies (calls.map (·.withId f)) = inMemory.replies calls
  := by
  rw [replies_withId_eq_iff]
  rintro earlier id later rfl
  apply StoreCall.left?_congr
  intro call mem
  rw [decide_eq_decide]
  constructor
  · apply apart call (List.mem_append_left _ mem) (.read id) (by simp)
  · intro same
    rw [same]

/-! ### In a directory -/

/-- A store in a directory has in its files what a store in memory has under the stems of their
names. -/
structure Mirrors (s m : Storage) (path : String) (place : FilePlace) : Prop where
  directory : s.place = .directory path
  leads : s.files.LeadsTo path place
  memory : m.place = .memory true true
  files (id : String) : s.files.nodes.get? (place ++ [fileNameOf id])
    = (m.kept.get? (stemOf id)).map .file

variable {s m : Storage} {path : String} {place : FilePlace} {calls : List StoreCall}

/-- A change of the file of a resource is one of what is kept under its stem. -/
theorem Mirrors.of_leaves (h : s.Mirrors m path place) {s' m' : Storage} {id : String}
    {content : Option Bytes} {cleared : FilePlace} (directory : s'.place = .directory path)
    (memory : m'.place = .memory true true)
    (leaves : Leaves s.files s'.files (place ++ [fileNameOf id]) content cleared)
    (draft : ∀ id', place ++ [fileNameOf id'] = cleared → stemOf id' = stemOf id)
    (kept : ∀ stem, m'.kept.get? stem = if stem = stemOf id then content else m.kept.get? stem) :
  s'.Mirrors m' path place
  where
  directory := directory
  leads := h.leads.of_keepsDirectories leaves.keeps
  memory := memory
  files id' := by
    rw [leaves.get?, kept]
    have named : place ++ [fileNameOf id'] = place ++ [fileNameOf id] ↔ stemOf id' = stemOf id := by
      rw [List.append_cancel_left_eq, List.singleton_inj, fileNameOf_inj]
    by_cases same : stemOf id' = stemOf id
    · rw [if_pos (named.2 same), if_pos same]
    · rw [if_neg (mt named.1 same), if_neg (mt (draft id') same), if_neg same]
      apply h.files

/-- A reply that has nothing to say but that all went well. -/
theorem eq_none_of_map_eq_ok {done : Except StorageFault Unit} {kept : Option Bytes}
    (h : done.map (fun _ => (none : Option Bytes)) = .ok kept) :
  done = .ok () ∧ kept = none
  := by
  cases done with
  | error fault => cases h
  | ok _ => exact ⟨rfl, (Except.ok.inj h).symm⟩

/-- The step: a call that succeeds is replied alike, uses files that lie directly in the directory,
and changes nothing elsewhere. -/
theorem Mirrors.step (h : s.Mirrors m path place) {call : StoreCall} {kept : Option Bytes}
    (done : s.reply call = .ok kept) :
  m.reply (call.withId stemOf) = .ok kept
    ∧ (s.after call).Mirrors (m.after (call.withId stemOf)) path place
    ∧ (∀ name ∈ call.fileNames, s.files.locate (pathIn path name) = .ok (place ++ [name]))
    ∧ ∀ q, (∀ name, q ≠ place ++ [name]) →
        (s.after call).files.nodes.get? q = s.files.nodes.get? q
  := by
  cases call with
  | read id =>
    obtain ⟨located, same⟩ := files_of_read h.directory h.leads done
    refine ⟨?_, h, by simpa [StoreCall.fileNames] using located, fun q _ => rfl⟩
    rw [same _ (h.files id)]
    simp [StoreCall.withId, reply, read, h.memory]
  | write id payload =>
    obtain ⟨written, rfl⟩ := eq_none_of_map_eq_ok done
    obtain ⟨directory, draft, located, leaves⟩ := files_of_write h.directory h.leads written
    have apart (id' : String) : place ++ [fileNameOf id'] ≠ place ++ [draftNameOf id] := by
      rw [Ne, List.append_cancel_left_eq, List.singleton_inj]
      apply (draftNameOf_ne_fileNameOf id id').symm
    refine ⟨?_, ?_, ?_, ?_⟩
    · simp [StoreCall.withId, reply, write, h.memory, Except.map]
    · refine h.of_leaves directory ?_ leaves (fun id' same => absurd same (apart id')) ?_
      · simp [StoreCall.withId, after, write, h.memory]
      · simp [StoreCall.withId, after, write, h.memory, OrderedMap.get?_insert]
    · simpa [StoreCall.fileNames] using ⟨draft, located⟩
    · intro q outside
      rw [after, leaves.get?, if_neg (outside _), if_neg (outside _)]
  | remove id =>
    obtain ⟨removed, rfl⟩ := eq_none_of_map_eq_ok done
    obtain ⟨directory, located, leaves⟩ := files_of_remove h.directory h.leads removed
    refine ⟨?_, ?_, ?_, ?_⟩
    · simp [StoreCall.withId, reply, remove, h.memory, Except.map]
    · refine h.of_leaves directory ?_ leaves ?_ ?_
      · simp [StoreCall.withId, after, remove, h.memory]
      · intro id' same
        rwa [List.append_cancel_left_eq, List.singleton_inj, fileNameOf_inj] at same
      · simp [StoreCall.withId, after, remove, h.memory, OrderedMap.get?_erase]
    · simpa [StoreCall.fileNames] using located
    · intro q outside
      rw [after, leaves.get?, if_neg (outside _), if_neg (outside _)]

/-- Calls that all succeed. -/
def Succeeds (s : Storage) (calls : List StoreCall) : Prop :=
  ∀ reply ∈ s.replies calls, ∃ kept, reply = .ok kept

/-- The calls use files that lie directly in a directory, and change nothing elsewhere. -/
structure StaysInside (s : Storage) (path : String) (place : FilePlace) (calls : List StoreCall) :
    Prop where
  located {earlier later : List StoreCall} {call : StoreCall} : calls = earlier ++ call :: later →
    ∀ name ∈ call.fileNames,
      (s.run earlier).files.locate (pathIn path name) = .ok (place ++ [name])
  elsewhere {q : FilePlace} : (∀ name, q ≠ place ++ [name]) →
    (s.run calls).files.nodes.get? q = s.files.nodes.get? q

/-- The run: calls that succeed are replied alike. -/
theorem Mirrors.run (h : s.Mirrors m path place) (done : s.Succeeds calls) :
  s.replies calls = m.replies (calls.map (·.withId stemOf))
    ∧ (s.run calls).Mirrors (m.run (calls.map (·.withId stemOf))) path place
    ∧ s.StaysInside path place calls
  := by
  induction calls using List.reverseRecOn with
  | nil =>
    refine ⟨rfl, h, ?_, fun _ => rfl⟩
    intro earlier later call split
    simp at split
  | append_singleton calls call ih =>
    rw [Succeeds, replies_concat] at done
    obtain ⟨before, ⟨kept, last⟩⟩ := List.forall_mem_append.1 done |>.imp_right
      (List.forall_mem_singleton.1 ·)
    obtain ⟨same, mirrors, inside⟩ := ih before
    obtain ⟨same', mirrors', located, elsewhere⟩ := mirrors.step last
    rw [List.map_append, List.map_singleton, replies_concat, replies_concat, run_concat,
      run_concat]
    refine ⟨by rw [same, last, same'], mirrors', ?_, ?_⟩
    · intro earlier later call' split
      obtain ⟨-, rfl, rfl⟩ | ⟨later, -, split⟩ := eq_or_of_concat split
      · apply located
      · apply inside.located split
    · intro q outside
      rw [run_concat, elsewhere q outside, inside.elsewhere outside]

/-! ### Side by side -/

/-- A store in a directory that is empty. -/
structure IsInEmptyDirectory (s : Storage) (path : String) (place : FilePlace) : Prop where
  directory : s.place = .directory path
  leads : s.files.LeadsTo path place
  empty (name : String) : s.files.nodes.get? (place ++ [name]) = none

theorem IsInEmptyDirectory.mirrors (h : s.IsInEmptyDirectory path place) :
  s.Mirrors inMemory path place
  := ⟨h.directory, h.leads, rfl, fun id => h.empty (fileNameOf id)⟩

/-- A store in a directory has replied to calls. -/
structure ServesByStem (s : Storage) (path : String) (place : FilePlace)
    (calls : List StoreCall) : Prop extends s.StaysInside path place calls where
  /-- It replies as a store in memory that takes resources for one whose stems are the same. -/
  replies : s.replies calls = inMemory.replies (calls.map (·.withId stemOf))
  /-- It replies as a store in memory just if, whenever a resource is read, the last change to
  those of its stem has left what its own last change has. -/
  replies_iff : s.replies calls = inMemory.replies calls
    ↔ ∀ earlier id later, calls = earlier ++ .read id :: later →
        StoreCall.left? (stemOf · = stemOf id) earlier = StoreCall.left? (· = id) earlier
  /-- So it does if the resources of the calls all have stems of their own. -/
  replies_of_apart : (∀ call ∈ calls, ∀ call' ∈ calls,
      stemOf call.resource = stemOf call'.resource → call.resource = call'.resource) →
    s.replies calls = inMemory.replies calls

/-- A store in an empty directory replies to calls that succeed by the stems of their resources,
which is what a store in memory replies as far as the stems tell the resources apart. -/
theorem servesByStem_of_succeeds (empty : s.IsInEmptyDirectory path place)
    (done : s.Succeeds calls) :
  s.ServesByStem path place calls
  := by
  obtain ⟨same, -, inside⟩ := empty.mirrors.run done
  refine { inside with replies := same, replies_iff := ?_, replies_of_apart := ?_ }
  · rw [same]
    apply replies_withId_eq_iff
  · intro apart
    rw [same]
    apply replies_withId_eq apart

/-- A store in the empty directory `cache`. -/
def inCache : Storage :=
  { place := .directory "cache"
    files := ⟨FileTree.start.nodes.insert ["work", "cache"] .directory⟩ }

theorem isInEmptyDirectory_inCache : inCache.IsInEmptyDirectory "cache" ["work", "cache"]
  where
  directory := rfl
  leads := ⟨by decide +kernel, by decide +kernel⟩
  empty name := by
    have shallow : ∀ e ∈ inCache.files.nodes.entries, e.1.length ≠ 3 := by decide +kernel
    apply OrderedMap.find?_eq_none_of_forall
    intro e mem same
    apply shallow e mem
    rw [← same]
    rfl

theorem succeeds_of_replies {kept : List (Option Bytes)}
    (h : (s.replies calls).map Except.toOption = kept.map some) :
  s.Succeeds calls
  := by
  intro reply mem
  obtain ⟨found, -, same⟩ := List.mem_map.1 (h ▸ List.mem_map_of_mem mem)
  use found, toOption_eq_some_iff.1 same.symm

/-- Two resources with stems of their own. -/
theorem servesByStem_of_succeeds_two_stems :
  ∃ calls : List StoreCall,
    calls = [.write "a/b" [49], .read "a-b"]
      ∧ inCache.IsInEmptyDirectory "cache" ["work", "cache"]
      ∧ inCache.Succeeds calls
      ∧ inCache.ServesByStem "cache" ["work", "cache"] calls
  := by
  let calls : List StoreCall := [.write "a/b" [49], .read "a-b"]
  have replied : (inCache.replies calls).map Except.toOption = [none, none].map some := by
    decide +kernel
  have done : inCache.Succeeds calls := succeeds_of_replies replied
  exact ⟨calls, rfl, isInEmptyDirectory_inCache, done,
    servesByStem_of_succeeds isInEmptyDirectory_inCache done⟩

/-- A resource that was never kept is read as another one of the same stem. -/
theorem replies_of_one_stem :
  ∃ calls : List StoreCall,
    calls = [.write "a/b" [49], .read "a_b"]
      ∧ inCache.IsInEmptyDirectory "cache" ["work", "cache"]
      ∧ inCache.Succeeds calls
      ∧ (inCache.replies calls).map Except.toOption = [none, some [49]].map some
      ∧ (inMemory.replies calls).map Except.toOption = [none, none].map some
  := by
  let calls : List StoreCall := [.write "a/b" [49], .read "a_b"]
  have replied : (inCache.replies calls).map Except.toOption = [none, some [49]].map some := by
    decide +kernel
  exact ⟨calls, rfl, isInEmptyDirectory_inCache, succeeds_of_replies replied, replied,
    by decide +kernel⟩

end Storage

end CrossRate
