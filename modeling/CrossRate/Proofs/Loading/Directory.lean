import CrossRate.Proofs.Loading.Storage

/-!
# Files in a directory

A path that leads to a directory leads, with a plain name after it, to the place of that name
in the directory (`FileTree.LeadsTo.locate`). The names of the files of a store are plain, so what a
store in a directory reads, writes and removes lies directly in it.
-/

namespace CrossRate

namespace FileTree

variable {t t' : FileTree} {path name : String} {place : FilePlace}

/-- Names are followed one part after the other. -/
theorem walk_append (names names' : List String) :
  t.walk place (names ++ names') = (t.walk place names).bind (t.walk · names')
  := by
  induction names generalizing place with
  | nil => rfl
  | cons name rest ih =>
    rw [List.cons_append, walk, walk]
    rcases t.nodes.get? place with _ | _ | content
    · rfl
    · dsimp only
      split
      · apply ih
      · split
        · apply ih
        · split
          · rfl
          · apply ih
    · rfl

/-- A path leads to a directory. -/
structure LeadsTo (t : FileTree) (path : String) (place : FilePlace) : Prop where
  walk : t.walk (originOf path) (namesOf path) = .ok place
  directory : t.nodes.get? place = some .directory

theorem LeadsTo.of_keepsDirectories (h : t.LeadsTo path place) (keeps : t.KeepsDirectories t') :
  t'.LeadsTo path place
  := ⟨keeps.walk h.walk, keeps place h.directory⟩

/-- A name of something in a directory. -/
structure IsPlain (name : String) : Prop where
  whole : '/' ∉ name.toList
  moves : stays name = false
  descends : name ≠ ".."

theorem namesOf_of_whole (whole : '/' ∉ name.toList) : namesOf name = [name]
  := by
  rw [namesOf, Text.splitAt, List.splitOn_eq_singleton whole, List.map_singleton,
    String.ofList_toList]

theorem namesOf_append (base : String) (name : String) :
  namesOf (base ++ "/" ++ name) = namesOf base ++ namesOf name
  := by
  have slash : "/".toList = ['/'] := rfl
  rw [namesOf, Text.splitAt, String.toList_append, String.toList_append, slash, List.append_assoc,
    List.singleton_append, List.splitOn_append_cons_self, List.map_append]
  rfl

theorem namesOf_slash (base : String) : namesOf (base ++ "/") = namesOf base ++ [""]
  := by
  have parts := namesOf_append base ""
  have last : namesOf "" = [""] := namesOf_of_whole (by decide)
  rwa [String.append_empty, last] at parts

/-- A slash at the end of a path changes nothing of where it leads. -/
theorem walk_slash {origin : FilePlace} {names : List String}
    (h : t.walk origin (names ++ [""]) = .ok place) :
  t.walk origin names = .ok place
  := by
  rw [walk_append] at h
  obtain ⟨place', walked, stays⟩ := bind_eq_ok_iff.1 h
  rw [walk] at stays
  rw [walked]
  split at stays
  · cases stays
  · cases stays
  · cases stays
    rfl

/-- From a directory a plain name leads to its place there, unless it is too long. -/
theorem walk_plain (plain : IsPlain name) (directory : t.nodes.get? place = some .directory) :
  t.walk place [name]
    = if name.utf8ByteSize > longestName then .error .nameTooLong else .ok (place ++ [name])
  := by simp [walk, directory, plain.moves, plain.descends]

end FileTree

namespace Storage

open FileTree

theorem exists_eq_append_slash {path : String} (h : path.endsWith "/" = true) :
  ∃ base, path = base ++ "/"
  := by
  obtain ⟨base, split⟩ := String.Slice.endsWith_string_iff.1 h
  use String.ofList base
  rw [← String.toList_inj, String.toList_append, String.toList_ofList, split]
  simp

/-- A path with a name after it starts where it does. -/
theorem originOf_pathIn {path name : String} (whole : '/' ∉ name.toList) :
  originOf (pathIn path name) = originOf path
  := by
  have head (s : String) (filled : path ≠ "") : originOf (path ++ s) = originOf path := by
    rw [Ne, ← String.toList_inj] at filled
    obtain ⟨c, cs, first⟩ := List.exists_cons_of_ne_nil filled
    rw [originOf, originOf, String.toList_append, first]
    rfl
  rw [pathIn]
  split
  · by_cases empty : path = ""
    · rw [empty, String.empty_append, originOf, if_neg, originOf, if_neg]
      · decide
      · intro first
        apply whole (List.mem_of_mem_head? first)
    · apply head _ empty
  · rename_i inside
    rw [String.append_assoc]
    apply head _ (fun empty => inside (.inl empty))

/-- A name after a path is followed from where the path leads. -/
theorem walk_pathIn {t : FileTree} {path name : String} {place : FilePlace}
    (leads : t.LeadsTo path place) (whole : '/' ∉ name.toList) :
  t.walk (originOf (pathIn path name)) (namesOf (pathIn path name)) = t.walk place [name]
  := by
  have walked := leads.walk
  have append {names : List String} (h : t.walk (originOf path) names = .ok place) :
      t.walk (originOf path) (names ++ [name]) = t.walk place [name] := by
    rw [walk_append, h]
    rfl
  rw [originOf_pathIn whole, pathIn]
  split
  · rename_i outside
    rw [or_iff_not_imp_left] at outside
    by_cases empty : path = ""
    · subst empty
      rw [String.empty_append, namesOf_of_whole whole]
      have stayed : t.walk (originOf "") [] = .ok place := walk_slash walked
      apply append stayed
    · obtain ⟨base, rfl⟩ := exists_eq_append_slash (outside empty)
      rw [namesOf_append, namesOf_of_whole whole]
      rw [namesOf_slash] at walked
      apply append (walk_slash walked)
  · rw [namesOf_append, namesOf_of_whole whole]
    apply append walked

/-- Where a plain name in a directory is does not depend on the files. -/
theorem locate_pathIn_congr {t t' : FileTree} {path name : String} {place : FilePlace}
    (leads : t.LeadsTo path place) (leads' : t'.LeadsTo path place) (plain : IsPlain name) :
  t'.locate (pathIn path name) = t.locate (pathIn path name)
  := by
  rw [locate, locate, walk_pathIn leads plain.whole, walk_pathIn leads' plain.whole,
    walk_plain plain leads.directory, walk_plain plain leads'.directory]

/-- A plain name in a directory can be located unless it is at fault itself. -/
theorem locate_pathIn {t : FileTree} {path name : String} {place : FilePlace}
    (leads : t.LeadsTo path place) (plain : IsPlain name) :
  t.locate (pathIn path name) = .ok (place ++ [name])
    ∨ ∃ fault, t.locate (pathIn path name) = .error fault ∧ fault ≠ .missing
  := by
  have filled : pathIn path name ≠ "" := by
    have named : name ≠ "" := by
      rintro rfl
      cases plain.moves
    rw [pathIn]
    split <;> simp [String.append_eq_empty_iff, named]
  rw [locate, if_neg filled, walk_pathIn leads plain.whole, walk_plain plain leads.directory]
  cases fault : faultOf? (pathIn path name) with
  | some fault' =>
    right
    refine ⟨_, rfl, ?_⟩
    rw [faultOf?] at fault
    split at fault
    · cases fault
      decide
    · split at fault
      · cases fault
        decide
      · cases fault
  | none =>
    dsimp only
    split
    · exact .inr ⟨_, rfl, by decide⟩
    · exact .inl rfl

/-! ### The names of files -/

theorem toList_stemOf (id : String) :
  (stemOf id).toList = id.toList.map (fun c => if shows c then c else '_')
  := String.toList_map

theorem slash_notMem_stemOf (id : String) : '/' ∉ (stemOf id).toList
  := by
  rw [toList_stemOf, List.mem_map]
  rintro ⟨c, -, shown⟩
  split at shown
  · rename_i shows
    subst shown
    revert shows
    decide
  · revert shown
    decide

/-- A name is plain that goes on after some stem with a dot and other letters. -/
theorem isPlain_of_ending {name stem : String} {ending : List Char} (whole : '/' ∉ stem.toList)
    (h : name.toList = stem.toList ++ ending) (long : 2 < ending.length)
    (ends : '/' ∉ ending) :
  IsPlain name
  := by
  have differs (short : String) (few : short.toList.length ≤ 2) : name ≠ short := by
    rintro rfl
    rw [h, List.length_append] at few
    omega
  have empty : name ≠ "" := differs "" (by decide)
  have dot : name ≠ "." := differs "." (by decide)
  refine ⟨?_, by simp [stays, empty, dot], differs ".." (by decide)⟩
  rw [h, List.mem_append, not_or]
  use whole

theorem toList_fileNameOf (id : String) :
  (fileNameOf id).toList = (stemOf id).toList ++ ['.', 'd', 'a', 't']
  := by
  rw [fileNameOf, String.toList_append]
  rfl

theorem toList_draftNameOf (id : String) :
  ∃ stem : String, '/' ∉ stem.toList ∧ (draftNameOf id).toList = stem.toList ++ ['.', 't', 'm', 'p']
  := by
  rw [draftNameOf]
  split
  · exact ⟨".dat", by decide, rfl⟩
  · refine ⟨_, slash_notMem_stemOf id, ?_⟩
    rw [String.toList_append]
    rfl

theorem isPlain_fileNameOf (id : String) : IsPlain (fileNameOf id)
  := isPlain_of_ending (slash_notMem_stemOf id) (toList_fileNameOf id) (by decide) (by decide)

theorem isPlain_draftNameOf (id : String) : IsPlain (draftNameOf id)
  := by
  obtain ⟨stem, whole, draft⟩ := toList_draftNameOf id
  apply isPlain_of_ending whole draft (by decide) (by decide)

theorem fileNameOf_inj {id id' : String} : fileNameOf id = fileNameOf id' ↔ stemOf id = stemOf id'
  := by
  rw [← String.toList_inj, toList_fileNameOf, toList_fileNameOf, List.append_left_inj,
    String.toList_inj]

/-- No draft has the name of a file. -/
theorem draftNameOf_ne_fileNameOf (id id' : String) : draftNameOf id ≠ fileNameOf id'
  := by
  intro same
  obtain ⟨stem, -, draft⟩ := toList_draftNameOf id
  have last := congrArg (·.toList.getLast?) same
  simp only [draft, toList_fileNameOf, List.getLast?_append] at last
  cases last

/-! ### What is done to files -/

section

variable {s : Storage} {path : String} {place : FilePlace} {id : String}

/-- Whatever could be located in a directory lies there. -/
theorem eq_of_locate_pathIn {t : FileTree} {name : String} {found : FilePlace}
    (leads : t.LeadsTo path place) (plain : IsPlain name)
    (located : t.locate (pathIn path name) = .ok found) :
  found = place ++ [name]
  := by
  obtain located' | ⟨fault, located', -⟩ := locate_pathIn leads plain
  · rw [located] at located'
    apply Except.ok.inj located'
  · rw [located] at located'
    cases located'

/-- What is read is the file of the resource, and there is none if nothing is read. -/
theorem files_of_read (directory : s.place = .directory path) (leads : s.files.LeadsTo path place)
    {kept : Option Bytes} (h : s.read id = .ok kept) :
  s.files.locate (pathIn path (fileNameOf id)) = .ok (place ++ [fileNameOf id])
    ∧ ∀ kept' : Option Bytes, s.files.nodes.get? (place ++ [fileNameOf id]) = kept'.map .file →
        kept = kept'
  := by
  rw [read, directory] at h
  dsimp only [FileTree.read] at h
  obtain located | ⟨fault, located, other⟩ := locate_pathIn leads (isPlain_fileNameOf id)
  · refine ⟨located, ?_⟩
    intro kept' node
    rw [located] at h
    cases kept' with
    | none => simpa [Except.bind, contentAt, node, eq_comm] using h
    | some payload => simpa [Except.bind, contentAt, node, eq_comm] using h
  · rw [located] at h
    dsimp only [Except.bind] at h
    split at h <;> simp_all

/-- To put a file at a place changes nothing elsewhere. -/
theorem get?_putAt {t t' : FileTree} {content : Bytes} (put : t.putAt place content = .ok t')
    (q : FilePlace) :
  t'.nodes.get? q = if q = place then some (.file content) else t.nodes.get? q
  := by
  rw [putAt] at put
  split at put
  · cases put
  · cases put
    apply OrderedMap.get?_insert

/-- What a use of the store does to the files: it puts a file at a place, or drops one there, and
clears another place. -/
structure Leaves (t t' : FileTree) (place : FilePlace) (content : Option Bytes)
    (cleared : FilePlace) : Prop where
  keeps : t.KeepsDirectories t'
  get? (q : FilePlace) : t'.nodes.get? q
    = if q = place then content.map .file else if q = cleared then none else t.nodes.get? q

/-- To keep a payload puts it in the file of the resource, by way of the draft. -/
theorem files_of_write (directory : s.place = .directory path)
    (leads : s.files.LeadsTo path place) {payload : Bytes} (h : (s.write id payload).1 = .ok ()) :
  (s.write id payload).2.place = .directory path
    ∧ s.files.locate (pathIn path (draftNameOf id)) = .ok (place ++ [draftNameOf id])
    ∧ s.files.locate (pathIn path (fileNameOf id)) = .ok (place ++ [fileNameOf id])
    ∧ Leaves s.files (s.write id payload).2.files (place ++ [fileNameOf id]) (some payload)
        (place ++ [draftNameOf id])
  := by
  rw [write, directory] at h ⊢
  dsimp only at h ⊢
  split at h
  · cases h
  · rename_i prepared draft
    split at h
    · cases h
    · rename_i files renamed
      obtain ⟨from₁, located₁, put₁⟩ := bind_eq_ok_iff.1 draft
      obtain ⟨keeps₁, -⟩ := keepsDirectories_putAt put₁
      obtain ⟨from₂, located₂, renamed⟩ := bind_eq_ok_iff.1 renamed
      obtain ⟨content, held, renamed⟩ := bind_eq_ok_iff.1 renamed
      obtain ⟨target, located₃, put₂⟩ := bind_eq_ok_iff.1 renamed
      have leads' := leads.of_keepsDirectories keeps₁
      obtain rfl := eq_of_locate_pathIn leads (isPlain_draftNameOf id) located₁
      obtain rfl := eq_of_locate_pathIn leads' (isPlain_draftNameOf id) located₂
      obtain rfl := eq_of_locate_pathIn leads' (isPlain_fileNameOf id) located₃
      have payload' : content = payload := by
        rw [contentAt, get?_putAt put₁, if_pos rfl] at held
        exact (Except.ok.inj held).symm
      subst payload'
      refine ⟨rfl, located₁, ?_, ?_⟩
      · rw [← located₃]
        exact locate_pathIn_congr leads' leads (isPlain_fileNameOf id)
      · constructor
        · exact (keeps₁.trans (keepsDirectories_erase held)).trans (keepsDirectories_putAt put₂).1
        · intro q
          rw [get?_putAt put₂, OrderedMap.get?_erase, get?_putAt put₁]
          split_ifs <;> rfl

/-- To drop a payload drops the file of the resource. -/
theorem files_of_remove (directory : s.place = .directory path)
    (leads : s.files.LeadsTo path place) (h : (s.remove id).1 = .ok ()) :
  (s.remove id).2.place = .directory path
    ∧ s.files.locate (pathIn path (fileNameOf id)) = .ok (place ++ [fileNameOf id])
    ∧ Leaves s.files (s.remove id).2.files (place ++ [fileNameOf id]) none
        (place ++ [fileNameOf id])
  := by
  have plain := isPlain_fileNameOf id
  rw [remove, directory] at h ⊢
  dsimp only at h ⊢
  split at h
  · rename_i files removed
    obtain ⟨found, located, removed⟩ := bind_eq_ok_iff.1 removed
    obtain ⟨content, held, removed⟩ := bind_eq_ok_iff.1 removed
    obtain rfl := eq_of_locate_pathIn leads plain located
    cases removed
    refine ⟨rfl, located, keepsDirectories_erase held, ?_⟩
    intro q
    dsimp only
    rw [OrderedMap.get?_erase]
    split_ifs <;> rfl
  · rename_i missing
    obtain located | ⟨fault, located, other⟩ := locate_pathIn leads plain
    · refine ⟨directory, located, fun q directory => directory, ?_⟩
      intro q
      have gone : s.files.nodes.get? (place ++ [fileNameOf id]) = none := by
        rw [FileTree.remove, located] at missing
        rcases node : s.files.nodes.get? (place ++ [fileNameOf id]) with _ | _ | content
        · rfl
        · simp [contentAt, node, bind, Except.bind] at missing
        · simp [contentAt, node, bind, Except.bind, pure, Except.pure] at missing
      split_ifs with same
      · rw [same, gone]
        rfl
      · rfl
    · rw [FileTree.remove, located] at missing
      cases missing
      exact absurd rfl other
  · cases h

end

end Storage

end CrossRate
