import CrossRate.Loading.Storage
import CrossRate.Proofs.Rate.Quote

/-!
# What a store holds

A payload that was written is held (`Storage.held?_write`). In memory that is a look-up. In a
directory the payload goes through a draft, and what makes it arrive is that neither to write a
file nor to rename one takes a directory away, so that the paths lead where they led before.
-/

namespace CrossRate

namespace FileTree

variable {t t' t'' : FileTree} {path target : String} {content : Bytes}

/-- What is a directory in a tree is one in another. -/
def KeepsDirectories (t t' : FileTree) : Prop :=
  ∀ place, t.nodes.get? place = some .directory → t'.nodes.get? place = some .directory

theorem KeepsDirectories.trans (h : t.KeepsDirectories t') (h' : t'.KeepsDirectories t'') :
  t.KeepsDirectories t''
  := fun place directory => h' place (h place directory)

/-- Names lead where they led before. -/
theorem KeepsDirectories.walk (h : t.KeepsDirectories t') {place found : FilePlace}
    {names : List String} (led : t.walk place names = .ok found) :
  t'.walk place names = .ok found
  := by
  induction names generalizing place with
  | nil => apply led
  | cons name rest ih =>
    rw [FileTree.walk] at led ⊢
    cases node : t.nodes.get? place with
    | none => simp [node] at led
    | some node' =>
      cases node' with
      | file content => simp [node] at led
      | directory =>
        rw [node] at led
        rw [h place node]
        dsimp only at led ⊢
        repeat' split at led
        all_goals simp_all

theorem KeepsDirectories.locate (h : t.KeepsDirectories t') {found : FilePlace}
    (led : t.locate path = .ok found) :
  t'.locate path = .ok found
  := by
  rw [FileTree.locate] at led ⊢
  split at led
  · simp at led
  · split at led
    · simp at led
    · rename_i nonempty
      rw [if_neg nonempty]
      apply h.walk led

/-- To put a file at a place takes no directory away. -/
theorem keepsDirectories_putAt {place : FilePlace} (put : t.putAt place content = .ok t') :
  t.KeepsDirectories t' ∧ t'.contentAt place = .ok content
  := by
  rw [putAt] at put
  split at put
  · simp at put
  · rename_i file
    obtain rfl := Except.ok.inj put
    constructor
    · intro place' directory
      have : place' ≠ place := by
        rintro rfl
        apply file directory
      rw [OrderedMap.get?_insert, if_neg this, directory]
    · rw [contentAt, OrderedMap.get?_insert, if_pos rfl]

/-- To drop a file takes no directory away. -/
theorem keepsDirectories_erase {place : FilePlace} (held : t.contentAt place = .ok content) :
  t.KeepsDirectories ⟨t.nodes.erase place⟩
  := by
  intro place' directory
  have : place' ≠ place := by
    rintro rfl
    simp [contentAt, directory] at held
  rw [OrderedMap.get?_erase, if_neg this, directory]

/-- A file that was written is read as it was written. -/
theorem read_write (written : t.write path content = .ok t') :
  t'.read path = .ok content
  := by
  obtain ⟨place, located, put⟩ := bind_eq_ok_iff.1 written
  obtain ⟨keeps, held⟩ := keepsDirectories_putAt put
  rw [read, keeps.locate located]
  apply held

/-- A file that was renamed is read as before. -/
theorem read_rename (renamed : t.rename path target = .ok t') (held : t.read path = .ok content) :
  t'.read target = .ok content
  := by
  obtain ⟨place, located, renamed⟩ := bind_eq_ok_iff.1 renamed
  obtain ⟨content', held', renamed⟩ := bind_eq_ok_iff.1 renamed
  obtain ⟨place', located', put⟩ := bind_eq_ok_iff.1 renamed
  obtain ⟨keeps, arrived⟩ := keepsDirectories_putAt put
  rw [read, located] at held
  obtain rfl : content' = content := by
    rw [← Except.ok.injEq, ← held']
    apply held
  rw [read, ((keepsDirectories_erase held').trans keeps).locate located']
  apply arrived

end FileTree

namespace Storage

/-- What a store holds of a resource, whether or not it can be read just now. -/
def held? (s : Storage) (id : String) : Option Bytes :=
  match s.place with
  | .memory .. => s.kept.get? id
  | .directory path => (s.files.read (pathIn path (fileNameOf id))).toOption

/-- A store that could keep a payload holds it. -/
theorem held?_keeping {s : Storage} {id : String} {payload : Bytes}
    (written : (s.write id payload).1 = .ok ()) :
  (s.keeping id payload).held? id = some payload
  := by
  rw [keeping]
  rw [write] at written ⊢
  cases place : s.place with
  | memory readable writable =>
    rw [place] at written
    dsimp only at written ⊢
    split at written
    · rename_i can
      rw [if_pos can]
      simp [held?]
    · simp at written
  | directory path =>
    rw [place] at written
    dsimp only at written ⊢
    split at written
    · simp at written
    · rename_i prepared draft
      split at written
      · simp at written
      · rename_i files renamed
        simp only [held?]
        rw [FileTree.read_rename renamed (FileTree.read_write draft)]
        rfl

end Storage

end CrossRate
