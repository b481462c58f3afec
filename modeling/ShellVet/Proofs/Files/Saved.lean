import ShellVet.Files.Basic

/-!
# Files that were written

What is written at a path is read there, and folders stay folders: a file is only put where no
folder is, and names lead on through folders alone. So making the folders of a path again changes
nothing (`makeFolders_again`), and neither does writing the same bytes again (`write_again`). Making
folders changes no file (`sameFiles_of_makeFolders`). A name alone leads to the file of that name in
the working folder (`find_name`).
-/

namespace ShellVet.Files

variable {files made : Files} {place start stop : FilePath} {path : FilePath} {entry : FileEntry}

/-! ## Places -/

theorem at?_setAt_of_ne {other : FilePath} (different : other ≠ place) :
    (files.setAt place entry).at? other = files.at? other := by
  have filtered : ∀ entries : List (FilePath × FileEntry),
      (entries.filter (fun old => old.1 != place) ++ [(place, entry)]).lookup other =
        entries.lookup other := by
    intro entries
    induction entries with
    | nil =>
      simp [List.lookup_cons, beq_eq_false_iff_ne.mpr different]
    | cons old entries ih =>
      by_cases same : old.1 = place
      · have passed : (other == old.1) = false := by
          rw [same]
          exact beq_eq_false_iff_ne.mpr different
        have dropped : (old.1 != place) = false := by rw [same]; exact bne_self_eq_false place
        rw [List.filter_cons, dropped, List.lookup_cons, passed]
        exact ih
      · have kept : (old.1 != place) = true := bne_iff_ne.mpr same
        rw [List.filter_cons, if_pos kept, List.cons_append, List.lookup_cons, List.lookup_cons, ih]
  unfold at? setAt
  dsimp only
  rw [filtered]

theorem at?_setAt_self (named : place.names ≠ []) :
    (files.setAt place entry).at? place = some entry := by
  have last : ∀ entries : List (FilePath × FileEntry),
      (entries.filter (fun old => old.1 != place) ++ [(place, entry)]).lookup place =
        some entry := by
    intro entries
    induction entries with
    | nil => simp
    | cons old entries ih =>
      by_cases same : old.1 = place
      · simpa [same] using ih
      · have kept : (old.1 != place) = true := bne_iff_ne.mpr same
        have passed : (place == old.1) = false := beq_eq_false_iff_ne.mpr (Ne.symm same)
        rw [List.filter_cons, if_pos kept, List.cons_append, List.lookup_cons, passed]
        exact ih
  unfold at? setAt
  dsimp only
  rw [if_neg (by simpa using named), last]

/-- A place that is no folder has a name. -/
theorem names_ne_nil_of_not_folder (notFolder : files.at? place ≠ some .folder) :
    place.names ≠ [] := by
  intro unnamed
  apply notFolder
  unfold at?
  rw [unnamed]
  rfl

/-- Setting what is at a place a second time to the same changes nothing. -/
theorem setAt_again : (files.setAt place entry).setAt place entry = files.setAt place entry := by
  unfold setAt
  simp [List.filter_append, List.filter_filter]

/-! ## Ways -/

/-- Names lead on as before where something is put at a place that is no folder. -/
theorem walk_setAt (notFolder : files.at? place ≠ some .folder) {names : List String}
    (walked : files.walk start names = .ok stop) :
    (files.setAt place entry).walk start names = .ok stop := by
  induction names generalizing start with
  | nil => exact walked
  | cons name names ih =>
    unfold walk at walked ⊢
    split at walked
    · cases walked
    · cases walked
    · next folder =>
      have different : start ≠ place := by
        rintro rfl
        exact notFolder folder
      rw [at?_setAt_of_ne different, folder]
      dsimp only
      split at walked
      · next up =>
        rw [if_pos up]
        exact ih walked
      · next down =>
        rw [if_neg down]
        split at walked
        · cases walked
        · next short =>
          rw [if_neg short]
          exact ih walked

theorem place_setAt (notFolder : files.at? place ≠ some .folder)
    (found : files.place path = .ok stop) : (files.setAt place entry).place path = .ok stop := by
  unfold Files.place at found ⊢
  split at found
  · cases found
  · next short =>
    rw [if_neg short]
    split at found
    · cases found
    · next plain =>
      rw [if_neg plain]
      exact walk_setAt notFolder found

theorem find_eq_ok_iff {found : FileEntry} :
    files.find path = .ok found ↔
      ∃ place, files.place path = .ok place ∧ files.at? place = some found := by
  unfold find
  cases files.place path with
  | error error => simp [bind, Except.bind]
  | ok place =>
    have only : (∃ other, (.ok place : Except FileError FilePath) = .ok other ∧
        files.at? other = some found) ↔ files.at? place = some found := by
      constructor
      · rintro ⟨_, ⟨⟩, there⟩
        exact there
      · exact fun there => ⟨place, rfl, there⟩
    rw [only]
    dsimp only [bind, Except.bind]
    cases files.at? place with
    | none => simp [throw, throwThe, MonadExceptOf.throw]
    | some entry => simp [pure, Except.pure]

theorem has_of_find (found : files.find path = .ok entry) : files.has path = true := by
  simp [has, found, Except.toOption]

theorem read_of_find {bytes : List UInt8} (found : files.find path = .ok (.file bytes)) :
    files.read path = .ok bytes := by
  rw [read, found]
  rfl

theorem hasFolder_iff : files.hasFolder path = true ↔ files.find path = .ok .folder := by
  unfold hasFolder
  cases files.find path with
  | error error => simp [Except.toOption]
  | ok entry => simp [Except.toOption]

/-- Folders stay folders where something is put at a place that is no folder. -/
theorem hasFolder_setAt (notFolder : files.at? place ≠ some .folder)
    (folder : files.hasFolder path = true) : (files.setAt place entry).hasFolder path = true := by
  rw [hasFolder_iff, find_eq_ok_iff] at folder ⊢
  obtain ⟨there, found, folder⟩ := folder
  have different : there ≠ place := by
    rintro rfl
    exact notFolder folder
  exact ⟨there, place_setAt notFolder found, by rwa [at?_setAt_of_ne different]⟩

/-! ## Folders -/

/-- Making a folder puts a folder where nothing was. -/
theorem makeFolder_eq_ok (done : files.makeFolder path = .ok made) :
    ∃ place, files.place path = .ok place ∧ files.at? place = none ∧
      made = files.setAt place .folder := by
  unfold makeFolder at done
  cases found : files.place path with
  | error error =>
    rw [found] at done
    cases done
  | ok place =>
    rw [found] at done
    dsimp only [bind, Except.bind] at done
    split at done
    · cases done
    · next absent _ =>
      cases done
      exact ⟨place, rfl, absent, rfl⟩
    · cases done
    · cases done

theorem hasFolder_of_makeFolder (done : files.makeFolder path = .ok made) :
    made.hasFolder path = true ∧
      ∀ other, files.hasFolder other = true → made.hasFolder other = true := by
  obtain ⟨place, found, absent, rfl⟩ := makeFolder_eq_ok done
  have notFolder : files.at? place ≠ some .folder := by
    rw [absent]
    nofun
  refine ⟨?_, fun other folder => hasFolder_setAt notFolder folder⟩
  rw [hasFolder_iff, find_eq_ok_iff]
  exact ⟨place, place_setAt notFolder found,
    at?_setAt_self (names_ne_nil_of_not_folder notFolder)⟩

/-- Each path along the names below a path leads to a folder. -/
def HasFoldersAlong (files : Files) : FilePath → List String → Prop
  | _, [] => True
  | path, name :: rest =>
    files.hasFolder (path.child name) = true ∧ files.HasFoldersAlong (path.child name) rest

theorem makeFoldersAlong_of_hasFoldersAlong {names : List String}
    (folders : files.HasFoldersAlong path names) :
    files.makeFoldersAlong path names = .ok files := by
  induction names generalizing path with
  | nil => rfl
  | cons name names ih =>
    unfold makeFoldersAlong
    rw [if_pos folders.1]
    exact ih folders.2

theorem HasFoldersAlong.imp {names : List String}
    (stay : ∀ other, files.hasFolder other = true → made.hasFolder other = true)
    (folders : files.HasFoldersAlong path names) : made.HasFoldersAlong path names := by
  induction names generalizing path with
  | nil => trivial
  | cons name names ih => exact ⟨stay _ folders.1, ih folders.2⟩

/-- Where folders were made along names, each of these names leads to a folder. -/
theorem hasFoldersAlong_of_makeFoldersAlong {names : List String}
    (done : files.makeFoldersAlong path names = .ok made) :
    made.HasFoldersAlong path names ∧
      ∀ other, files.hasFolder other = true → made.hasFolder other = true := by
  induction names generalizing files path with
  | nil =>
    cases done
    exact ⟨trivial, fun _ folder => folder⟩
  | cons name names ih =>
    unfold makeFoldersAlong at done
    dsimp only at done
    split at done
    · next folder =>
      obtain ⟨along, stay⟩ := ih done
      exact ⟨⟨stay _ folder, along⟩, stay⟩
    · split at done
      · next new =>
        obtain ⟨here, kept⟩ := hasFolder_of_makeFolder new
        obtain ⟨along, stay⟩ := ih done
        exact ⟨⟨stay _ here, along⟩, fun other folder => stay other (kept other folder)⟩
      · cases done

/-- At every place is the same file, or none. -/
def SameFiles (files others : Files) : Prop :=
  ∀ place bytes, others.at? place = some (.file bytes) ↔ files.at? place = some (.file bytes)

theorem SameFiles.refl (files : Files) : files.SameFiles files := fun _ _ => Iff.rfl

theorem SameFiles.trans {between : Files} (first : files.SameFiles between)
    (second : between.SameFiles made) : files.SameFiles made :=
  fun place bytes => (second place bytes).trans (first place bytes)

theorem sameFiles_of_makeFolder (done : files.makeFolder path = .ok made) :
    files.SameFiles made := by
  obtain ⟨place, -, absent, rfl⟩ := makeFolder_eq_ok done
  intro other bytes
  by_cases same : other = place
  · rw [same, absent]
    by_cases named : place.names = []
    · rw [at?, named] at absent
      cases absent
    · rw [at?_setAt_self named]
      exact ⟨nofun, nofun⟩
  · rw [at?_setAt_of_ne same]

theorem sameFiles_of_makeFoldersAlong {names : List String}
    (done : files.makeFoldersAlong path names = .ok made) : files.SameFiles made := by
  induction names generalizing files path with
  | nil =>
    cases done
    exact .refl _
  | cons name names ih =>
    unfold makeFoldersAlong at done
    dsimp only at done
    split at done
    · exact ih done
    · split at done
      · next new => exact (sameFiles_of_makeFolder new).trans (ih done)
      · cases done

/-- Making folders changes no file. -/
theorem sameFiles_of_makeFolders (done : files.makeFolders path = .ok made) :
    files.SameFiles made :=
  sameFiles_of_makeFoldersAlong done

/-! ## Writing -/

/-- Writing puts a file where no folder is. -/
theorem write_eq_ok {bytes : List UInt8} (done : files.write path bytes = .ok made) :
    ∃ place, files.place path = .ok place ∧ files.at? place ≠ some .folder ∧
      files.at? place.parent = some .folder ∧ made = files.setAt place (.file bytes) := by
  unfold write at done
  cases found : files.place path with
  | error error =>
    rw [found] at done
    cases done
  | ok place =>
    rw [found] at done
    dsimp only [bind, Except.bind] at done
    split at done
    · cases done
    · next folder notFolder =>
      cases done
      exact ⟨place, rfl, notFolder, folder, rfl⟩
    · cases done
    · cases done

/-- What was written is read. -/
theorem read_of_write {bytes : List UInt8} (done : files.write path bytes = .ok made) :
    made.find path = .ok (.file bytes) := by
  obtain ⟨place, found, notFolder, -, rfl⟩ := write_eq_ok done
  exact find_eq_ok_iff.mpr ⟨place, place_setAt notFolder found,
    at?_setAt_self (names_ne_nil_of_not_folder notFolder)⟩

/-- Writing the same again changes nothing. -/
theorem write_again {bytes : List UInt8} (done : files.write path bytes = .ok made) :
    made.write path bytes = .ok made := by
  obtain ⟨place, found, notFolder, above, rfl⟩ := write_eq_ok done
  have different : place.parent ≠ place := by
    intro same
    rw [same] at above
    exact notFolder above
  have again : (files.setAt place (.file bytes)).write path bytes =
      .ok ((files.setAt place (.file bytes)).setAt place (.file bytes)) := by
    unfold write
    rw [place_setAt notFolder found]
    dsimp only [bind, Except.bind]
    rw [at?_setAt_self (names_ne_nil_of_not_folder notFolder), at?_setAt_of_ne different, above]
    rfl
  rw [again, setAt_again]

/-- After folders were made and a file was written, making the folders again changes nothing. -/
theorem makeFolders_again {folder : FilePath} {between : Files} {bytes : List UInt8}
    (folders : files.makeFolders folder = .ok between)
    (written : between.write path bytes = .ok made) : made.makeFolders folder = .ok made := by
  obtain ⟨along, -⟩ := hasFoldersAlong_of_makeFoldersAlong folders
  obtain ⟨place, -, notFolder, -, rfl⟩ := write_eq_ok written
  exact makeFoldersAlong_of_hasFoldersAlong
    (along.imp fun other folder => hasFolder_setAt notFolder folder)

/-! ## The working folder -/

/-- The text can be the name of a file in the working folder. -/
def IsName (name : String) : Prop :=
  name.utf8ByteSize ≤ longestName ∧ name ∉ ["", ".", ".."] ∧ '/' ∉ name.toList ∧
    '\x00' ∉ name.toList

instance {name : String} : Decidable (IsName name) :=
  inferInstanceAs (Decidable (_ ∧ _ ∧ _ ∧ _))

section

variable {name : String} (named : IsName name)
include named

/-- The name alone is a path to the file. -/
theorem ofString_name : FilePath.ofString name = ⟨false, [name]⟩ := by
  obtain ⟨-, other, unbroken, -⟩ := named
  have rooted : name.startsWith "/" = false := by
    rw [← Bool.not_eq_true, String.startsWith_string_iff]
    exact fun leads => unbroken (leads.subset (by decide))
  have kept : (!name.isEmpty && name != ".") = true := by
    simp_all
  rw [FilePath.ofString, rooted, List.splitOn_eq_singleton unbroken, List.map_singleton,
    String.ofList_toList, List.filter_cons, if_pos kept, List.filter_nil]

theorem place_name (files : Files) : files.place ⟨false, [name]⟩ = .ok ⟨false, [name]⟩ := by
  obtain ⟨short, other, -, whole⟩ := named
  have written : FilePath.toString ⟨false, [name]⟩ = name := by
    simp_all [FilePath.toString]
  have ends : ¬name.contains '\x00' = true := by
    rwa [String.contains_char_eq, decide_eq_true_iff]
  have down : ¬(name == "..") = true := by
    simp_all
  unfold Files.place
  rw [written, if_neg (by unfold longestName longestPath at *; omega), if_neg ends]
  dsimp only
  unfold walk
  dsimp only [at?, List.isEmpty_nil]
  rw [if_pos rfl]
  dsimp only
  rw [if_neg down, if_neg (Nat.not_lt.mpr short)]
  rfl

theorem find_name (files : Files) :
    files.find ⟨false, [name]⟩ = (files.at? ⟨false, [name]⟩).elim (.error .missing) .ok := by
  unfold find
  rw [place_name named]
  dsimp only [bind, Except.bind]
  cases files.at? ⟨false, [name]⟩ <;> rfl

theorem find_empty : find {} ⟨false, [name]⟩ = .error .missing :=
  find_name named {}

theorem find_only (bytes : List UInt8) :
    find ⟨[(⟨false, [name]⟩, .file bytes)]⟩ ⟨false, [name]⟩ = .ok (.file bytes) := by
  simp [find_name named, at?]

/-- The first file is written. -/
theorem write_empty (bytes : List UInt8) :
    write {} ⟨false, [name]⟩ bytes = .ok ⟨[(⟨false, [name]⟩, .file bytes)]⟩ := by
  unfold write
  rw [place_name named]
  rfl

/-- The only file is replaced. -/
theorem write_only (old bytes : List UInt8) :
    write ⟨[(⟨false, [name]⟩, .file old)]⟩ ⟨false, [name]⟩ bytes =
      .ok ⟨[(⟨false, [name]⟩, .file bytes)]⟩ := by
  unfold write
  rw [place_name named]
  simp [at?, setAt, bind, Except.bind, pure, Except.pure, FilePath.parent]

end

end ShellVet.Files
