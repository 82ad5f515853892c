import IngestViewer.Proofs.StoreSteps

namespace IngestViewer.FileStore

variable {s : FileStore} {d : Disk} {key name : String}

/-- The folder of a store is there and takes the files of a key. -/
structure IsWritable (s : FileStore) (d : Disk) (key : String) : Prop where
  isTree : d.IsTree
  hasFolder : s.HasFolder d
  usable : (s.route s.root).isUsable = true
  room : s.root.utf8ByteSize + 1 + (temporaryName key).utf8ByteSize ≤ Route.sizeLimit
  short : (temporaryName key).utf8ByteSize ≤ Disk.nameLimit
  free : d.isFolder (s.place ++ [fileName key]) = false
  freeTemporary : d.isFolder (s.place ++ [temporaryName key]) = false

theorem fileName_le_temporaryName (key : String) :
    (fileName key).utf8ByteSize ≤ (temporaryName key).utf8ByteSize := by
  have ending : ".json".utf8ByteSize ≤ ".json.tmp".utf8ByteSize := by decide
  rw [fileName, temporaryName, String.utf8ByteSize_append, String.utf8ByteSize_append]
  omega

namespace IsWritable

theorem short_fileName (h : s.IsWritable d key) : (fileName key).utf8ByteSize ≤ Disk.nameLimit :=
  Nat.le_trans (fileName_le_temporaryName key) h.short

theorem usable_temporaryPath (h : s.IsWritable d key) (valid : isKey key = true) :
    (s.route (s.temporaryPath key)).isUsable = true :=
  isUsable_of_room valid (by decide) (by decide) h.usable h.room

theorem usable_filePath (h : s.IsWritable d key) (valid : isKey key = true) :
    (s.route (s.filePath key)).isUsable = true := by
  refine isUsable_of_room valid (by decide) (by decide) h.usable ?_
  exact Nat.le_trans (Nat.add_le_add_left (fileName_le_temporaryName key) _) h.room

theorem of_isFolder {d' : Disk} (h : s.IsWritable d key) (isTree : d'.IsTree)
    (same : ∀ path, d'.isFolder path = d.isFolder path) : s.IsWritable d' key where
  isTree := isTree
  hasFolder := h.hasFolder.of_isFolder fun path isFolder => (same path).trans isFolder
  usable := h.usable
  room := h.room
  short := h.short
  free := (same _).trans h.free
  freeTemporary := (same _).trans h.freeTemporary

end IsWritable

/-- Where the folder is there, making it and those on the way changes nothing. -/
theorem makeFolders_of_hasFolder (here : s.HasFolder d) (usable : (s.route s.root).isUsable = true) :
    d.makeFolders (s.route s.root) = (true, d) := by
  have each : ∀ ways : List (List String),
      (∀ names ∈ ways, ∃ rest, (s.route s.root).names = names ++ rest) →
      d.makeEach (s.route s.root).start ways = (true, d) := by
    intro ways onWay
    induction ways with
    | nil => rfl
    | cons names ways ih =>
      obtain ⟨rest, split⟩ := onWay names (by simp)
      have reached := here.reached
      rw [split] at reached
      obtain ⟨place, walked, isFolder⟩ := Disk.isFolder_of_walk_append reached here.isFolder
      have made : d.makeFolder (s.route s.root).start names = some d := by
        simp [Disk.makeFolder, walked, isFolder]
      rw [Disk.makeEach, made]
      exact ih fun names h => onWay names (by simp [h])
  rw [Disk.makeFolders, if_pos usable]
  exact each _ fun names h => onWay_of_mem_wayNames h

theorem fileSite?_of_hasFolder (here : s.HasFolder d) (isName : IsName name)
    (usable : (s.route (PathText.join s.root name)).isUsable = true)
    (short : name.utf8ByteSize ≤ Disk.nameLimit) (free : d.isFolder (s.place ++ [name]) = false) :
    d.fileSite? (s.route (PathText.join s.root name)) = some (s.place ++ [name]) := by
  have names : (s.route (PathText.join s.root name)).names = (s.route s.root).names ++ [name] :=
    Route.names_join isName s.root s.workingDirectory
  have start : (s.route (PathText.join s.root name)).start = (s.route s.root).start :=
    Route.start_join isName s.root s.workingDirectory
  have file : (s.route (PathText.join s.root name)).asksFolder = false :=
    Route.asksFolder_join isName s.root s.workingDirectory
  have namable : Disk.isNamable name = true :=
    Disk.isNamable_iff.mpr ⟨isName.ahead.1, isName.ahead.2, short⟩
  have site : d.site? (s.route (PathText.join s.root name)).start
      (s.route (PathText.join s.root name)).names = some (s.place ++ [name]) := by
    rw [names, start]
    exact Disk.site?_eq_some.mpr ⟨_, name, s.place, rfl, here.reached, here.isFolder, namable, rfl⟩
  simp [Disk.fileSite?, usable, file, site, free]

theorem write_of_isWritable (h : s.IsWritable d key) (valid : isKey key = true)
    (bytes : List UInt8) :
    ∃ d', d.write (s.route (s.temporaryPath key)) bytes = some d' ∧ s.IsWritable d' key ∧
      d'.node? (s.place ++ [temporaryName key]) = some (.file bytes) := by
  have site := fileSite?_of_hasFolder h.hasFolder (isName_temporaryName valid)
    (h.usable_temporaryPath valid) h.short h.freeTemporary
  have wrote : d.write (s.route (s.temporaryPath key)) bytes =
      some (d.set (s.place ++ [temporaryName key]) (.file bytes)) :=
    Option.map_eq_some_iff.mpr ⟨_, site, rfl⟩
  obtain ⟨unnoticed, there⟩ := unnoticed_of_write h.isTree valid wrote
  exact ⟨_, wrote, h.of_isFolder unnoticed.isTree (Disk.isFolder_set_file h.freeTemporary bytes),
    there⟩

theorem rename_of_isWritable (h : s.IsWritable d key) (valid : isKey key = true)
    {bytes : List UInt8} (there : d.node? (s.place ++ [temporaryName key]) = some (.file bytes)) :
    ∃ d', d.rename (s.route (s.temporaryPath key)) (s.route (s.filePath key)) = some d' ∧
      ∀ path, d'.isFolder path = d.isFolder path := by
  have source := lookup_of_node h.hasFolder (isName_temporaryName valid)
    (h.usable_temporaryPath valid) h.short there
  have target := fileSite?_of_hasFolder h.hasFolder (isName_fileName valid)
    (h.usable_filePath valid) h.short_fileName h.free
  have gone := Disk.isFolder_erase_file h.freeTemporary
  have same := Disk.isFolder_set_file ((gone _).trans h.free) bytes
  exact ⟨_, Disk.rename_eq_some.mpr ⟨_, _, bytes, source, target, there, rfl⟩,
    fun path => (same path).trans (gone path)⟩

/-- In a folder that takes its files the text of a key is set, and can be set again. -/
theorem set_of_isWritable (h : s.IsWritable d key) (valid : isKey key = true) (value : String) :
    ∃ d', s.set d key value = (.ok (), d') ∧ s.IsWritable d' key ∧
      s.get d' key = .ok (some value) := by
  have started := makeFolders_of_hasFolder h.hasFolder h.usable
  obtain ⟨d₁, wrote, h₁, there⟩ := write_of_isWritable h valid (Utf8.bytes value)
  obtain ⟨d₂, moved, same⟩ := rename_of_isWritable h₁ valid there
  have ran : run (fun _ => none) d (s.setSteps key value) = (.ok (), d₂) := by
    simp only [setSteps, run, started, Disk.attempt, Disk.step, wrote, moved, Disk.ofChange]
  have sets := sets_of_run (s := s) h.isTree valid (fun _ => none) value
  rw [ran] at sets
  exact ⟨d₂, by rw [set, setAmid, if_pos valid, ran], h₁.of_isFolder sets.isTree same, sets.own.2⟩

end IngestViewer.FileStore
