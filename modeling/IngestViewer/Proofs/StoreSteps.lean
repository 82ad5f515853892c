import IngestViewer.Proofs.StorePaths
import IngestViewer.Proofs.Utf8RoundTrip

namespace IngestViewer.FileStore

variable {s : FileStore} {d d' d'' : Disk} {key name : String}

/-- The folder that a store keeps its files in is there. -/
structure HasFolder (s : FileStore) (d : Disk) : Prop where
  reached : d.walk (s.route s.root).start (s.route s.root).names = .ok s.place
  isFolder : d.isFolder s.place = true

theorem hasFolder_of_walk {folder : DiskPath}
    (reached : d.walk (s.route s.root).start (s.route s.root).names = .ok folder)
    (isFolder : d.isFolder folder = true) : s.HasFolder d := by
  have same : folder = s.place := Disk.eq_follow_of_walk reached
  subst same
  exact ⟨reached, isFolder⟩

theorem HasFolder.of_isFolder (kept : ∀ path, d.isFolder path = true → d'.isFolder path = true)
    (h : s.HasFolder d) : s.HasFolder d' :=
  ⟨Disk.walk_of_isFolder kept h.reached h.isFolder, kept _ h.isFolder⟩

/-- The way to a key's file, and its text, are as they were, as far as the way was open. -/
def Keeps (s : FileStore) (d d' : Disk) (key : String) : Prop :=
  d.IsOpen (s.route (s.filePath key)) →
    d'.IsOpen (s.route (s.filePath key)) ∧ s.get d' key = s.get d key

theorem Keeps.trans (first : s.Keeps d d' key) (second : s.Keeps d' d'' key) : s.Keeps d d'' key := by
  intro isOpen
  obtain ⟨isOpen, same⟩ := first isOpen
  obtain ⟨isOpen, again⟩ := second isOpen
  exact ⟨isOpen, again.trans same⟩

theorem get_congr (same : d'.read (s.route (s.filePath key)) = d.read (s.route (s.filePath key))) :
    s.get d' key = s.get d key := by
  simp only [get, Disk.readText, same]

theorem names_filePath (valid : isKey key = true) :
    (s.route (s.filePath key)).names = (s.route s.root).names ++ [fileName key] :=
  Route.names_join (isName_fileName valid) s.root s.workingDirectory

theorem start_filePath (valid : isKey key = true) :
    (s.route (s.filePath key)).start = (s.route s.root).start :=
  Route.start_join (isName_fileName valid) s.root s.workingDirectory

/-- Where the folder is there, nothing but a file can be missing, so every key's way is open. -/
theorem isOpen_of_hasFolder (h : s.HasFolder d) (valid : isKey key = true) :
    d.IsOpen (s.route (s.filePath key)) := by
  intro reached left split missing
  rw [start_filePath valid] at missing
  rw [names_filePath valid] at split
  rcases List.append_eq_append_iff.mp split with ⟨between, rfl, last⟩ | ⟨between, before, -⟩
  · cases between with
    | nil =>
      rw [List.append_nil, h.reached] at missing
      cases missing
    | cons n between =>
      have none : left = [] := by
        have parts := (List.cons.inj last).2.symm
        exact (List.append_eq_nil_iff.mp parts).2
      rw [none]
      rintro n ⟨⟩
  · have there := h.reached
    rw [before, Disk.walk_append_of_error missing] at there
    cases there

theorem lookup_of_hasFolder (h : s.HasFolder d) (isName : IsName name)
    (usable : (s.route (PathText.join s.root name)).isUsable = true) :
    d.lookup (s.route (PathText.join s.root name)) = d.advance s.place name := by
  rw [lookup_file isName usable, Disk.walk_append_of_ok h.reached, Disk.walk_cons]
  cases d.advance s.place name <;> rfl

theorem read_congr_of_hasFolder (h : s.HasFolder d) (h' : s.HasFolder d') (isName : IsName name)
    (same : d'.node? (s.place ++ [name]) = d.node? (s.place ++ [name])) :
    d'.read (s.route (PathText.join s.root name)) = d.read (s.route (PathText.join s.root name)) := by
  by_cases usable : (s.route (PathText.join s.root name)).isUsable = true
  · have ahead := Route.follow_of_isName isName s.place
    refine Disk.read_congr ?_ fun place found => ?_
    · rw [lookup_of_hasFolder h isName usable, lookup_of_hasFolder h' isName usable]
      simp only [Disk.advance, h.isFolder, h'.isFolder, ahead, same]
    · rw [lookup_of_hasFolder h isName usable] at found
      obtain ⟨-, -, rfl, -⟩ := Disk.advance_eq_ok.mp found
      rw [ahead, same]
  · simp [Disk.read, Disk.lookup, usable]

theorem keeps_of_hasFolder (h : s.HasFolder d) (h' : s.HasFolder d') (valid : isKey key = true)
    (same : d'.node? (s.place ++ [fileName key]) = d.node? (s.place ++ [fileName key])) :
    s.Keeps d d' key := fun _ =>
  ⟨isOpen_of_hasFolder h' valid,
    get_congr (read_congr_of_hasFolder h h' (isName_fileName valid) same)⟩

/-- Nothing but the files of keys is changed, and nothing is new but folders on the way. -/
def StaysWithin (s : FileStore) (d d' : Disk) : Prop :=
  ∀ path, d'.node? path ≠ d.node? path →
    (∃ key, isKey key = true ∧
      (path = s.place ++ [fileName key] ∨ path = s.place ++ [temporaryName key])) ∨
    (path ∈ (s.route s.root).places ∧ d.node? path = none ∧ d'.node? path = some .folder)

theorem StaysWithin.refl (s : FileStore) (d : Disk) : s.StaysWithin d d :=
  fun _ changed => absurd rfl changed

theorem StaysWithin.trans (first : s.StaysWithin d d') (second : s.StaysWithin d' d'') :
    s.StaysWithin d d'' := by
  intro path changed
  by_cases early : d'.node? path = d.node? path
  · have late : d''.node? path ≠ d'.node? path := by rwa [early]
    rw [← early]
    exact second path late
  · rcases first path early with inside | ⟨onWay, free, made⟩
    · exact .inl inside
    · by_cases late : d''.node? path = d'.node? path
      · exact .inr ⟨onWay, free, late.trans made⟩
      · rcases second path late with inside | ⟨-, absent, -⟩
        · exact .inl inside
        · rw [made] at absent
          cases absent

/-- A change that no key notices. -/
structure Unnoticed (s : FileStore) (d d' : Disk) : Prop where
  isTree : d'.IsTree
  keeps : ∀ key, isKey key = true → s.Keeps d d' key
  within : s.StaysWithin d d'

theorem Unnoticed.refl (s : FileStore) (tree : d.IsTree) : s.Unnoticed d d :=
  ⟨tree, fun _ _ isOpen => ⟨isOpen, rfl⟩, .refl s d⟩

theorem Unnoticed.trans (first : s.Unnoticed d d') (second : s.Unnoticed d' d'') :
    s.Unnoticed d d'' :=
  ⟨second.isTree, fun key valid => (first.keeps key valid).trans (second.keeps key valid),
    first.within.trans second.within⟩

theorem mem_places {way rest : List String} {r : Route} (names : r.names = way ++ rest) :
    way.foldl Route.follow r.start ∈ r.places := by
  refine List.mem_map.mpr ⟨way.length, List.mem_range.mpr ?_, ?_⟩
  · rw [names, List.length_append]
    omega
  · rw [names, List.take_left']
    rfl

/-- A folder on the way to the store's own is noticed by no key: what was missing is missing still. -/
theorem unnoticed_of_makeFolder (tree : d.IsTree) {names rest : List String}
    (onWay : (s.route s.root).names = names ++ rest)
    (made : d.makeFolder (s.route s.root).start names = some d') : s.Unnoticed d d' := by
  rcases Disk.makeFolder_cases made with rfl | ⟨way, name, folder, rfl, above, absent, namable, rfl⟩
  · exact .refl s tree
  have free := Disk.node?_of_advance_missing absent namable
  refine ⟨Disk.isTree_set_folder tree (Disk.advance_eq_missing.mp absent).1, ?_, ?_⟩
  · intro key valid isOpen
    have names : (s.route (s.filePath key)).names = way ++ [name] ++ (rest ++ [fileName key]) := by
      rw [names_filePath valid, onWay, List.append_assoc]
    have stuck : d.walk (s.route s.root).start (way ++ [name]) = .error .missing := by
      rw [Disk.walk_append_of_ok above, Disk.walk_cons, absent]
    have start := start_filePath (s := s) valid
    rw [← start] at above stuck
    refine ⟨Disk.isOpen_set_folder isOpen above absent namable names, get_congr ?_⟩
    by_cases usable : (s.route (s.filePath key)).isUsable = true
    · -- the way ended at the folder's name, and now ends at the next one
      have plain := isOpen _ _ names stuck
      have onward : ∃ n ∈ rest ++ [fileName key], n ≠ "." :=
        ⟨fileName key, by simp, (isName_fileName valid).ahead.1⟩
      have before := Disk.walk_append_of_error stuck (rest ++ [fileName key])
      have after := Disk.walk_past_new_folder tree above absent namable plain onward
      rw [← names] at before after
      have file : (s.route (s.filePath key)).asksFolder = false :=
        Route.asksFolder_join (isName_fileName valid) s.root s.workingDirectory
      have named : (s.route (s.filePath key)).names ≠ [] := by simp [names]
      simp only [Disk.read, Disk.lookup_of_names usable file named, before, after]
    · simp [Disk.read, Disk.lookup, usable]
  · intro path changed
    have here := Disk.eq_of_changed_set changed
    subst here
    refine .inr ⟨?_, free, Disk.node?_set_self (by simp) _⟩
    have reached := Disk.eq_follow_of_walk (Disk.walk_to_new_folder above absent namable)
    rw [reached]
    exact mem_places onWay

theorem unnoticed_of_makeEach (tree : d.IsTree) {ways : List (List String)}
    (onWay : ∀ names ∈ ways, ∃ rest, (s.route s.root).names = names ++ rest) :
    s.Unnoticed d (d.makeEach (s.route s.root).start ways).2 := by
  induction ways generalizing d with
  | nil => exact .refl s tree
  | cons names ways ih =>
    obtain ⟨rest, first⟩ := onWay names (by simp)
    unfold Disk.makeEach
    cases made : d.makeFolder (s.route s.root).start names with
    | none => exact .refl s tree
    | some d' =>
      have one := unnoticed_of_makeFolder tree first made
      exact one.trans (ih one.isTree fun names h => onWay names (by simp [h]))

theorem onWay_of_mem_wayNames {names way : List String} (h : way ∈ Disk.wayNames names) :
    ∃ rest, names = way ++ rest := by
  rcases List.mem_append.mp h with h | h
  · obtain ⟨n, -, rfl⟩ := List.mem_map.mp h
    have above : (names.reverse.dropWhile (· == ".")).reverse.dropLast <+: names := by
      refine (List.dropLast_prefix _).trans ?_
      rw [← List.reverse_suffix, List.reverse_reverse]
      exact List.dropWhile_suffix _
    obtain ⟨rest, whole⟩ := (List.take_prefix _ _).trans above
    exact ⟨rest, whole.symm⟩
  · rw [List.mem_singleton.mp h]
    exact ⟨[], (List.append_nil names).symm⟩

theorem unnoticed_of_makeFolders (tree : d.IsTree) :
    s.Unnoticed d (d.makeFolders (s.route s.root)).2 := by
  unfold Disk.makeFolders
  split
  · exact unnoticed_of_makeEach tree fun names h => onWay_of_mem_wayNames h
  · exact .refl s tree

theorem hasFolder_of_fileSite? (isName : IsName name) {path : DiskPath}
    (h : d.fileSite? (s.route (PathText.join s.root name)) = some path) :
    s.HasFolder d ∧ (s.route (PathText.join s.root name)).isUsable = true ∧
      name.utf8ByteSize ≤ Disk.nameLimit ∧ d.isFolder path = false ∧ path = s.place ++ [name] := by
  obtain ⟨usable, site, free⟩ := Disk.fileSite?_eq_some h
  obtain ⟨way, last, folder, names, reached, isFolder, namable, rfl⟩ := Disk.site?_eq_some.mp site
  rw [route, Route.names_join isName] at names
  obtain ⟨rfl, same⟩ := List.append_inj' names rfl
  obtain rfl : name = last := (List.cons.inj same).1
  rw [route, Route.start_join isName] at reached
  have there : s.HasFolder d := hasFolder_of_walk reached isFolder
  have folder : folder = s.place := Disk.eq_follow_of_walk reached
  subst folder
  exact ⟨there, usable, (Disk.isNamable_iff.mp namable).2.2, free, rfl⟩

theorem write_of_long (isName : IsName name) (long : Disk.nameLimit < name.utf8ByteSize)
    (bytes : List UInt8) : d.write (s.route (PathText.join s.root name)) bytes = none := by
  refine Option.map_eq_none_iff.mpr (Option.eq_none_iff_forall_ne_some.mpr fun path site => ?_)
  have short := (hasFolder_of_fileSite? isName site).2.2.1
  omega

/-- A file that is put into the store's folder changes no other file's text. -/
theorem unnoticed_of_write (tree : d.IsTree) (valid : isKey key = true) {bytes : List UInt8}
    (h : d.write (s.route (s.temporaryPath key)) bytes = some d') :
    s.Unnoticed d d' ∧ d'.node? (s.place ++ [temporaryName key]) = some (.file bytes) := by
  obtain ⟨path, site, rfl⟩ := Option.map_eq_some_iff.mp h
  obtain ⟨here, -, -, free, rfl⟩ := hasFolder_of_fileSite? (isName_temporaryName valid) site
  have same := Disk.isFolder_set_file free bytes
  have kept : ∀ path, d.isFolder path = true →
      (d.set (s.place ++ [temporaryName key]) (.file bytes)).isFolder path = true :=
    fun path isFolder => (same path).trans isFolder
  refine ⟨⟨Disk.isTree_set tree here.isFolder kept, ?_, ?_⟩, Disk.node?_set_self (by simp) _⟩
  · intro other valid
    refine keeps_of_hasFolder here (here.of_isFolder kept) valid (Disk.node?_set_other ?_ _)
    simp [fileName_ne_temporaryName]
  · intro path changed
    exact .inl ⟨key, valid, .inr (Disk.eq_of_changed_set changed)⟩

theorem lookup_of_node (here : s.HasFolder d) (isName : IsName name)
    (usable : (s.route (PathText.join s.root name)).isUsable = true)
    (short : name.utf8ByteSize ≤ Disk.nameLimit) {n : DiskNode}
    (there : d.node? (s.place ++ [name]) = some n) :
    d.lookup (s.route (PathText.join s.root name)) = .ok (s.place ++ [name]) := by
  refine (lookup_of_hasFolder here isName usable).trans (Disk.advance_eq_ok.mpr ?_)
  exact ⟨here.isFolder, short, (Route.follow_of_isName isName s.place).symm, by rw [there]; rfl⟩

theorem get_of_file (here : s.HasFolder d) (valid : isKey key = true)
    (usable : (s.route (s.filePath key)).isUsable = true)
    (short : (fileName key).utf8ByteSize ≤ Disk.nameLimit) {bytes : List UInt8}
    (there : d.node? (s.place ++ [fileName key]) = some (.file bytes)) :
    s.get d key =
      match Utf8.text? bytes with
      | some text => .ok (some text)
      | none => .error (.readFile (s.filePath key)) := by
  have reached : d.lookup (s.route (s.filePath key)) = .ok (s.place ++ [fileName key]) :=
    lookup_of_node here (isName_fileName valid) usable short there
  have read : d.read (s.route (s.filePath key)) = .content bytes := by
    simp only [Disk.read, reached, there]
  simp only [get, valid, if_true, Disk.readText, read]
  cases Utf8.text? bytes <;> rfl

theorem get_of_lookup_missing (valid : isKey key = true)
    (lost : d.lookup (s.route (s.filePath key)) = .error .missing) : s.get d key = .ok none := by
  simp [get, valid, Disk.readText, Disk.read, lost]

theorem get_of_absent (here : s.HasFolder d) (valid : isKey key = true)
    (usable : (s.route (s.filePath key)).isUsable = true)
    (short : (fileName key).utf8ByteSize ≤ Disk.nameLimit)
    (absent : d.node? (s.place ++ [fileName key]) = none) : s.get d key = .ok none := by
  have isName := isName_fileName valid
  refine get_of_lookup_missing valid ?_
  refine (lookup_of_hasFolder here isName usable).trans (Disk.advance_eq_missing.mpr ?_)
  exact ⟨here.isFolder, short, by rw [Route.follow_of_isName isName]; exact absent⟩

theorem get_of_missing (valid : isKey key = true)
    (usable : (s.route (s.filePath key)).isUsable = true)
    (missing : d.walk (s.route s.root).start (s.route s.root).names = .error .missing) :
    s.get d key = .ok none := by
  refine get_of_lookup_missing valid ?_
  exact (lookup_file (isName_fileName valid) usable d).trans (Disk.walk_append_of_error missing _)

/-- Once the folder is there, a key too long to name a file cannot be asked for. -/
theorem get_of_long (here : s.HasFolder d) (valid : isKey key = true)
    (long : Disk.nameLimit < (fileName key).utf8ByteSize) :
    s.get d key = .error (.readFile (s.filePath key)) := by
  have lost : d.lookup (s.route (s.filePath key)) = .error .blocked := by
    by_cases usable : (s.route (s.filePath key)).isUsable = true
    · refine (lookup_of_hasFolder here (isName_fileName valid) usable).trans ?_
      simp [Disk.advance, long]
    · simp [Disk.lookup, usable]
  simp [get, valid, Disk.readText, Disk.read, lost]

theorem unnoticed_of_attempt_makeFolders (tree : d.IsTree) {trouble : Option Mishap} {done : Bool}
    (h : d.attempt (.makeFolders (s.route s.root)) trouble = (done, d')) : s.Unnoticed d d' := by
  obtain rfl : (d.attempt (.makeFolders (s.route s.root)) trouble).2 = d' := congrArg Prod.snd h
  match trouble with
  | none => exact unnoticed_of_makeFolders tree
  | some .refused => exact .refl s tree
  | some (.brokenOff _) => exact .refl s tree

/-- The text on its way to a key is noticed by none, whether all of it arrives or not. -/
theorem unnoticed_of_attempt_write (tree : d.IsTree) (valid : isKey key = true)
    {bytes : List UInt8} {trouble : Option Mishap} {done : Bool}
    (h : d.attempt (.write (s.route (s.temporaryPath key)) bytes) trouble = (done, d')) :
    s.Unnoticed d d' ∧
      (done = true → d'.node? (s.place ++ [temporaryName key]) = some (.file bytes)) := by
  match trouble with
  | some .refused =>
    cases h
    exact ⟨.refl s tree, Bool.noConfusion⟩
  | some (.brokenOff count) =>
    simp only [Disk.attempt, Prod.mk.injEq] at h
    obtain ⟨rfl, rfl⟩ := h
    refine ⟨?_, Bool.noConfusion⟩
    cases written : d.write (s.route (s.temporaryPath key)) (bytes.take count) with
    | none => exact .refl s tree
    | some d' => exact (unnoticed_of_write tree valid written).1
  | none =>
    simp only [Disk.attempt, Disk.step] at h
    cases written : d.write (s.route (s.temporaryPath key)) bytes with
    | none =>
      rw [written] at h
      cases h
      exact ⟨.refl s tree, Bool.noConfusion⟩
    | some there =>
      rw [written] at h
      cases h
      obtain ⟨unnoticed, whole⟩ := unnoticed_of_write tree valid written
      exact ⟨unnoticed, fun _ => whole⟩

/-- What setting a text comes to: if it is done its key has the text, otherwise nothing is noticed. -/
structure Sets (s : FileStore) (d d' : Disk) (key value : String) (done : Bool) : Prop where
  isTree : d'.IsTree
  within : s.StaysWithin d d'
  others : ∀ other, isKey other = true → other ≠ key → s.Keeps d d' other
  own : if done then d'.IsOpen (s.route (s.filePath key)) ∧ s.get d' key = .ok (some value)
    else s.Keeps d d' key

theorem Sets.of_unnoticed {value : String} (valid : isKey key = true) (h : s.Unnoticed d d') :
    s.Sets d d' key value false :=
  ⟨h.isTree, h.within, fun other valid _ => h.keeps other valid, h.keeps key valid⟩

theorem Sets.after {value : String} {done : Bool} (valid : isKey key = true)
    (first : s.Unnoticed d d') (h : s.Sets d' d'' key value done) : s.Sets d d'' key value done where
  isTree := h.isTree
  within := first.within.trans h.within
  others other valid apart := (first.keeps other valid).trans (h.others other valid apart)
  own := by
    have own := h.own
    cases done with
    | false => exact (first.keeps key valid).trans own
    | true => exact own

/-- What has been written becomes the text of its key, and the other keys keep theirs. -/
theorem sets_of_rename (tree : d.IsTree) (valid : isKey key = true) {value : String}
    (written : d.node? (s.place ++ [temporaryName key]) = some (.file (Utf8.bytes value)))
    (h : d.rename (s.route (s.temporaryPath key)) (s.route (s.filePath key)) = some d') :
    s.Sets d d' key value true := by
  obtain ⟨old, new, bytes, reached, site, source, rfl⟩ := Disk.rename_eq_some.mp h
  obtain ⟨here, usable, short, free, rfl⟩ := hasFolder_of_fileSite? (isName_fileName valid) site
  obtain rfl := eq_of_lookup_file (isName_temporaryName valid) reached
  have bytes : bytes = Utf8.bytes value := by simpa using source.symm.trans written
  subst bytes
  -- files are moved only, so every way to a folder stays
  have isFile := Disk.isFolder_of_file source
  have gone := Disk.isFolder_erase_file isFile
  have same := Disk.isFolder_set_file ((gone _).trans free) (Utf8.bytes value)
  have between : s.HasFolder (d.erase (s.place ++ [temporaryName key])) :=
    here.of_isFolder fun path isFolder => (gone path).trans isFolder
  have after := between.of_isFolder fun path isFolder => (same path).trans isFolder
  refine ⟨?_, ?_, ?_, ?_⟩
  · exact Disk.isTree_set (Disk.isTree_erase_file tree isFile) between.isFolder
      fun path isFolder => (same path).trans isFolder
  · intro path changed
    by_cases target : path = s.place ++ [fileName key]
    · exact .inl ⟨key, valid, .inl target⟩
    · rw [Disk.node?_set_other target] at changed
      by_cases source : path = s.place ++ [temporaryName key]
      · exact .inl ⟨key, valid, .inr source⟩
      · exact absurd (Disk.node?_erase_other source) changed
  · intro other valid apart
    refine keeps_of_hasFolder here after valid ?_
    rw [Disk.node?_set_other, Disk.node?_erase_other]
    · simp [fileName_ne_temporaryName]
    · simpa using fun h => apart (fileName_injective h)
  · have read := get_of_file after valid usable short (Disk.node?_set_self (by simp) _)
    rw [Utf8.text?_bytes] at read
    exact ⟨isOpen_of_hasFolder after valid, read⟩

theorem sets_of_attempt_rename (tree : d.IsTree) (valid : isKey key = true) {value : String}
    (written : d.node? (s.place ++ [temporaryName key]) = some (.file (Utf8.bytes value)))
    {trouble : Option Mishap} {done : Bool}
    (h : d.attempt (.rename (s.route (s.temporaryPath key)) (s.route (s.filePath key))) trouble =
      (done, d')) : s.Sets d d' key value done := by
  match trouble with
  | some .refused =>
    cases h
    exact .of_unnoticed valid (.refl s tree)
  | some (.brokenOff _) =>
    cases h
    exact .of_unnoticed valid (.refl s tree)
  | none =>
    simp only [Disk.attempt, Disk.step] at h
    cases moved : d.rename (s.route (s.temporaryPath key)) (s.route (s.filePath key)) with
    | none =>
      rw [moved] at h
      cases h
      exact .of_unnoticed valid (.refl s tree)
    | some there =>
      rw [moved] at h
      cases h
      exact sets_of_rename tree valid written moved

theorem run_of_done {trouble : DiskStep → Option Mishap} {step : DiskStep} {fault : FileStoreFault}
    {rest : List (DiskStep × FileStoreFault)} (h : d.attempt step (trouble step) = (true, d')) :
    run trouble d ((step, fault) :: rest) = run trouble d' rest := by
  rw [run, h]

theorem run_of_failed {trouble : DiskStep → Option Mishap} {step : DiskStep} {fault : FileStoreFault}
    {rest : List (DiskStep × FileStoreFault)} (h : d.attempt step (trouble step) = (false, d')) :
    run trouble d ((step, fault) :: rest) = (.error fault, d') := by
  rw [run, h]

theorem unnoticed_of_run {trouble : DiskStep → Option Mishap}
    {steps : List (DiskStep × FileStoreFault)}
    (each : ∀ e ∈ steps, ∀ (d d' : Disk) (mishap : Option Mishap) (done : Bool), d.IsTree →
      d.attempt e.1 mishap = (done, d') → s.Unnoticed d d')
    (tree : d.IsTree) : s.Unnoticed d (run trouble d steps).2 := by
  induction steps generalizing d with
  | nil => exact .refl s tree
  | cons e steps ih =>
    rcases first : d.attempt e.1 (trouble e.1) with ⟨_ | _, d'⟩
    · rw [run_of_failed first]
      exact each e (by simp) d d' _ _ tree first
    · rw [run_of_done first]
      have one := each e (by simp) d d' _ _ tree first
      exact one.trans (ih (fun e h => each e (by simp [h])) one.isTree)

theorem sets_of_run (tree : d.IsTree) (valid : isKey key = true)
    (trouble : DiskStep → Option Mishap) (value : String) :
    s.Sets d (run trouble d (s.setSteps key value)).2 key value
      (run trouble d (s.setSteps key value)).1.isOk := by
  unfold setSteps
  rcases first : d.attempt (.makeFolders (s.route s.root)) (trouble (.makeFolders (s.route s.root)))
    with ⟨_ | _, d₁⟩
  · rw [run_of_failed first]
    exact .of_unnoticed valid (unnoticed_of_attempt_makeFolders tree first)
  rw [run_of_done first]
  have made := unnoticed_of_attempt_makeFolders tree first
  refine .after valid made ?_
  rcases second : d₁.attempt (.write (s.route (s.temporaryPath key)) (Utf8.bytes value))
    (trouble (.write (s.route (s.temporaryPath key)) (Utf8.bytes value))) with ⟨_ | _, d₂⟩
  · rw [run_of_failed second]
    exact .of_unnoticed valid (unnoticed_of_attempt_write made.isTree valid second).1
  rw [run_of_done second]
  obtain ⟨wrote, whole⟩ := unnoticed_of_attempt_write made.isTree valid second
  refine .after valid wrote ?_
  rcases third : d₂.attempt (.rename (s.route (s.temporaryPath key)) (s.route (s.filePath key)))
    (trouble (.rename (s.route (s.temporaryPath key)) (s.route (s.filePath key)))) with ⟨_ | _, d₃⟩
  · rw [run_of_failed third]
    exact sets_of_attempt_rename wrote.isTree valid (whole rfl) third
  · rw [run_of_done third]
    exact sets_of_attempt_rename wrote.isTree valid (whole rfl) third

end IngestViewer.FileStore
