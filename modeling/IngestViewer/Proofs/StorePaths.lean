import IngestViewer.FileStore
import IngestViewer.Proofs.DiskSteps

namespace IngestViewer

/-- A text that is one name of a path and leads on from a folder. -/
structure IsName (name : String) : Prop where
  something : name ≠ ""
  single : '/' ∉ name.toList
  ahead : name ≠ "." ∧ name ≠ ".."

theorem endsWith_slash_iff (s : String) : s.endsWith "/" = true ↔ ['/'] <:+ s.toList := by
  rw [← String.endsWith_toSlice, String.Slice.endsWith_string_iff]
  simp

namespace PathText

theorem isAbsolute_of_isName {name : String} (h : IsName name) : isAbsolute name = false := by
  rw [isAbsolute, String.startsWith_string_eq_false_iff]
  rintro ⟨rest, starts⟩
  exact h.single (by simp [← starts])

theorem join_of_isName {name : String} (h : IsName name) (base : String) :
    join base name =
      if base = "" || base.endsWith "/" then base ++ name else base ++ "/" ++ name := by
  have relative := isAbsolute_of_isName h
  rw [isAbsolute] at relative
  rw [join, relative]
  rfl

theorem isAbsolute_join {name : String} (h : IsName name) (base : String) :
    isAbsolute (join base name) = isAbsolute base := by
  rw [join_of_isName h]
  by_cases empty : base = ""
  · subst empty
    exact (isAbsolute_of_isName h).trans (by decide)
  · have something : base.toList ≠ [] := by simpa using empty
    obtain ⟨c, cs, chars⟩ := List.exists_cons_of_ne_nil something
    rw [Bool.eq_iff_iff, isAbsolute, isAbsolute, String.startsWith_string_iff,
      String.startsWith_string_iff]
    split <;> simp [chars]

end PathText

namespace Route

theorem names_eq (r : Route) :
    r.names = ((segments '/' r.text.toList).map String.ofList).filter (· ≠ "") := rfl

theorem names_join {name : String} (h : IsName name) (base : String) (w : DiskPath) :
    (ofText w (PathText.join base name)).names = (ofText w base).names ++ [name] := by
  have last : ((segments '/' name.toList).map String.ofList).filter (· ≠ "") = [name] := by
    simp [segments_of_absent h.single, h.something]
  rw [PathText.join_of_isName h]
  simp only [names_eq, ofText]
  split
  next bare =>
    simp only [Bool.or_eq_true, decide_eq_true_eq, endsWith_slash_iff] at bare
    rcases bare with rfl | ⟨above, slash⟩
    · rw [String.empty_append, last]
      rfl
    · have base : base.toList = above ++ '/' :: [] := slash.symm
      rw [String.toList_append, base, List.append_assoc, List.cons_append, List.nil_append,
        segments_append_sep, segments_append_sep, List.map_append, List.map_append,
        List.filter_append, List.filter_append, last]
      simp [segments]
  next =>
    have parts : (base ++ "/" ++ name).toList = base.toList ++ '/' :: name.toList := by simp
    rw [parts, segments_append_sep, List.map_append, List.filter_append, last]

theorem start_join {name : String} (h : IsName name) (base : String) (w : DiskPath) :
    (ofText w (PathText.join base name)).start = (ofText w base).start := by
  rw [ofText, ofText, PathText.isAbsolute_join h]

theorem asksFolder_join {name : String} (h : IsName name) (base : String) (w : DiskPath) :
    (ofText w (PathText.join base name)).asksFolder = false := by
  refine Bool.eq_false_iff.mpr fun ends => ?_
  rw [asksFolder, endsWith_slash_iff] at ends
  have inside : ['/'] <:+ name.toList := by
    refine List.suffix_of_suffix_length_le ends ?_ ?_
    · dsimp only [ofText]
      rw [PathText.join_of_isName h]
      split <;> (rw [String.toList_append]; exact List.suffix_append _ _)
    · have something : name.toList ≠ [] := by simpa using h.something
      exact List.length_pos_iff.mpr something
  exact h.single (inside.subset (by simp))

/-- A path stays one that a disk takes, as long as it has room for another name. -/
theorem isUsable_join {base name : String} {w : DiskPath} (h : IsName name)
    (plain : '\x00' ∉ name.toList) (usable : (ofText w base).isUsable = true)
    (room : base.utf8ByteSize + 1 + name.utf8ByteSize ≤ sizeLimit) :
    (ofText w (PathText.join base name)).isUsable = true := by
  rw [isUsable, Bool.and_eq_true, decide_eq_true_eq, List.all_eq_true] at usable ⊢
  obtain ⟨-, clean⟩ := usable
  have fine : ∀ c ∈ name.toList, decide (c ≠ '\x00') = true := fun c inside =>
    decide_eq_true fun null => plain (null ▸ inside)
  dsimp only [ofText] at clean ⊢
  rw [PathText.join_of_isName h]
  split
  · rw [String.utf8ByteSize_append, String.toList_append]
    refine ⟨by omega, fun c inside => ?_⟩
    exact (List.mem_append.mp inside).elim (clean c) (fine c)
  · have slash : "/".utf8ByteSize = 1 := by decide
    rw [String.utf8ByteSize_append, String.utf8ByteSize_append, String.toList_append,
      String.toList_append]
    refine ⟨by omega, fun c inside => ?_⟩
    rcases List.mem_append.mp inside with before | after
    · refine (List.mem_append.mp before).elim (clean c) fun here => ?_
      rw [List.mem_singleton.mp here]
      decide
    · exact fine c after

theorem follow_of_isName {name : String} (h : IsName name) (place : DiskPath) :
    follow place name = place ++ [name] := by
  simp [follow, h.ahead.1, h.ahead.2]

end Route

namespace Disk

theorem lookup_of_names {r : Route} (usable : r.isUsable = true) (file : r.asksFolder = false)
    (names : r.names ≠ []) (d : Disk) : d.lookup r = d.walk r.start r.names := by
  have something : r.text ≠ "" := by
    intro empty
    rw [Route.names_eq, empty] at names
    exact names rfl
  simp [lookup, usable, file, something]

theorem read_congr {d d' : Disk} {r : Route} (way : d'.lookup r = d.lookup r)
    (same : ∀ place, d.lookup r = .ok place → d'.node? place = d.node? place) :
    d'.read r = d.read r := by
  cases found : d.lookup r with
  | error e => cases e <;> simp [read, way, found]
  | ok place => simp [read, way, found, same place found]

end Disk

namespace FileStore

variable {s : FileStore} {key : String}

theorem isKeyChar_of_mem (valid : isKey key = true) {c : Char} (inside : c ∈ key.toList) :
    isKeyChar c = true := by
  simp only [isKey, Bool.and_eq_true, List.all_eq_true] at valid
  exact valid.2 c inside

theorem isName_append {ending : String} (valid : isKey key = true) (plain : '/' ∉ ending.toList) :
    IsName (key ++ ending) := by
  have chars : ∀ c ∈ key.toList, isKeyChar c = true := fun c => isKeyChar_of_mem valid
  have something : key ≠ "" := by
    simp only [isKey, Bool.and_eq_true, decide_eq_true_eq] at valid
    exact valid.1
  have nonempty : key.toList ≠ [] := by simpa using something
  obtain ⟨c, cs, split⟩ := List.exists_cons_of_ne_nil nonempty
  have noDot : c ≠ '.' := by
    rintro rfl
    exact absurd (chars '.' (by simp [split])) (by decide)
  have starts : (key ++ ending).toList = c :: (cs ++ ending.toList) := by simp [split]
  refine ⟨fun empty => something (String.append_eq_empty_iff.mp empty).1, fun slash => ?_, ?_, ?_⟩
  · rw [String.toList_append] at slash
    rcases List.mem_append.mp slash with inside | inside
    · exact absurd (chars '/' inside) (by decide)
    · exact plain inside
  · intro dot
    rw [dot] at starts
    exact noDot (List.cons.inj starts).1.symm
  · intro dots
    rw [dots] at starts
    exact noDot (List.cons.inj starts).1.symm

theorem isName_fileName (valid : isKey key = true) : IsName (fileName key) :=
  isName_append valid (by decide)

theorem isUsable_of_room {ending : String} (valid : isKey key = true) (plain : '/' ∉ ending.toList)
    (clean : '\x00' ∉ ending.toList) (usable : (s.route s.root).isUsable = true)
    (room : s.root.utf8ByteSize + 1 + (key ++ ending).utf8ByteSize ≤ Route.sizeLimit) :
    (s.route (PathText.join s.root (key ++ ending))).isUsable = true := by
  refine Route.isUsable_join (isName_append valid plain) ?_ usable room
  rw [String.toList_append, List.mem_append, not_or]
  exact ⟨fun inside => absurd (isKeyChar_of_mem valid inside) (by decide), clean⟩

theorem isName_temporaryName (valid : isKey key = true) : IsName (temporaryName key) :=
  isName_append valid (by decide)

/-- The place of the folder that a store keeps its files in. -/
def place (s : FileStore) : DiskPath :=
  (s.route s.root).names.foldl Route.follow (s.route s.root).start

/-- The two kinds of files are told apart by the ends of their names. -/
theorem fileName_ne_temporaryName (key other : String) : fileName key ≠ temporaryName other := by
  intro same
  have ends := congrArg (·.toList.getLast?) same
  simp [fileName, temporaryName] at ends

theorem fileName_injective {key other : String} (h : fileName key = fileName other) : key = other := by
  simpa [fileName] using h

theorem lookup_file {name : String} (h : IsName name)
    (usable : (s.route (PathText.join s.root name)).isUsable = true) (d : Disk) :
    d.lookup (s.route (PathText.join s.root name)) =
      d.walk (s.route s.root).start ((s.route s.root).names ++ [name]) := by
  have names : (s.route (PathText.join s.root name)).names = (s.route s.root).names ++ [name] :=
    Route.names_join h s.root s.workingDirectory
  have start : (s.route (PathText.join s.root name)).start = (s.route s.root).start :=
    Route.start_join h s.root s.workingDirectory
  have file : (s.route (PathText.join s.root name)).asksFolder = false :=
    Route.asksFolder_join h s.root s.workingDirectory
  rw [Disk.lookup_of_names usable file (by simp [names]) d, names, start]

theorem eq_of_lookup_file {d : Disk} {name : String} (h : IsName name) {path : DiskPath}
    (found : d.lookup (s.route (PathText.join s.root name)) = .ok path) :
    path = s.place ++ [name] := by
  by_cases usable : (s.route (PathText.join s.root name)).isUsable = true
  · have walked := (lookup_file h usable d).symm.trans found
    have reached := Disk.eq_follow_of_walk walked
    rw [List.foldl_append] at reached
    exact reached.trans (Route.follow_of_isName h s.place)
  · simp [Disk.lookup, usable] at found

end FileStore

end IngestViewer
