import IngestViewer.Disk

namespace IngestViewer.Disk

def IsTree (d : Disk) : Prop :=
  ∀ folder name n, d.node? (folder ++ [name]) = some n → d.isFolder folder = true

/-- Behind the first name of a route that leads nowhere, there is no way back and no name that is too
long. -/
def IsOpen (d : Disk) (r : Route) : Prop :=
  ∀ reached left, r.names = reached ++ left → d.walk r.start reached = .error .missing →
    ∀ name ∈ left, name ≠ ".." ∧ name.utf8ByteSize ≤ nameLimit

theorem isOpen_of_names {r : Route}
    (plain : ∀ name ∈ r.names, name ≠ ".." ∧ name.utf8ByteSize ≤ nameLimit) (d : Disk) :
    d.IsOpen r := by
  intro reached left split _ name inside
  exact plain name (split ▸ List.mem_append_right reached inside)

theorem isTree_of_nodes {d : Disk}
    (inFolder : ∀ e ∈ d.nodes, d.isFolder e.1.dropLast = true) : d.IsTree := by
  intro folder name n there
  have found : d.nodes.lookup (folder ++ [name]) = some n := by
    simpa [node?] using there
  obtain ⟨before, after, nodes, -⟩ := List.lookup_eq_some_iff.mp found
  have above := inFolder (folder ++ [name], n) (by simp [nodes])
  rwa [List.dropLast_concat] at above

theorem isFolder_iff {d : Disk} {path : DiskPath} :
    d.isFolder path = true ↔ d.node? path = some .folder := by
  simp [isFolder]

theorem lookup_filter_ne {β : Type} (l : List (DiskPath × β)) {path other : DiskPath}
    (apart : other ≠ path) : (l.filter (·.1 ≠ path)).lookup other = l.lookup other := by
  induction l with
  | nil => rfl
  | cons e l ih =>
    by_cases same : e.1 = path
    · have passed : (other == e.1) = false := by simpa [same] using apart
      rw [List.filter_cons_of_neg (by simpa using same), ih, List.lookup_cons, passed]
    · rw [List.filter_cons_of_pos (by simpa using same), List.lookup_cons, List.lookup_cons, ih]

theorem lookup_filter_self {β : Type} (l : List (DiskPath × β)) (path : DiskPath) :
    (l.filter (·.1 ≠ path)).lookup path = none := by
  refine List.lookup_eq_none_iff.mpr fun e he => ?_
  have apart : e.1 ≠ path := by simpa using (List.mem_filter.mp he).2
  simp [apart.symm]

theorem node?_set_self {d : Disk} {path : DiskPath} (below : path ≠ []) (n : DiskNode) :
    (d.set path n).node? path = some n := by
  simp [node?, set, below]

theorem node?_set_other {d : Disk} {path other : DiskPath} (apart : other ≠ path) (n : DiskNode) :
    (d.set path n).node? other = d.node? other := by
  have passed : (other == path) = false := by simpa using apart
  rw [node?, node?, set, List.lookup_cons, passed, lookup_filter_ne _ apart]

theorem eq_of_changed_set {d : Disk} {path other : DiskPath} {n : DiskNode}
    (changed : (d.set path n).node? other ≠ d.node? other) : other = path :=
  Decidable.not_not.mp fun apart => changed (node?_set_other apart n)

theorem node?_erase_self {d : Disk} {path : DiskPath} (below : path ≠ []) :
    (d.erase path).node? path = none := by
  simp only [node?, erase, below, if_false, lookup_filter_self]

theorem node?_erase_other {d : Disk} {path other : DiskPath} (apart : other ≠ path) :
    (d.erase path).node? other = d.node? other := by
  rw [node?, node?, erase, lookup_filter_ne _ apart]

theorem isFolder_set_file {d : Disk} {path : DiskPath} (free : d.isFolder path = false)
    (bytes : List UInt8) (other : DiskPath) :
    (d.set path (.file bytes)).isFolder other = d.isFolder other := by
  by_cases same : other = path
  · subst same
    have below : other ≠ [] := by rintro rfl; simp [isFolder, node?] at free
    rw [free, isFolder, node?_set_self below]
    rfl
  · rw [isFolder, isFolder, node?_set_other same]

theorem isFolder_erase_file {d : Disk} {path : DiskPath} (free : d.isFolder path = false)
    (other : DiskPath) : (d.erase path).isFolder other = d.isFolder other := by
  by_cases same : other = path
  · subst same
    have below : other ≠ [] := by rintro rfl; simp [isFolder, node?] at free
    rw [free, isFolder, node?_erase_self below]
    rfl
  · rw [isFolder, isFolder, node?_erase_other same]

theorem isTree_set {d : Disk} (tree : d.IsTree) {folder : DiskPath} {name : String}
    (isFolder : d.isFolder folder = true) {n : DiskNode}
    (kept : ∀ path, d.isFolder path = true → (d.set (folder ++ [name]) n).isFolder path = true) :
    (d.set (folder ++ [name]) n).IsTree := by
  intro parent child found h
  by_cases same : parent ++ [child] = folder ++ [name]
  · have parent : parent = folder := (List.append_inj' same rfl).1
    subst parent
    exact kept _ isFolder
  · rw [node?_set_other same] at h
    exact kept _ (tree parent child found h)

theorem isTree_erase_file {d : Disk} (tree : d.IsTree) {path : DiskPath}
    (free : d.isFolder path = false) : (d.erase path).IsTree := by
  intro parent child found h
  rw [isFolder_erase_file free]
  by_cases same : parent ++ [child] = path
  · subst same
    rw [node?_erase_self (by simp)] at h
    cases h
  · rw [node?_erase_other same] at h
    exact tree parent child found h

theorem advance_eq_ok {d : Disk} {place next : DiskPath} {name : String} :
    d.advance place name = .ok next ↔ d.isFolder place = true ∧ name.utf8ByteSize ≤ nameLimit ∧
      next = Route.follow place name ∧ (d.node? next).isSome = true := by
  by_cases folder : d.isFolder place = true
  · by_cases short : name.utf8ByteSize ≤ nameLimit
    · by_cases there : (d.node? (Route.follow place name)).isSome = true
      · simp only [advance, folder, there, Nat.not_lt.mpr short]
        constructor
        · rintro ⟨⟩
          exact ⟨trivial, short, rfl, there⟩
        · rintro ⟨-, -, rfl, -⟩
          rfl
      · simp only [advance, folder, there, Nat.not_lt.mpr short]
        constructor
        · rintro ⟨⟩
        · rintro ⟨-, -, rfl, here⟩
          exact absurd here there
    · simp [advance, short, Nat.not_le.mp short]
  · simp [advance, folder]

theorem advance_eq_missing {d : Disk} {place : DiskPath} {name : String} :
    d.advance place name = .error .missing ↔ d.isFolder place = true ∧
      name.utf8ByteSize ≤ nameLimit ∧ d.node? (Route.follow place name) = none := by
  by_cases folder : d.isFolder place = true
  · by_cases short : name.utf8ByteSize ≤ nameLimit
    · by_cases absent : d.node? (Route.follow place name) = none
      · simp [advance, folder, short, Nat.not_lt.mpr short, absent]
      · have there := Option.isSome_iff_ne_none.mpr absent
        simp [advance, folder, Nat.not_lt.mpr short, there, absent]
    · simp [advance, short, Nat.not_le.mp short]
  · simp [advance, folder]

theorem isNamable_iff {name : String} :
    isNamable name = true ↔ name ≠ "." ∧ name ≠ ".." ∧ name.utf8ByteSize ≤ nameLimit := by
  simp [isNamable, and_assoc]

theorem follow_of_isNamable {name : String} (namable : isNamable name = true) (place : DiskPath) :
    Route.follow place name = place ++ [name] := by
  obtain ⟨stays, back, -⟩ := isNamable_iff.mp namable
  simp [Route.follow, stays, back]

theorem walk_cons {d : Disk} {place : DiskPath} {name : String} {names : List String} :
    d.walk place (name :: names) =
      match d.advance place name with
      | .ok next => d.walk next names
      | .error e => .error e := by
  cases h : d.advance place name <;> simp [walk, List.foldlM_cons, h, bind, Except.bind]

theorem walk_append_of_ok {d : Disk} {place next : DiskPath} {names : List String}
    (h : d.walk place names = .ok next) (more : List String) :
    d.walk place (names ++ more) = d.walk next more := by
  rw [walk, List.foldlM_append]
  rw [walk] at h
  rw [h]
  rfl

theorem walk_append_of_error {d : Disk} {place : DiskPath} {names : List String} {e : Obstacle}
    (h : d.walk place names = .error e) (more : List String) :
    d.walk place (names ++ more) = .error e := by
  rw [walk, List.foldlM_append]
  rw [walk] at h
  rw [h]
  rfl

/-- Where a way leads can be told without the disk. -/
theorem eq_follow_of_walk {d : Disk} {place next : DiskPath} {names : List String}
    (h : d.walk place names = .ok next) : next = names.foldl Route.follow place := by
  induction names generalizing place with
  | nil => cases h; rfl
  | cons name names ih =>
    rw [walk_cons] at h
    cases first : d.advance place name with
    | error e => rw [first] at h; cases h
    | ok mid =>
      rw [first] at h
      obtain ⟨-, -, rfl, -⟩ := advance_eq_ok.mp first
      exact ih h

theorem isFolder_start_of_walk {d : Disk} {place next : DiskPath} {names : List String}
    (h : d.walk place names = .ok next) (isFolder : d.isFolder next = true) :
    d.isFolder place = true := by
  cases names with
  | nil => cases h; exact isFolder
  | cons name names =>
    rw [walk_cons] at h
    cases first : d.advance place name with
    | error e => rw [first] at h; cases h
    | ok mid => exact (advance_eq_ok.mp first).1

theorem isFolder_of_walk_append {d : Disk} {start next : DiskPath} {way rest : List String}
    (h : d.walk start (way ++ rest) = .ok next) (isFolder : d.isFolder next = true) :
    ∃ place, d.walk start way = .ok place ∧ d.isFolder place = true := by
  cases walked : d.walk start way with
  | error e =>
    rw [walk_append_of_error walked] at h
    cases h
  | ok place =>
    rw [walk_append_of_ok walked] at h
    exact ⟨place, rfl, isFolder_start_of_walk h isFolder⟩

/-- A way to a folder comes by folders only, so it stays where they stay. -/
theorem walk_of_isFolder {d d' : Disk} (kept : ∀ path, d.isFolder path = true → d'.isFolder path = true)
    {place next : DiskPath} {names : List String} (h : d.walk place names = .ok next)
    (isFolder : d.isFolder next = true) : d'.walk place names = .ok next := by
  induction names generalizing place with
  | nil => exact h
  | cons name names ih =>
    rw [walk_cons] at h ⊢
    cases first : d.advance place name with
    | error e => rw [first] at h; cases h
    | ok mid =>
      rw [first] at h
      obtain ⟨here, short, same, -⟩ := advance_eq_ok.mp first
      have there := isFolder_iff.mp (kept mid (isFolder_start_of_walk h isFolder))
      have again : d'.advance place name = .ok mid :=
        advance_eq_ok.mpr ⟨kept place here, short, same, by rw [there]; rfl⟩
      rw [again]
      exact ih h

/-- In a folder with nothing in it a way forward leads nowhere. -/
theorem walk_of_bare {d : Disk} {folder : DiskPath} (isFolder : d.isFolder folder = true)
    (bare : ∀ name, d.node? (folder ++ [name]) = none) {names : List String}
    (plain : ∀ name ∈ names, name ≠ ".." ∧ name.utf8ByteSize ≤ nameLimit)
    (onward : ∃ name ∈ names, name ≠ ".") : d.walk folder names = .error .missing := by
  induction names with
  | nil => obtain ⟨name, h, -⟩ := onward; cases h
  | cons name names ih =>
    obtain ⟨back, short⟩ := plain name (by simp)
    rw [walk_cons]
    by_cases stays : name = "."
    · subst stays
      have here : d.advance folder "." = .ok folder :=
        advance_eq_ok.mpr ⟨isFolder, short, rfl, by rw [isFolder_iff.mp isFolder]; rfl⟩
      have onward : ∃ name ∈ names, name ≠ "." := by simpa using onward
      rw [here]
      exact ih (fun n hn => plain n (by simp [hn])) onward
    · have ahead : Route.follow folder name = folder ++ [name] := by simp [Route.follow, back, stays]
      have none : d.advance folder name = .error .missing :=
        advance_eq_missing.mpr ⟨isFolder, short, by rw [ahead]; exact bare name⟩
      rw [none]

theorem site?_eq_some {d : Disk} {start path : DiskPath} {names : List String} :
    d.site? start names = some path ↔ ∃ way name folder, names = way ++ [name] ∧
      d.walk start way = .ok folder ∧ d.isFolder folder = true ∧ isNamable name = true ∧
      path = folder ++ [name] := by
  unfold site?
  constructor
  · intro h
    split at h
    next name folder last above =>
      obtain ⟨way, rfl⟩ := List.getLast?_eq_some_iff.mp last
      simp only [Option.ite_none_right_eq_some, Bool.and_eq_true, Option.some.injEq] at h
      rw [List.dropLast_concat] at above
      exact ⟨way, name, folder, rfl, above, h.1.1, h.1.2, h.2.symm⟩
    next => cases h
  · rintro ⟨way, name, folder, rfl, above, isFolder, namable, rfl⟩
    simp [above, isFolder, namable]

/-- What making one folder comes to: nothing new, or one folder at the end of a way, in a place that
was free. -/
theorem makeFolder_cases {d made : Disk} {start : DiskPath} {names : List String}
    (h : d.makeFolder start names = some made) :
    made = d ∨ ∃ way name folder, names = way ++ [name] ∧ d.walk start way = .ok folder ∧
      d.advance folder name = .error .missing ∧ isNamable name = true ∧
      made = d.set (folder ++ [name]) .folder := by
  unfold makeFolder at h
  cases walked : d.walk start names with
  | ok place =>
    simp only [walked, Option.ite_none_right_eq_some, Option.some.injEq] at h
    exact .inl h.2.symm
  | error e =>
    simp only [walked, Option.map_eq_some_iff] at h
    obtain ⟨path, site, rfl⟩ := h
    obtain ⟨way, name, folder, rfl, above, isFolder, namable, rfl⟩ := site?_eq_some.mp site
    refine .inr ⟨way, name, folder, rfl, above, ?_, namable, rfl⟩
    have short := (isNamable_iff.mp namable).2.2
    rw [walk_append_of_ok above, walk_cons] at walked
    refine advance_eq_missing.mpr ⟨isFolder, short, Option.eq_none_iff_forall_ne_some.mpr ?_⟩
    intro n there
    have next := advance_eq_ok.mpr ⟨isFolder, short, rfl, Option.isSome_of_eq_some there⟩
    rw [next] at walked
    cases walked

theorem fileSite?_eq_some {d : Disk} {r : Route} {path : DiskPath}
    (h : d.fileSite? r = some path) :
    r.isUsable = true ∧ d.site? r.start r.names = some path ∧ d.isFolder path = false := by
  simp only [fileSite?, Option.ite_none_right_eq_some, Bool.and_eq_true, Option.filter_eq_some_iff,
    Bool.not_eq_true'] at h
  exact ⟨h.1.1, h.2.1, h.2.2⟩

theorem rename_eq_some {d d' : Disk} {source target : Route} :
    d.rename source target = some d' ↔ ∃ old new bytes, d.lookup source = .ok old ∧
      d.fileSite? target = some new ∧ d.node? old = some (.file bytes) ∧
      d' = (d.erase old).set new (.file bytes) := by
  unfold rename
  constructor
  · intro h
    split at h
    next old new reached site =>
      split at h
      next bytes there => exact ⟨old, new, bytes, reached, site, there, (Option.some.inj h).symm⟩
      next => cases h
    next => cases h
  · rintro ⟨old, new, bytes, reached, site, there, rfl⟩
    simp only [reached, site, there]

theorem isFolder_of_file {d : Disk} {path : DiskPath} {bytes : List UInt8}
    (h : d.node? path = some (.file bytes)) : d.isFolder path = false := by
  rw [isFolder, h]
  rfl

section NewFolder

variable {d : Disk} {start folder : DiskPath} {way : List String} {name : String}

theorem node?_of_advance_missing (absent : d.advance folder name = .error .missing)
    (namable : isNamable name = true) : d.node? (folder ++ [name]) = none := by
  rw [← follow_of_isNamable namable folder]
  exact (advance_eq_missing.mp absent).2.2

theorem isFolder_set_folder {path other : DiskPath} (h : d.isFolder other = true) :
    (d.set path .folder).isFolder other = true := by
  by_cases same : other = path
  · subst same
    by_cases below : other = []
    · subst below
      rfl
    · exact isFolder_iff.mpr (node?_set_self below _)
  · rw [isFolder, node?_set_other same]
    exact h

theorem isTree_set_folder (tree : d.IsTree) (isFolder : d.isFolder folder = true) :
    (d.set (folder ++ [name]) .folder).IsTree :=
  isTree_set tree isFolder fun _ => isFolder_set_folder

theorem isFolder_new : (d.set (folder ++ [name]) .folder).isFolder (folder ++ [name]) = true :=
  isFolder_iff.mpr (node?_set_self (by simp) _)

theorem walk_to_new_folder (above : d.walk start way = .ok folder)
    (absent : d.advance folder name = .error .missing) (namable : isNamable name = true) :
    (d.set (folder ++ [name]) .folder).walk start (way ++ [name]) = .ok (folder ++ [name]) := by
  obtain ⟨isFolder, short, -⟩ := advance_eq_missing.mp absent
  have there := isFolder_iff.mp (@isFolder_new d folder name)
  have entered : (d.set (folder ++ [name]) .folder).advance folder name = .ok (folder ++ [name]) :=
    advance_eq_ok.mpr ⟨isFolder_set_folder isFolder, short,
      (follow_of_isNamable namable folder).symm, by rw [there]; rfl⟩
  have kept : ∀ path, d.isFolder path = true →
      (d.set (folder ++ [name]) .folder).isFolder path = true := fun _ => isFolder_set_folder
  rw [walk_append_of_ok (walk_of_isFolder kept above isFolder), walk_cons, entered]
  rfl

/-- A new folder is on the way, but what comes behind it leads nowhere, as there is nothing in it. -/
theorem walk_past_new_folder (tree : d.IsTree) (above : d.walk start way = .ok folder)
    (absent : d.advance folder name = .error .missing) (namable : isNamable name = true)
    {rest : List String} (plain : ∀ n ∈ rest, n ≠ ".." ∧ n.utf8ByteSize ≤ nameLimit)
    (onward : ∃ n ∈ rest, n ≠ ".") :
    (d.set (folder ++ [name]) .folder).walk start (way ++ [name] ++ rest) = .error .missing := by
  have bare : ∀ n, (d.set (folder ++ [name]) .folder).node? (folder ++ [name] ++ [n]) = none := by
    intro n
    rw [node?_set_other (by simp)]
    refine Option.eq_none_iff_forall_ne_some.mpr fun there h => ?_
    have parent := isFolder_iff.mp (tree _ _ _ h)
    rw [node?_of_advance_missing absent namable] at parent
    cases parent
  rw [walk_append_of_ok (walk_to_new_folder above absent namable)]
  exact walk_of_bare isFolder_new bare plain onward

theorem isOpen_set_folder {r : Route} (isOpen : d.IsOpen r) (above : d.walk r.start way = .ok folder)
    (absent : d.advance folder name = .error .missing) (namable : isNamable name = true)
    {rest : List String} (names : r.names = way ++ [name] ++ rest) :
    (d.set (folder ++ [name]) .folder).IsOpen r := by
  intro reached left split missing
  rw [names] at split
  rcases List.append_eq_append_iff.mp split with ⟨between, rfl, rfl⟩ | ⟨between, before, rfl⟩
  · have stuck : d.walk r.start (way ++ [name]) = .error .missing := by
      rw [walk_append_of_ok above, walk_cons, absent]
    intro n hn
    exact isOpen _ _ names stuck n (by simp [hn])
  · -- up to the new folder the way leads on
    have there := walk_to_new_folder above absent namable
    rw [before, walk_append_of_error missing] at there
    cases there

end NewFolder

end IngestViewer.Disk
