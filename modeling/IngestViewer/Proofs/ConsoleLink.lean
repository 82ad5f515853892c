import IngestViewer.SourceLocation
import Mathlib.Data.List.Basic

namespace IngestViewer

/-- How a path is divided into the folder and the name: at its last slash if it has one. -/
inductive Divides (path folder name : String) : Prop
  | apart (whole : path = folder ++ "/" ++ name) (last : '/' ∉ name.toList)
  | bare (top : folder = "") (whole : path = name) (plain : '/' ∉ name.toList)

/-- Whether the second path is the first, which has no slash, with a slash in front. -/
def IsBareFormOf (bare path : String) : Prop :=
  '/' ∉ bare.toList ∧ path = "/" ++ bare

theorem IsBareFormOf.divides {bare path : String} (h : IsBareFormOf bare path) :
    Divides path "" bare :=
  .apart (by simp [h.2]) h.1

/-- A folder and a name leave open whether there is a slash in front of a bare name, and nothing
else. -/
theorem eq_of_divides {path path' folder name : String} (h : Divides path folder name)
    (h' : Divides path' folder name) :
    path = path' ∨ IsBareFormOf path path' ∨ IsBareFormOf path' path := by
  rcases h with ⟨whole, last⟩ | ⟨top, whole, plain⟩ <;>
    rcases h' with ⟨whole', last'⟩ | ⟨top', whole', plain'⟩
  · exact .inl (whole.trans whole'.symm)
  · subst top' whole'
    exact .inr (.inr ⟨plain', by simpa using whole⟩)
  · subst top whole
    exact .inr (.inl ⟨plain, by simpa using whole'⟩)
  · exact .inl (whole.trans whole'.symm)

namespace SourceLocation

theorem divides_folderAndName (l : SourceLocation) :
    Divides l.path l.folderAndName.1 l.folderAndName.2 := by
  unfold folderAndName
  split
  next folder name cut =>
    obtain ⟨whole, last⟩ := cutLast_eq_some cut
    refine .apart ?_ (by simpa using last)
    rw [← String.toList_inj, whole]
    simp
  next cut => exact .bare rfl rfl (cutLast_eq_none cut)

theorem folderAndName_eq {l : SourceLocation} {folder name : String}
    (h : Divides l.path folder name) : l.folderAndName = (folder, name) := by
  rcases h with ⟨whole, last⟩ | ⟨rfl, whole, plain⟩
  · simp [folderAndName, whole, cutLast_append folder.toList last]
  · simp [folderAndName, whole, cutLast_of_absent plain]

/-- The bucket, the folder and the name that a link is read as. -/
def ofLink? (url : String) : Option (String × String × String) := do
  let place ← url.toList.dropPrefix? "https://s3.console.aws.amazon.com/s3/buckets/".toList
  let (bucket, place) ← cutFirst '/' place
  let (folder, search) ← cutLast '/' place
  let search ← search.dropPrefix? "?tab=overview&prefixSearch=".toList
  let name ← search.dropSuffix? "&region=eu-west-1".toList
  return (String.ofList bucket, String.ofList folder, String.ofList name)

theorem toList_consoleUrl (l : SourceLocation) : l.consoleUrl.toList =
    "https://s3.console.aws.amazon.com/s3/buckets/".toList ++ (l.bucket.toList ++
      '/' :: (l.folderAndName.1.toList ++ '/' :: ("?tab=overview&prefixSearch=".toList ++
        (l.folderAndName.2.toList ++ "&region=eu-west-1".toList)))) := by
  have slash : "/".toList = ['/'] := by decide
  have search : "/?tab=overview&prefixSearch=".toList =
      '/' :: "?tab=overview&prefixSearch=".toList := by decide
  unfold consoleUrl
  simp only [String.toList_append, List.append_assoc, slash, search, List.cons_append,
    List.nil_append]

theorem name_plain (l : SourceLocation) : '/' ∉ l.folderAndName.2.toList := by
  rcases l.divides_folderAndName with ⟨-, last⟩ | ⟨-, -, plain⟩
  · exact last
  · exact plain

/-- The first slash behind the bucket and the last slash of the whole link are those of the link
itself, whatever stands in the path. -/
theorem ofLink?_consoleUrl {l : SourceLocation} (plain : '/' ∉ l.bucket.toList) :
    ofLink? l.consoleUrl = some (l.bucket, l.folderAndName) := by
  have last : '/' ∉ "?tab=overview&prefixSearch=".toList ++
      (l.folderAndName.2.toList ++ "&region=eu-west-1".toList) := by
    simp [name_plain l]
  have name : (l.folderAndName.2.toList ++ "&region=eu-west-1".toList).dropSuffix?
      "&region=eu-west-1".toList = some l.folderAndName.2.toList :=
    List.dropSuffix?_eq_some_iff.mpr ⟨_, rfl, beq_self_eq_true _⟩
  rw [ofLink?, toList_consoleUrl]
  simp only [List.dropPrefix?_append_of_beq _ (beq_self_eq_true _), cutFirst_append plain,
    cutLast_append _ last, name, Option.bind_eq_bind, Option.bind_some, String.ofList_toList]
  rfl

theorem eq_of_consoleUrl_eq {l m : SourceLocation} (plain : '/' ∉ l.bucket.toList)
    (plain' : '/' ∉ m.bucket.toList) (same : l.consoleUrl = m.consoleUrl) :
    l.bucket = m.bucket ∧
      (l.path = m.path ∨ IsBareFormOf l.path m.path ∨ IsBareFormOf m.path l.path) := by
  have read := congrArg ofLink? same
  rw [ofLink?_consoleUrl plain, ofLink?_consoleUrl plain'] at read
  obtain ⟨bucket, parts⟩ := Prod.mk.inj (Option.some.inj read)
  have divides := l.divides_folderAndName
  rw [parts] at divides
  exact ⟨bucket, eq_of_divides divides m.divides_folderAndName⟩

theorem consoleUrl_of_isBareFormOf {l m : SourceLocation} (bucket : l.bucket = m.bucket)
    (bare : IsBareFormOf l.path m.path) : l.consoleUrl = m.consoleUrl := by
  have parts : l.folderAndName = m.folderAndName := by
    rw [folderAndName_eq (.bare rfl rfl bare.1), folderAndName_eq bare.divides]
  rw [← String.toList_inj, toList_consoleUrl, toList_consoleUrl, bucket, parts]

/-- Buckets have no slash in their names. Links of two sources are the same only if the sources are,
but for a slash in front of a bare name; and a link is read as the bucket, the folder and the name of
its source. -/
theorem consoleUrl_tellsSource {l m : SourceLocation} (plain : '/' ∉ l.bucket.toList)
    (plain' : '/' ∉ m.bucket.toList) :
    (l.consoleUrl = m.consoleUrl ↔ l.bucket = m.bucket ∧
      (l.path = m.path ∨ IsBareFormOf l.path m.path ∨ IsBareFormOf m.path l.path)) ∧
    ∃ folder name, Divides l.path folder name ∧
      ofLink? l.consoleUrl = some (l.bucket, folder, name) := by
  refine ⟨⟨eq_of_consoleUrl_eq plain plain', ?_⟩,
    l.folderAndName.1, l.folderAndName.2, l.divides_folderAndName, ofLink?_consoleUrl plain⟩
  rintro ⟨bucket, path | bare | bare⟩
  · obtain ⟨b, p⟩ := l
    obtain ⟨b', p'⟩ := m
    obtain ⟨rfl, rfl⟩ : b = b' ∧ p = p' := ⟨bucket, path⟩
    rfl
  · exact consoleUrl_of_isBareFormOf bucket bare
  · exact (consoleUrl_of_isBareFormOf bucket.symm bare).symm

/-- The link of a path that has the words of a link in it, and two paths with one link. -/
theorem consoleUrl_of_hostile_paths :
    let hostile : SourceLocation := ⟨"uploads", "a//?tab=overview&prefixSearch=&region=eu-west-1"⟩
    let bare : SourceLocation := ⟨"uploads", "?&region=eu-west-1"⟩
    let rooted : SourceLocation := ⟨"uploads", "/?&region=eu-west-1"⟩
    '/' ∉ "uploads".toList ∧
      ofLink? hostile.consoleUrl =
        some ("uploads", "a/", "?tab=overview&prefixSearch=&region=eu-west-1") ∧
      bare.consoleUrl = rooted.consoleUrl ∧ hostile.consoleUrl ≠ rooted.consoleUrl := by
  intro hostile bare rooted
  have plain : '/' ∉ "uploads".toList := by decide
  obtain ⟨apart, folder, name, divides, read⟩ :=
    consoleUrl_tellsSource (l := hostile) (m := rooted) plain plain
  have parts := folderAndName_eq divides
  have known : hostile.folderAndName = ("a/", "?tab=overview&prefixSearch=&region=eu-west-1") :=
    folderAndName_eq (.apart (by decide) (by decide))
  rw [known] at parts
  cases parts
  have together := (consoleUrl_tellsSource (l := bare) (m := rooted) plain plain).1
  refine ⟨plain, read, together.mpr ⟨rfl, .inr (.inl ⟨by decide, by decide⟩)⟩, fun same => ?_⟩
  obtain ⟨-, path | ⟨slashless, -⟩ | ⟨slashless, -⟩⟩ := apart.mp same
  · exact absurd path (by decide)
  · exact absurd slashless (by decide)
  · exact absurd slashless (by decide)

end SourceLocation

end IngestViewer
