import IngestViewer.Proofs.EncodedText
import IngestViewer.Proofs.HostText
import IngestViewer.UrlReader

namespace IngestViewer.Url

open PercentEncoding

/-- A segment of a path as it is written: it is read as one segment, and as this one. -/
structure IsSegment (s : String) : Prop where
  stands : ∀ c ∈ s.toList, Stands inPath c
  single : ∀ c ∈ s.toList, c ∉ ['/', '\\', '?', '#']
  stays : isDot s = false ∧ isDoubleDot s = false

theorem isSegment_empty : IsSegment "" where
  stands := by simp
  single := by simp
  stays := by decide +kernel

/-- A URL with the rules of the web, none of whose parts reaches into another one when it is
written. -/
structure IsWeb (u : Url) (ss : List String) : Prop where
  scheme : u.scheme = "http" ∨ u.scheme = "https"
  credentials : ∀ t, u.credentials = some t → ∀ c ∈ t.toList, endsAuthority true c = false
  host : ∃ host, u.host = some host ∧ host ≠ "" ∧ ∀ c ∈ host.toList, Host.IsWritten c
  path : u.path = .segments ss
  nonempty : ss ≠ []
  segments : ∀ s ∈ ss, IsSegment s
  query : ∀ q, u.query = some q → '#' ∉ q.toList

theorem endsAuthority_eq_false {c : Char} :
    endsAuthority true c = false ↔ c ∉ ['/', '\\', '?', '#'] := by
  simp only [endsAuthority, Bool.true_and, Bool.or_eq_false_iff, beq_eq_false_iff_ne, ne_eq,
    List.mem_cons, List.not_mem_nil, or_false, not_or]
  exact ⟨fun ⟨⟨⟨slash, question⟩, hash⟩, back⟩ => ⟨slash, back, question, hash⟩,
    fun ⟨slash, back, question, hash⟩ => ⟨⟨⟨slash, question⟩, hash⟩, back⟩⟩

/-- A character ends no authority if it stands where those that do are taken out. -/
theorem apart_of_taken {p : Char → Bool} {c : Char} (taken : ['/', '\\', '?', '#'].all p = true)
    (plain : p c = false) : c ∉ ['/', '\\', '?', '#'] := by
  intro ends
  rw [List.all_eq_true.mp taken c ends] at plain
  cases plain

theorem endsAuthority_of_isWritten {c : Char} (h : Host.IsWritten c) :
    endsAuthority true c = false := by
  obtain plain | rfl | rfl | rfl := h
  · exact endsAuthority_eq_false.mpr (apart_of_taken (by decide) plain)
  · decide
  · decide
  · decide

theorem endsAuthority_of_mem_codeChars {c : Char} (h : c ∈ codeChars) :
    endsAuthority true c = false :=
  eq_false_of_any (by decide) c h

theorem credentials_of_credentialsText {cs : List Char} {t : String}
    (h : credentialsText cs = some t) : ∀ c ∈ t.toList, endsAuthority true c = false := by
  have encoded : ∀ part, ∀ c ∈ encode inCredentials part, endsAuthority true c = false := by
    intro part c inside
    obtain code | ⟨-, stands⟩ := mem_encode inside
    · exact endsAuthority_of_mem_codeChars code
    · exact endsAuthority_eq_false.mpr (apart_of_taken (by decide) stands.2.2)
  intro c inside
  unfold credentialsText at h
  dsimp only at h
  split at h
  · cases h
  · cases h
    rw [String.toList_ofList, List.mem_append] at inside
    obtain user | rest := inside
    · exact encoded _ c user
    · split at rest
      · cases rest
      · obtain rfl | password := List.mem_cons.mp rest
        · decide
        · exact encoded _ c password

theorem parts_of_readAuthority {scheme : String} {cs after left : List Char} {a : Authority}
    (h : readAuthority scheme true cs after = .ok (a, left)) :
    (∀ t, a.credentials = some t → ∀ c ∈ t.toList, endsAuthority true c = false) ∧
      a.host ≠ "" ∧ ∀ c ∈ a.host.toList, Host.IsWritten c := by
  unfold readAuthority at h
  split at h
  next credentials rest ahead =>
    have sound : ∀ t, credentials = some t → ∀ c ∈ t.toList, endsAuthority true c = false := by
      intro t given
      subst given
      split at ahead
      · exact credentials_of_credentialsText (congrArg Prod.fst ahead)
      · cases ahead
    dsimp only at h
    split at h
    · cases h
    · rw [if_pos rfl] at h
      cases named : Host.ofSpecial (cutPortNumber false rest).1 with
      | error e =>
        rw [named] at h
        cases h
      | ok host =>
        obtain ⟨something, written⟩ := Host.isWritten_of_ofSpecial named
        rw [named] at h
        have kept : String.ofList host ≠ "" ∧
            ∀ c ∈ (String.ofList host).toList, Host.IsWritten c := by
          rw [String.toList_ofList]
          exact ⟨by simpa using something, written⟩
        dsimp only [bind, Except.bind] at h
        split at h
        · split at h
          · cases h
          · cases h
            exact ⟨sound, kept⟩
        · cases h
          exact ⟨sound, kept⟩

/-- What is encoded is a segment if nothing that stands divides a path and it is no dots. -/
theorem isSegment_of_encode {special : Char → Bool} {cs : List Char}
    (fewer : ∀ x, special x = false → inPath x = false)
    (apart : ∀ c ∈ cs, Stands special c → c ∉ ['/', '\\', '?', '#'])
    (stays : isDot (String.ofList (encode special cs)) = false ∧
      isDoubleDot (String.ofList (encode special cs)) = false) :
    IsSegment (String.ofList (encode special cs)) := by
  refine ⟨fun c inside => ?_, fun c inside => ?_, stays⟩
  · rw [String.toList_ofList] at inside
    exact stands_of_mem_encode (eq_false_of_any (by decide)) fewer inside
  · rw [String.toList_ofList] at inside
    obtain code | ⟨there, stands⟩ := mem_encode inside
    · exact endsAuthority_eq_false.mp (endsAuthority_of_mem_codeChars code)
    · exact apart c there stands

theorem isSegment_of_mem_cutSegments {cs : List Char} {s : String} (h : s ∈ cutSegments true cs)
    (dot : isDot s = false) (doubleDot : isDoubleDot s = false) : IsSegment s := by
  obtain ⟨piece, among, rfl⟩ := List.mem_map.mp h
  have noSlash : '/' ∉ piece := not_mem_of_mem_segments among
  have noBackslash : '\\' ∉ piece := by
    intro inside
    obtain ⟨c, -, same⟩ := List.mem_map.mp (mem_of_mem_segments among inside)
    split at same
    · simp at same
    next other => simp [same] at other
  refine isSegment_of_encode (fun _ plain => plain) (fun c there stands ends => ?_)
    ⟨dot, doubleDot⟩
  simp only [List.mem_cons, List.not_mem_nil, or_false] at ends
  obtain rfl | rfl | rfl | rfl := ends
  · exact noSlash there
  · exact noBackslash there
  · exact absurd stands.2.2 (by decide)
  · exact absurd stands.2.2 (by decide)

/-- Dots lead among the segments that are done, so all that is entered is a segment. -/
theorem isSegment_of_mem_walkSegments {done rest : List String}
    (sound : ∀ s ∈ done, IsSegment s)
    (written : ∀ s ∈ rest, isDot s = false → isDoubleDot s = false → IsSegment s) :
    ∀ s ∈ walkSegments (fun done s => done ++ [s]) done rest, IsSegment s := by
  induction rest generalizing done with
  | nil => exact sound
  | cons s rest ih =>
    have later : ∀ t ∈ rest, isDot t = false → isDoubleDot t = false → IsSegment t :=
      fun t inside => written t (List.mem_cons_of_mem _ inside)
    have ending : ∀ t ∈ (if rest.isEmpty then [""] else []), IsSegment t := by
      intro t inside
      split at inside
      · exact List.mem_singleton.mp inside ▸ isSegment_empty
      · cases inside
    have kept : ∀ t ∈ goBack done, IsSegment t := by
      intro t inside
      unfold goBack at inside
      split at inside
      · exact sound t inside
      · exact sound t ((List.dropLast_sublist done).subset inside)
    unfold walkSegments
    dsimp only
    split
    · exact ih (List.forall_mem_append.mpr ⟨kept, ending⟩) later
    next single =>
      split
      · exact ih (List.forall_mem_append.mpr ⟨sound, ending⟩) later
      next dot =>
        have entered := written s List.mem_cons_self (by simpa using dot) (by simpa using single)
        refine ih (List.forall_mem_append.mpr ⟨sound, fun t inside => ?_⟩) later
        exact List.mem_singleton.mp inside ▸ entered

theorem isSegment_of_mem_readSegments {cs : List Char} :
    ∀ s ∈ readSegments true cs, IsSegment s :=
  isSegment_of_mem_walkSegments (by simp) fun _ inside => isSegment_of_mem_cutSegments inside

theorem walkSegments_ne_nil (done rest : List String) (some : done ≠ [] ∨ rest ≠ []) :
    walkSegments (fun done s => done ++ [s]) done rest ≠ [] := by
  induction rest generalizing done with
  | nil => simpa [walkSegments] using some
  | cons s rest ih =>
    unfold walkSegments
    dsimp only
    split
    · apply ih
      by_cases last : rest = [] <;> simp [last]
    · split
      · apply ih
        by_cases last : rest = [] <;> simp [last]
      · exact ih _ (.inl (by simp))

theorem readSegments_ne_nil (cs : List Char) : readSegments true cs ≠ [] := by
  apply walkSegments_ne_nil
  right
  intro none
  exact segments_ne_nil _ _ (List.map_eq_nil_iff.mp none)

/-- What is read behind two slashes is a URL with the rules of the web, apart from the scheme. -/
theorem parts_of_readHierarchy {scheme : String} {cs : List Char} {u : Url}
    (web : scheme = "http" ∨ scheme = "https") (h : readHierarchy scheme true cs = .ok u) :
    ∃ ss, u.IsWeb ss := by
  unfold readHierarchy at h
  cases read : readAuthority scheme true (cs.takeWhile (!endsAuthority true ·))
      (cs.dropWhile (!endsAuthority true ·)) with
  | error e =>
    rw [read] at h
    cases h
  | ok result =>
    obtain ⟨authority, rest⟩ := result
    obtain ⟨credentials, something, written⟩ := parts_of_readAuthority read
    rw [read] at h
    dsimp only [bind, Except.bind] at h
    cases h
    refine ⟨_, web, credentials, ⟨_, rfl, something, written⟩, rfl, ?_, ?_, ?_⟩
    · split
      · simp
      · exact readSegments_ne_nil _
    · split
      · intro s inside
        exact List.mem_singleton.mp inside ▸ isSegment_empty
      · exact isSegment_of_mem_readSegments
    · intro q given
      obtain ⟨cs, -, rfl⟩ := Option.map_eq_some_iff.mp given
      intro inside
      rw [String.toList_ofList] at inside
      obtain code | ⟨-, stands⟩ := mem_encode inside
      · exact absurd code (by decide)
      · exact absurd stands.2.2 (by decide)

theorem scheme_of_readHierarchy {scheme : String} {special : Bool} {cs : List Char} {u : Url}
    (h : readHierarchy scheme special cs = .ok u) : u.scheme = scheme := by
  unfold readHierarchy at h
  cases read : readAuthority scheme special (cs.takeWhile (!endsAuthority special ·))
      (cs.dropWhile (!endsAuthority special ·)) with
  | error e =>
    rw [read] at h
    cases h
  | ok result =>
    rw [read] at h
    cases h
    rfl

theorem scheme_of_readPlain {scheme : String} {cs : List Char} {u : Url}
    (h : readPlain scheme cs = .ok u) : u.scheme = scheme := by
  unfold readPlain at h
  split at h
  · exact scheme_of_readHierarchy h
  · cases h
    rfl

theorem scheme_of_readFileHost {cs : List Char} {u : Url} (h : readFileHost cs = .ok u) :
    u.scheme = "file" := by
  unfold readFileHost at h
  dsimp only [bind, Except.bind] at h
  split at h
  · cases h
    rfl
  · split at h
    · cases h
      rfl
    · split at h
      · cases h
      · cases h
        rfl

theorem scheme_of_readFile {cs : List Char} {u : Url} (h : readFile cs = .ok u) :
    u.scheme = "file" := by
  unfold readFile at h
  dsimp only [bind, Except.bind] at h
  split at h
  · split at h
    · cases h
    next read =>
      have file := scheme_of_readFileHost read
      cases h
      exact file
  · cases h
    rfl

theorem isWeb_of_parse {text : String} {u : Url} (h : parse text = .ok u)
    (web : u.scheme = "http" ∨ u.scheme = "https") : ∃ ss, u.IsWeb ss := by
  unfold parse at h
  dsimp only at h
  split at h
  · cases h
  next scheme rest _ =>
    split at h
    · rw [scheme_of_readFile h] at web
      exact absurd web (by decide)
    · split at h
      · exact parts_of_readHierarchy (scheme_of_readHierarchy h ▸ web) h
      next plain =>
        have same := scheme_of_readPlain h
        rw [same] at web
        obtain rfl | rfl := web
        · exact absurd (by decide) plain
        · exact absurd (by decide) plain

end IngestViewer.Url
