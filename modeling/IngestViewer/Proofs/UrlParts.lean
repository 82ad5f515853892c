import IngestViewer.Proofs.WebUrl

namespace IngestViewer.Url

open PercentEncoding

/-- The parts that a text has as a URL with the rules of the web, as they are written. -/
structure Parts where
  scheme : String
  authority : String
  path : List String
  query : Option String
  fragment : Option String
deriving DecidableEq, Repr

/-- Cuts a text into its parts where a reader does. -/
def parts? (text : String) : Option Parts := do
  let (scheme, rest) ← readScheme text.toList
  let rest := rest.dropWhile isSlash
  let authority := rest.takeWhile (!endsAuthority true ·)
  let (path, query, fragment) := cutQuery (rest.dropWhile (!endsAuthority true ·))
  return ⟨scheme, String.ofList authority, readSegments true (path.drop 1),
    query.map String.ofList, fragment.map String.ofList⟩

theorem toList_pathText (ss : List String) :
    (UrlPath.segments ss).text.toList = ss.flatMap fun s => '/' :: s.toList := by
  rw [UrlPath.text, String.toList_join, List.flatMap_map]
  simp

theorem segments_joined (s : String) (ss : List String) (single : ∀ t ∈ s :: ss, '/' ∉ t.toList) :
    IngestViewer.segments '/' (s.toList ++ ss.flatMap fun t => '/' :: t.toList) =
      (s :: ss).map String.toList := by
  induction ss generalizing s with
  | nil => simpa using segments_of_absent (single s List.mem_cons_self)
  | cons t ss ih =>
    have here := segments_of_absent (single s List.mem_cons_self)
    have rest := ih t fun x inside => single x (List.mem_cons_of_mem _ inside)
    rw [List.flatMap_cons, List.cons_append, segments_append_sep, here, rest]
    rfl

theorem walkSegments_of_isSegment {done ss : List String} (sound : ∀ s ∈ ss, IsSegment s) :
    walkSegments (fun done s => done ++ [s]) done ss = done ++ ss := by
  induction ss generalizing done with
  | nil => simp [walkSegments]
  | cons s ss ih =>
    obtain ⟨dot, doubleDot⟩ := (sound s List.mem_cons_self).stays
    have rest := @ih (done ++ [s]) fun t inside => sound t (List.mem_cons_of_mem _ inside)
    unfold walkSegments
    dsimp only
    rw [doubleDot, dot, if_neg (by simp), if_neg (by simp), rest]
    simp

theorem readSegments_joined {s : String} {ss : List String} (sound : ∀ t ∈ s :: ss, IsSegment t) :
    readSegments true (s.toList ++ ss.flatMap fun t => '/' :: t.toList) = s :: ss := by
  have single : ∀ t ∈ s :: ss, '/' ∉ t.toList := fun t inside slash =>
    (sound t inside).single _ slash (by simp)
  have noBackslash : ∀ c ∈ s.toList ++ ss.flatMap (fun t => '/' :: t.toList),
      (if c == '\\' then '/' else c) = c := by
    intro c inside
    have other : c ≠ '\\' := by
      rintro rfl
      obtain first | later := List.mem_append.mp inside
      · exact (sound s List.mem_cons_self).single _ first (by simp)
      · obtain ⟨t, among, part⟩ := List.mem_flatMap.mp later
        obtain slash | part := List.mem_cons.mp part
        · exact absurd slash (by decide)
        · exact (sound t (List.mem_cons_of_mem _ among)).single _ part (by simp)
    simp [other]
  have written : ∀ t ∈ s :: ss, String.ofList (encode inPath t.toList) = t := by
    intro t inside
    rw [encode_of_stands (sound t inside).stands, String.ofList_toList]
  have cut : cutSegments true (s.toList ++ ss.flatMap fun t => '/' :: t.toList) = s :: ss := by
    rw [cutSegments, if_pos rfl, List.map_congr_left noBackslash, List.map_id',
      segments_joined s ss single, List.map_map]
    exact (List.map_congr_left written).trans (List.map_id' _)
  rw [readSegments, cut, walkSegments_of_isSegment sound, List.nil_append]

theorem cutQuery_queryText {u : Url} {path : List Char} (noQuery : '?' ∉ path)
    (noFragment : '#' ∉ path) (plain : ∀ q, u.query = some q → '#' ∉ q.toList) :
    cutQuery (path ++ u.queryText.toList) = (path, u.query.map String.toList, none) := by
  cases query : u.query with
  | none =>
    have text : u.queryText = "" := by rw [queryText, query]
    simp [text, cutQuery, cutFirst_of_absent noQuery, cutFirst_of_absent noFragment]
  | some q =>
    have text : u.queryText.toList = '?' :: q.toList := by
      rw [queryText, query]
      simp
    have whole : '#' ∉ path ++ '?' :: q.toList := by simp [noFragment, plain q query]
    simp [text, cutQuery, cutFirst_of_absent whole, cutFirst_append noQuery]

theorem readScheme_of_web {scheme : String} (web : scheme = "http" ∨ scheme = "https")
    (rest : List Char) : readScheme (scheme.toList ++ ':' :: rest) = some (scheme, rest) := by
  obtain rfl | rfl := web
  · have cut := cutFirst_append (show ':' ∉ "http".toList by decide) rest
    rw [readScheme, cut]
    rfl
  · have cut := cutFirst_append (show ':' ∉ "https".toList by decide) rest
    rw [readScheme, cut]
    rfl

/-- An authority as it is written behind its slashes. -/
def authorityChars (u : Url) (host : String) : List Char :=
  (match u.credentials with
    | some c => c.toList ++ ['@']
    | none => []) ++ host.toList ++
    match u.portNumber with
    | some p => ':' :: Nat.toDigits 10 p
    | none => []

theorem authorityText_eq {u : Url} {host : String} (given : u.host = some host) :
    u.authorityText = "//" ++ String.ofList (authorityChars u host) := by
  apply String.toList_injective
  rw [authorityText, given]
  cases credentials : u.credentials <;> cases port : u.portNumber <;>
    simp [authorityChars, credentials, port]

theorem IsWeb.authority_stays {u : Url} {ss : List String} (h : u.IsWeb ss) {host : String}
    (given : u.host = some host) :
    authorityChars u host ≠ [] ∧ ∀ c ∈ authorityChars u host, endsAuthority true c = false := by
  obtain ⟨host', given', something, written⟩ := h.host
  obtain rfl : host = host' := Option.some.inj (given.symm.trans given')
  refine ⟨by simp [authorityChars, something], fun c inside => ?_⟩
  simp only [authorityChars, List.mem_append] at inside
  obtain (user | name) | port := inside
  · split at user
    next t given =>
      obtain part | mark := List.mem_append.mp user
      · exact h.credentials t given c part
      · exact List.mem_singleton.mp mark ▸ by decide
    · cases user
  · exact endsAuthority_of_isWritten (written c name)
  · split at port
    next p _ =>
      obtain rfl | digit := List.mem_cons.mp port
      · decide
      · exact endsAuthority_of_isWritten
          (Host.isWritten_of_mem_toDigits (by omega) (by omega) c digit)
    · cases port

theorem dropWhile_isSlash_append {authority : List Char} (rest : List Char)
    (something : authority ≠ []) (inside : ∀ c ∈ authority, endsAuthority true c = false) :
    ('/' :: '/' :: (authority ++ rest)).dropWhile isSlash = authority ++ rest := by
  obtain ⟨c, cs, rfl⟩ := List.exists_cons_of_ne_nil something
  have other := endsAuthority_eq_false.mp (inside c List.mem_cons_self)
  simp only [List.mem_cons, not_or] at other
  have slash : isSlash '/' = true := rfl
  have notSlash : ¬isSlash c = true := by simp [isSlash, other.1, other.2.1]
  rw [List.dropWhile_cons_of_pos slash, List.dropWhile_cons_of_pos slash, List.cons_append,
    List.dropWhile_cons_of_neg notSlash]

theorem not_mem_pathText {ss : List String} (sound : ∀ s ∈ ss, IsSegment s) :
    '?' ∉ (UrlPath.segments ss).text.toList ∧ '#' ∉ (UrlPath.segments ss).text.toList := by
  have apart : ∀ c ∈ (UrlPath.segments ss).text.toList, c ≠ '?' ∧ c ≠ '#' := by
    intro c inside
    rw [toList_pathText] at inside
    obtain ⟨s, among, part⟩ := List.mem_flatMap.mp inside
    obtain rfl | part := List.mem_cons.mp part
    · decide
    · have single := (sound s among).single c part
      simp only [List.mem_cons, not_or] at single
      exact ⟨single.2.2.1, single.2.2.2.1⟩
  exact ⟨fun inside => (apart _ inside).1 rfl, fun inside => (apart _ inside).2 rfl⟩

/-- The text that is sent is read as the parts that it has been made of. Nothing of them is read as
a part of another. -/
theorem IsWeb.parts?_requestText {u : Url} {ss : List String} (h : u.IsWeb ss) {host : String}
    (given : u.host = some host) : parts? u.requestText =
      some ⟨u.scheme, String.ofList (authorityChars u host), ss, u.query, none⟩ := by
  obtain ⟨something, inside⟩ := h.authority_stays given
  obtain ⟨s, others, rfl⟩ := List.exists_cons_of_ne_nil h.nonempty
  have text : u.requestText.toList = u.scheme.toList ++ ':' :: ('/' :: '/' ::
      (authorityChars u host ++ (u.path.text.toList ++ u.queryText.toList))) := by
    rw [requestText, authorityText_eq given]
    simp
  have path : u.path.text.toList =
      '/' :: (s.toList ++ others.flatMap fun t => '/' :: t.toList) := by
    rw [h.path, toList_pathText, List.flatMap_cons, List.cons_append]
  have read := readSegments_joined h.segments
  obtain ⟨noQuery, noFragment⟩ := not_mem_pathText h.segments
  rw [← h.path] at noQuery noFragment
  have cut := cutQuery_queryText noQuery noFragment h.query
  -- The path is not empty, so its first slash ends the authority.
  have taken : (authorityChars u host ++ (u.path.text.toList ++ u.queryText.toList)).takeWhile
      (!endsAuthority true ·) = authorityChars u host := by
    rw [List.takeWhile_append_of_pos (by simpa using inside), path]
    simp [endsAuthority]
  have dropped : (authorityChars u host ++ (u.path.text.toList ++ u.queryText.toList)).dropWhile
      (!endsAuthority true ·) = u.path.text.toList ++ u.queryText.toList := by
    rw [List.dropWhile_append_of_pos (by simpa using inside), path]
    simp [endsAuthority]
  rw [parts?, text, readScheme_of_web h.scheme]
  simp only [Option.bind_eq_bind, Option.bind_some, dropWhile_isSlash_append _ something inside,
    taken, dropped, cut]
  rw [path, List.drop_succ_cons, List.drop_zero, read]
  cases u.query <;> simp

end IngestViewer.Url
