import IngestViewer.Proofs.MemberUrl
import IngestViewer.Proofs.Trimming

namespace IngestViewer

namespace Url

open PercentEncoding

/-- Whether a name is one dot or two where ignored characters are left out. -/
def IsDots (name : String) : Prop := noticed name ∈ [['.'], ['.', '.']]

instance (name : String) : Decidable (IsDots name) :=
  inferInstanceAs (Decidable (noticed name ∈ [['.'], ['.', '.']]))

/-- A name that is noticed as it is and is no dots. -/
structure IsPlain (name : String) : Prop where
  noticed_eq : noticed name = name.toList
  noDots : ¬IsDots name

/-- The segments that a name is put behind. -/
def frontOf (ss : List String) : List String :=
  if keptOf ss = [""] then [] else keptOf ss

/-- Where dots lead. Dots that are seen at once lead nowhere. -/
def dotsPath (ss : List String) (name : String) : List String :=
  if name = "." ∨ name = ".." then dropEmptyEnd ss
  else if noticed name = ['.', '.'] then goBack (keptOf ss) ++ [""]
  else frontOf ss ++ [""]

/-- Whether two names lead to the same place. -/
def Meet (ss : List String) (name name' : String) : Prop :=
  (¬IsDots name ∧ noticed name = noticed name') ∨
    (IsDots name ∧ IsDots name' ∧ dotsPath ss name = dotsPath ss name')

variable {ss : List String} {name name' : String}

theorem isDots_of_seen (seen : name = "." ∨ name = "..") : IsDots name := by
  obtain rfl | rfl := seen
  · decide
  · decide

theorem pushSegment_of_isDots (ss : List String) (dots : IsDots name) :
    pushSegment true (dropEmptyEnd ss) name = dotsPath ss name := by
  rw [pushSegment_eq, dotsPath, frontOf]
  split
  · rfl
  · split
    · rfl
    next other =>
      have dot : noticed name = ['.'] := by simpa [IsDots, other] using dots
      rw [if_pos dot]

theorem pushSegment_of_not_isDots (ss : List String) (noDots : ¬IsDots name) :
    pushSegment true (dropEmptyEnd ss) name =
      frontOf ss ++ [String.ofList (encode inSpecialSegment (noticed name))] := by
  have dot : noticed name ≠ ['.'] := fun h => noDots (by simp [IsDots, h])
  have doubleDot : noticed name ≠ ['.', '.'] := fun h => noDots (by simp [IsDots, h])
  rw [pushSegment_eq, if_neg (mt isDots_of_seen noDots), if_neg doubleDot, if_neg dot, frontOf]

/-- Only an empty segment is put behind others so that they are the whole path again. -/
theorem eq_empty_of_append {s : String} (h : frontOf ss ++ [s] = dropEmptyEnd ss) : s = "" := by
  by_cases root : ss = [""]
  · subst root
    exact (List.cons.inj (show [s] = [""] from h)).1
  · rw [dropEmptyEnd_eq root, frontOf] at h
    split at h
    next kept =>
      rw [kept] at h
      exact (List.cons.inj h).1
    next =>
      have long := congrArg List.length h
      simp at long

theorem eq_empty_of_append_self {s : String} (h : frontOf ss ++ [s] = ss) : s = "" := by
  by_cases last : ss.getLast? = some ""
  · have same := congrArg List.getLast? h
    rw [List.getLast?_concat, last] at same
    exact Option.some.inj same
  · have kept : keptOf ss = ss := if_neg last
    rw [frontOf, kept] at h
    split at h
    next root => exact absurd (root ▸ rfl) last
    next =>
      have long := congrArg List.length h
      simp at long

/-- Dots lead to no segment that has a text. -/
theorem eq_empty_of_dotsPath {s : String} (h : frontOf ss ++ [s] = dotsPath ss name) : s = "" := by
  rw [dotsPath] at h
  split at h
  · exact eq_empty_of_append h
  · split at h
    · exact List.singleton_inj.mp (List.append_inj_right' h rfl)
    · exact List.singleton_inj.mp (List.append_inj_right' h rfl)

theorem encoded_inj {cs ds : List Char} :
    String.ofList (encode inSpecialSegment cs) = String.ofList (encode inSpecialSegment ds) ↔
      cs = ds := by
  constructor
  · intro same
    have bytes := congrArg decode (String.ofList_injective same)
    rw [decode_encode rfl, decode_encode rfl] at bytes
    exact eq_of_bytes bytes
  · exact fun same => same ▸ rfl

theorem encoded_ne_empty {cs : List Char} (something : cs ≠ []) :
    String.ofList (encode inSpecialSegment cs) ≠ "" := by
  intro empty
  have nothing : encode inSpecialSegment cs = [] := String.ofList_injective empty
  exact something ((encode_eq_nil rfl).mp nothing)

theorem dotsPath_ne_encoded (ss : List String) (name : String) {cs : List Char}
    (something : cs ≠ []) :
    dotsPath ss name ≠ frontOf ss ++ [String.ofList (encode inSpecialSegment cs)] :=
  fun same => encoded_ne_empty something (eq_empty_of_dotsPath same.symm)

theorem noticed_ne_of_isDots (dots : IsDots name) (noDots : ¬IsDots name') :
    noticed name ≠ noticed name' :=
  fun same => noDots (by rwa [IsDots, ← same])

/-- Two names that something is noticed of lead to one path if they meet, and to two if they do
not. -/
theorem pushSegment_eq_iff (something : noticed name ≠ []) (something' : noticed name' ≠ []) :
    pushSegment true (dropEmptyEnd ss) name = pushSegment true (dropEmptyEnd ss) name' ↔
      Meet ss name name' := by
  by_cases dots : IsDots name
  · by_cases dots' : IsDots name'
    · rw [pushSegment_of_isDots ss dots, pushSegment_of_isDots ss dots']
      simp [Meet, dots, dots']
    · rw [pushSegment_of_isDots ss dots, pushSegment_of_not_isDots ss dots']
      have apart := dotsPath_ne_encoded ss name something'
      simp [Meet, dots, dots', noticed_ne_of_isDots dots dots', apart]
  · by_cases dots' : IsDots name'
    · rw [pushSegment_of_not_isDots ss dots, pushSegment_of_isDots ss dots']
      have apart := (dotsPath_ne_encoded ss name' something).symm
      simp [Meet, dots, (noticed_ne_of_isDots dots' dots).symm, apart]
    · rw [pushSegment_of_not_isDots ss dots, pushSegment_of_not_isDots ss dots']
      simp only [Meet, dots, List.append_cancel_left_eq, List.singleton_inj, encoded_inj]
      simp

theorem IsWeb.member?_eq {base : Url} (h : base.IsWeb ss) (name : String) :
    base.member? name =
        some { base with path := .segments (pushSegment true (dropEmptyEnd ss) name) } ∧
      IsWeb { base with path := .segments (pushSegment true (dropEmptyEnd ss) name) }
        (pushSegment true (dropEmptyEnd ss) name) := by
  obtain ⟨path, -, made, web⟩ := h.member? name
  have direct : base.member? name =
      some { base with path := .segments (pushSegment true (dropEmptyEnd ss) name) } := by
    rw [Url.member?, h.path, h.special]
  have same : UrlPath.segments path = .segments (pushSegment true (dropEmptyEnd ss) name) :=
    congrArg Url.path (Option.some.inj (made.symm.trans direct))
  exact ⟨direct, UrlPath.segments.inj same ▸ web⟩

/-- Only one path is read from a text that is sent. -/
theorem IsWeb.requestText_eq_iff {u v : Url} {ss ts : List String} (hu : u.IsWeb ss)
    (hv : v.IsWeb ts) (others : v = { u with path := v.path }) :
    u.requestText = v.requestText ↔ ss = ts := by
  constructor
  · intro same
    obtain ⟨host, given, -⟩ := hu.host
    obtain ⟨host', given', -⟩ := hv.host
    have read := hu.parts?_requestText given
    rw [same, hv.parts?_requestText given'] at read
    exact (congrArg Parts.path (Option.some.inj read)).symm
  · intro same
    rw [others, hv.path, ← same, ← hu.path]

/-- The collection itself, with or without a slash at its end. -/
def IsCollection (ss path : List String) : Prop :=
  path = ss ∨ path = dropEmptyEnd ss ∨ path = frontOf ss ++ [""]

/-- Whether the one segment behind those of a collection says a name. -/
def Says (ss : List String) (name : String) (path : List String) : Prop :=
  ∃ s, path = frontOf ss ++ [s] ∧ decode s.toList = Utf8.bytes name

/-- What a name leads to, beside the segments of a collection. -/
structure LeadsTo (ss : List String) (name : String) (path : List String) : Prop where
  dots : IsDots name → path = dotsPath ss name
  /-- A name that is no dots is said as far as it is noticed. -/
  named : ¬IsDots name → Says ss (String.ofList (noticed name)) path
  said : Says ss name path ↔ IsPlain name
  apart : ¬IsDots name → ¬IsCollection ss path

theorem says_noticed (ss : List String) (noDots : ¬IsDots name) :
    Says ss (String.ofList (noticed name)) (pushSegment true (dropEmptyEnd ss) name) := by
  refine ⟨_, pushSegment_of_not_isDots ss noDots, ?_⟩
  rw [String.toList_ofList, decode_encode rfl, Utf8.bytes_eq, String.toList_ofList]

/-- Nothing but the last segment can say a name, and it says one name only. -/
theorem Says.name_eq {path : List String} (h : Says ss name path) (h' : Says ss name' path) :
    name = name' := by
  obtain ⟨s, rfl, said⟩ := h
  obtain ⟨s', same, said'⟩ := h'
  obtain rfl := List.singleton_inj.mp (List.append_cancel_left same)
  have bytes := said.symm.trans said'
  rw [Utf8.bytes_eq, Utf8.bytes_eq] at bytes
  exact String.toList_injective (eq_of_bytes bytes)

theorem says_iff_isPlain (something : noticed name ≠ []) :
    Says ss name (pushSegment true (dropEmptyEnd ss) name) ↔ IsPlain name := by
  by_cases dots : IsDots name
  · rw [pushSegment_of_isDots ss dots]
    refine ⟨?_, fun plain => absurd dots plain.noDots⟩
    rintro ⟨s, same, said⟩
    obtain rfl := eq_empty_of_dotsPath same.symm
    rw [Utf8.bytes_eq] at said
    have nothing : [] = name.toList := eq_of_bytes said
    exact absurd (by rw [noticed, ← nothing]; rfl) something
  · constructor
    · intro said
      have whole := congrArg String.toList (said.name_eq (says_noticed ss dots))
      rw [String.toList_ofList] at whole
      exact ⟨whole.symm, dots⟩
    · intro plain
      have said := says_noticed ss dots
      rwa [plain.noticed_eq, String.ofList_toList] at said

theorem leadsTo (ss : List String) (something : noticed name ≠ []) :
    LeadsTo ss name (pushSegment true (dropEmptyEnd ss) name) where
  dots := pushSegment_of_isDots ss
  named := says_noticed ss
  said := says_iff_isPlain something
  apart := by
    intro noDots collection
    rw [pushSegment_of_not_isDots ss noDots] at collection
    refine encoded_ne_empty something ?_
    obtain self | front | slash := collection
    · exact eq_empty_of_append_self self
    · exact eq_empty_of_append front
    · exact List.singleton_inj.mp (List.append_cancel_left slash)

/-- What is noticed of two plain names is what they are. -/
theorem not_meet_of_isPlain (plain : IsPlain name) (plain' : IsPlain name') (other : name ≠ name') :
    ¬Meet ss name name' := by
  rintro (⟨-, same⟩ | ⟨dots, -⟩)
  · rw [plain.noticed_eq, plain'.noticed_eq] at same
    exact other (String.toList_injective same)
  · exact plain.noDots dots

end Url

theorem isBlank_of_isIgnored {c : Char} (h : Url.isIgnored c = true) : isBlank c = true := by
  simp only [Url.isIgnored, Bool.or_eq_true, beq_iff_eq] at h
  obtain (rfl | rfl) | rfl := h
  · decide
  · decide
  · decide

/-- Something of an id that has been typed is noticed, as it is more than blanks. -/
theorem IngestId.noticed_ne_nil {s : String} {id : IngestId} (typed : ofInput? s = some id) :
    Url.noticed id.text ≠ [] := by
  intro nothing
  rw [ofInput?] at typed
  split at typed
  · cases typed
  next something =>
    cases typed
    have blank : ∀ c ∈ trimBlanks s.toList, isBlank c = true := by
      intro c inside
      have ignored := List.filter_eq_nil_iff.mp nothing c (by rwa [trimmed, String.toList_ofList])
      exact isBlank_of_isIgnored (by simpa using ignored)
    obtain ⟨after, blankAfter, whole⟩ := exists_dropBlankEnd (s.toList.dropWhile isBlank)
    have all := dropBlankEnd_append [] (List.forall_mem_append.mpr ⟨blank, blankAfter⟩)
    rw [List.nil_append, trimBlanks, ← whole] at all
    exact something (by rw [trimmed, trimBlanks, all]; rfl)

namespace Gateway

/-- Two ids that have been typed ask a collection on the web for the same if and only if they meet:
if they are no dots and differ in nothing but tabs and line ends, or are dots that lead to one
place. Ids without tabs and line ends that are no dots ask for different members, and it is just
these ids that the segment behind the collection says as they are. -/
theorem requests_meet_iff {text : String} {base : Url} (parsed : Url.parse text = .ok base)
    (web : base.scheme = "http" ∨ base.scheme = "https") {s t : String} {a b : IngestId}
    (typed : IngestId.ofInput? s = some a) (typed' : IngestId.ofInput? t = some b) :
    ∃ ss u v path path', base.path = .segments ss ∧
      base.member? a.text = some u ∧ u = { base with path := .segments path } ∧
      base.member? b.text = some v ∧ v = { base with path := .segments path' } ∧
      (u.requestText = v.requestText ↔ Url.Meet ss a.text b.text) ∧
      (Url.IsPlain a.text → Url.IsPlain b.text → a ≠ b → u.requestText ≠ v.requestText) ∧
      Url.LeadsTo ss a.text path ∧ Url.LeadsTo ss b.text path' := by
  obtain ⟨ss, sound⟩ := Url.isWeb_of_parse parsed web
  have something := IngestId.noticed_ne_nil typed
  have something' := IngestId.noticed_ne_nil typed'
  obtain ⟨made, isWeb⟩ := sound.member?_eq a.text
  obtain ⟨made', isWeb'⟩ := sound.member?_eq b.text
  have meet := (isWeb.requestText_eq_iff isWeb' rfl).trans
    (Url.pushSegment_eq_iff something something')
  refine ⟨ss, _, _, _, _, sound.path, made, rfl, made', rfl, meet, ?_, Url.leadsTo ss something,
    Url.leadsTo ss something'⟩
  intro plain plain' other same
  have other : a.text ≠ b.text := fun texts => other (by cases a; cases b; exact congrArg _ texts)
  exact Url.not_meet_of_isPlain plain plain' other (meet.mp same)

/-- An id with a slash, and one with the code of a slash. -/
theorem requests_differ_by_a_code :
    let base : Url := { scheme := "http", host := some "[::1]", path := .segments ["ingests", ""] }
    Url.parse "http://[::1]/ingests/" = .ok base ∧
      base.member? "é/b" = some { base with path := .segments ["ingests", "%C3%A9%2Fb"] } ∧
      base.member? "é%2Fb" = some { base with path := .segments ["ingests", "%C3%A9%252Fb"] } ∧
      ∃ ss u v, base.path = .segments ss ∧ base.member? "é/b" = some u ∧
        base.member? "é%2Fb" = some v ∧ u.requestText ≠ v.requestText := by
  intro base
  have parsed : Url.parse "http://[::1]/ingests/" = .ok base := by decide +kernel
  have typed : IngestId.ofInput? " é/b" = some ⟨"é/b"⟩ := by decide +kernel
  have typed' : IngestId.ofInput? "é%2Fb\n" = some ⟨"é%2Fb"⟩ := by decide +kernel
  obtain ⟨ss, u, v, path, path', divided, made, -, made', -, -, differ, -⟩ :=
    requests_meet_iff parsed (.inl rfl) typed typed'
  exact ⟨parsed, by decide +kernel, by decide +kernel, ss, u, v, divided, made, made',
    differ ⟨by decide, by decide⟩ ⟨by decide, by decide⟩ (by decide)⟩

/-- A tab in an id is not noticed, and a dot asks for the collection. -/
theorem requests_of_tab_and_dot :
    let base : Url := { scheme := "http", host := some "[::1]", path := .segments ["ingests"] }
    Url.parse "http://[::1]/ingests" = .ok base ∧
      (IngestId.ofInput? "a\tb" = some ⟨"a\tb"⟩ ∧ IngestId.ofInput? "ab" = some ⟨"ab"⟩ ∧
        "a\tb" ≠ "ab" ∧ base.member? "a\tb" = base.member? "ab") ∧
      (IngestId.ofInput? "." = some ⟨"."⟩ ∧ base.member? "." = some base) ∧
      IngestId.ofInput? ".." = some ⟨".."⟩ ∧ base.member? ".." = some base := by
  intro base
  exact ⟨by decide +kernel,
    ⟨by decide +kernel, by decide +kernel, by decide, by decide +kernel⟩,
    ⟨by decide +kernel, by decide +kernel⟩, by decide +kernel, by decide +kernel⟩

end Gateway

end IngestViewer
