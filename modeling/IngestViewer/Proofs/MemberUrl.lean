import IngestViewer.Proofs.DotSegments
import IngestViewer.Proofs.EnvironmentFallback
import IngestViewer.Proofs.UrlParts
import Mathlib.Control.Monad.Basic

namespace IngestViewer

namespace Url

open PercentEncoding

/-- What is left of a name without the characters that a URL does not notice. -/
def noticed (name : String) : List Char := name.toList.filter (!isIgnored ·)

/-- The segments of a path without one that is empty at the end. -/
def keptOf (ss : List String) : List String :=
  if ss.getLast? = some "" then ss.dropLast else ss

theorem dropEmptyEnd_eq {ss : List String} (other : ss ≠ [""]) : dropEmptyEnd ss = keptOf ss := by
  rw [dropEmptyEnd, keptOf]
  by_cases last : ss.getLast? = some ""
  · obtain ⟨front, rfl⟩ := List.getLast?_eq_some_iff.mp last
    have more : front ≠ [] := by
      rintro rfl
      exact other rfl
    have long : 0 < front.length := List.length_pos_iff.mpr more
    rw [if_pos ⟨by simp; omega, last⟩, if_pos last]
  · rw [if_neg fun h => last h.2, if_neg last]

theorem appendSegment_dropEmptyEnd (ss : List String) (s : String) :
    appendSegment (dropEmptyEnd ss) s = (if keptOf ss = [""] then [] else keptOf ss) ++ [s] := by
  by_cases root : ss = [""]
  · subst root
    rfl
  · rw [dropEmptyEnd_eq root, appendSegment]
    split
    · rfl
    · rfl

theorem goBack_dropEmptyEnd (ss : List String) : goBack (dropEmptyEnd ss) = goBack (keptOf ss) := by
  by_cases root : ss = [""]
  · subst root
    rfl
  · rw [dropEmptyEnd_eq root]

theorem pushSegment_eq (ss : List String) (name : String) :
    pushSegment true (dropEmptyEnd ss) name =
      if name = "." ∨ name = ".." then dropEmptyEnd ss
      else if noticed name = ['.', '.'] then goBack (keptOf ss) ++ [""]
      else (if keptOf ss = [""] then [] else keptOf ss) ++ [if noticed name = ['.'] then ""
        else String.ofList (encode inSpecialSegment (noticed name))] := by
  rw [pushSegment]
  dsimp only
  rw [← noticed, if_pos rfl, goBack_dropEmptyEnd, appendSegment_dropEmptyEnd,
    appendSegment_dropEmptyEnd]
  by_cases dot : noticed name = ['.']
  · simp only [dot, if_true]
  · simp only [dot, if_false]

/-- Dots that are only found when ignored characters are left out lead back over a segment, if there
is one that is not empty and does not hold them. -/
structure LeadsBack (kept : List String) (name : String) : Prop where
  hidden : name ≠ ".."
  dots : noticed name = ['.', '.']
  last : ∃ s, kept.getLast? = some s ∧ s ≠ "" ∧ isAnchor s = false

/-- A segment takes the place of the empty one that is all there is to keep. -/
structure TakesPlace (kept : List String) (name : String) : Prop where
  empty : kept = [""]
  something : noticed name ∉ [[], ['.'], ['.', '.']]

/-- Whether a path is made of segments that are kept and of one more at the most. -/
def StaysBelow (kept path : List String) : Prop :=
  ∃ more : Option String, (∀ s ∈ more, IsSegment s) ∧ path = kept ++ more.toList

/-- Where a name leads from segments that are kept. -/
structure Leads (kept : List String) (name : String) (path : List String) : Prop where
  below : StaysBelow kept path ↔ ¬LeadsBack kept name ∧ ¬TakesPlace kept name
  back : LeadsBack kept name → path = kept.dropLast ++ [""]
  replaced : TakesPlace kept name → ∃ s, IsSegment s ∧ path = [s]
  /-- A name that is no dots can be read from the last segment. -/
  named : noticed name ∉ [['.'], ['.', '.']] → ∃ s, path.getLast? = some s ∧
    decode s.toList = Utf8.bytes (String.ofList (noticed name))

theorem staysBelow_self (kept : List String) : StaysBelow kept kept :=
  ⟨none, by simp, by simp⟩

theorem staysBelow_append {s : String} (kept : List String) (sound : IsSegment s) :
    StaysBelow kept (kept ++ [s]) :=
  ⟨some s, by simpa using sound, rfl⟩

/-- One segment in the place of another is below only if both are the same. -/
theorem eq_of_staysBelow {front : List String} {s t : String}
    (below : StaysBelow (front ++ [s]) (front ++ [t])) : t = s := by
  obtain ⟨more, -, same⟩ := below
  rw [List.append_assoc] at same
  have last := List.append_cancel_left same
  exact (List.cons.inj last).1

theorem leads_of_below {kept path : List String} {name : String} (below : StaysBelow kept path)
    (onward : ¬LeadsBack kept name) (behind : ¬TakesPlace kept name)
    (named : noticed name ∉ [['.'], ['.', '.']] → ∃ s, path.getLast? = some s ∧
      decode s.toList = Utf8.bytes (String.ofList (noticed name))) :
    Leads kept name path where
  below := ⟨fun _ => ⟨onward, behind⟩, fun _ => below⟩
  back h := absurd h onward
  replaced h := absurd h behind
  named := named

/-- Dots take no place and say nothing, so all that counts is that they stay below. -/
theorem leads_of_seen {kept path : List String} {name : String}
    (seen : noticed name ∈ [['.'], ['.', '.']]) (onward : ¬LeadsBack kept name)
    (below : StaysBelow kept path) : Leads kept name path := by
  have behind : ¬TakesPlace kept name := fun h => h.something (List.mem_cons_of_mem _ seen)
  exact leads_of_below below onward behind fun other => absurd seen other

theorem leads_of_dots (ss : List String) {name : String} (dots : name = "." ∨ name = "..") :
    Leads (keptOf ss) name (dropEmptyEnd ss) := by
  have seen : noticed name ∈ [['.'], ['.', '.']] := by
    obtain rfl | rfl := dots
    · decide
    · decide
  have onward : ¬LeadsBack (keptOf ss) name := by
    intro h
    obtain rfl | rfl := dots
    · exact absurd h.dots (by decide)
    · exact h.hidden rfl
  refine leads_of_seen seen onward ?_
  by_cases root : ss = [""]
  · subst root
    exact staysBelow_append [] isSegment_empty
  · rw [dropEmptyEnd_eq root]
    exact staysBelow_self _

/-- The way back from segments that are kept, over the last one if it is let go. -/
theorem leads_goBack (kept : List String) {name : String} (hidden : name ≠ "..")
    (dots : noticed name = ['.', '.']) : Leads kept name (goBack kept ++ [""]) := by
  have seen : noticed name ∈ [['.'], ['.', '.']] := by simp [dots]
  rw [goBack]
  split
  next held =>
    refine leads_of_seen seen ?_ (staysBelow_append kept isSegment_empty)
    rintro ⟨-, -, s, last, -, free⟩
    rw [last, Option.any_some, free] at held
    cases held
  next free =>
    cases last : kept.getLast? with
    | none =>
      obtain rfl := List.getLast?_eq_none_iff.mp last
      refine leads_of_seen seen ?_ (staysBelow_append [] isSegment_empty)
      rintro ⟨-, -, s, last, -⟩
      cases last
    | some s =>
      obtain ⟨front, rfl⟩ := List.getLast?_eq_some_iff.mp last
      rw [last, Option.any_some, Bool.not_eq_true] at free
      rw [List.dropLast_concat]
      by_cases empty : s = ""
      · subst empty
        refine leads_of_seen seen ?_ (staysBelow_self _)
        rintro ⟨-, -, s, last', other, -⟩
        exact other (Option.some.inj (last.symm.trans last')).symm
      · have back : LeadsBack (front ++ [s]) name := ⟨hidden, dots, s, last, empty, free⟩
        exact
          { below := ⟨fun below => absurd (eq_of_staysBelow below).symm empty,
              fun h => absurd back h.1⟩
            back := fun _ => by rw [List.dropLast_concat]
            replaced := fun h => absurd (List.mem_cons_of_mem _ seen) h.something
            named := fun other => absurd seen other }

theorem leads_of_hidden_dot (kept : List String) {name : String} (dot : noticed name = ['.']) :
    Leads kept name ((if kept = [""] then [] else kept) ++ [""]) := by
  refine leads_of_seen (by simp [dot]) ?_ ?_
  · intro h
    rw [h.dots] at dot
    cases dot
  · split
    next root => exact root ▸ staysBelow_self _
    next => exact staysBelow_append _ isSegment_empty

theorem leads_of_segment (kept : List String) {name : String} (dot : noticed name ≠ ['.'])
    (doubleDot : noticed name ≠ ['.', '.']) :
    Leads kept name ((if kept = [""] then [] else kept) ++
      [String.ofList (encode inSpecialSegment (noticed name))]) := by
  have sound := isSegment_encode dot doubleDot
  have bytes : decode (String.ofList (encode inSpecialSegment (noticed name))).toList =
      Utf8.bytes (String.ofList (noticed name)) := by
    rw [String.toList_ofList, decode_encode rfl, Utf8.bytes_eq, String.toList_ofList]
  have empty : String.ofList (encode inSpecialSegment (noticed name)) = "" ↔ noticed name = [] := by
    rw [← @encode_eq_nil inSpecialSegment rfl]
    simp
  have onward : ¬LeadsBack kept name := fun h => doubleDot h.dots
  generalize String.ofList (encode inSpecialSegment (noticed name)) = s at sound bytes empty
  have named : noticed name ∉ [['.'], ['.', '.']] → ∃ t,
      ((if kept = [""] then [] else kept) ++ [s]).getLast? = some t ∧
        decode t.toList = Utf8.bytes (String.ofList (noticed name)) :=
    fun _ => ⟨s, List.getLast?_concat, bytes⟩
  by_cases root : kept = [""]
  · subst root
    rw [if_pos rfl] at named ⊢
    by_cases nothing : noticed name = []
    · obtain rfl := empty.mpr nothing
      have behind : ¬TakesPlace [""] name := fun h => h.something (by simp [nothing])
      exact leads_of_below (staysBelow_self _) onward behind named
    · have place : TakesPlace [""] name := ⟨rfl, by simp [nothing, dot, doubleDot]⟩
      have other : ¬StaysBelow [""] [s] := fun below =>
        nothing (empty.mp (@eq_of_staysBelow [] "" s below))
      exact
        { below := ⟨fun below => absurd below other, fun h => absurd place h.2⟩
          back := fun h => absurd h onward
          replaced := fun _ => ⟨s, sound, rfl⟩
          named := named }
  · have behind : ¬TakesPlace kept name := fun h => root h.empty
    rw [if_neg root] at named ⊢
    exact leads_of_below (staysBelow_append _ sound) onward behind named

theorem leads (ss : List String) (name : String) :
    Leads (keptOf ss) name (pushSegment true (dropEmptyEnd ss) name) := by
  rw [pushSegment_eq]
  split
  next dots => exact leads_of_dots ss dots
  next plain =>
    split
    next doubleDot => exact leads_goBack _ (fun h => plain (.inr h)) doubleDot
    next doubleDot =>
      by_cases dot : noticed name = ['.']
      · rw [if_pos dot]
        exact leads_of_hidden_dot _ dot
      · rw [if_neg dot]
        exact leads_of_segment _ dot doubleDot

theorem pushSegment_ne_nil {ss : List String} (nonempty : ss ≠ []) (name : String) :
    pushSegment true (dropEmptyEnd ss) name ≠ [] := by
  have some : dropEmptyEnd ss ≠ [] := by
    rw [dropEmptyEnd]
    split
    next h =>
      intro none
      have short := congrArg List.length none
      rw [List.length_dropLast, List.length_nil] at short
      omega
    next => exact nonempty
  rw [pushSegment_eq]
  split
  · exact some
  · split
    · simp
    · simp

theorem isSegment_of_leads {kept path : List String} {name : String}
    (sound : ∀ s ∈ kept, IsSegment s) (h : Leads kept name path) : ∀ s ∈ path, IsSegment s := by
  by_cases back : LeadsBack kept name
  · rw [h.back back]
    refine List.forall_mem_append.mpr ⟨fun s inside => ?_, fun s inside => ?_⟩
    · exact sound s ((List.dropLast_sublist kept).subset inside)
    · exact List.mem_singleton.mp inside ▸ isSegment_empty
  · by_cases place : TakesPlace kept name
    · obtain ⟨s, segment, rfl⟩ := h.replaced place
      exact fun t inside => List.mem_singleton.mp inside ▸ segment
    · obtain ⟨more, segment, rfl⟩ := h.below.mpr ⟨back, place⟩
      exact List.forall_mem_append.mpr ⟨sound, fun s inside => segment s (by simpa using inside)⟩

theorem IsWeb.special {u : Url} {ss : List String} (h : u.IsWeb ss) :
    isSpecialScheme u.scheme = true := by
  obtain scheme | scheme := h.scheme
  · rw [scheme]
    decide
  · rw [scheme]
    decide

theorem IsWeb.member? {base : Url} {ss : List String} (h : base.IsWeb ss) (name : String) :
    ∃ path, Leads (keptOf ss) name path ∧
      base.member? name = some { base with path := .segments path } ∧
      IsWeb { base with path := .segments path } path := by
  have kept : ∀ s ∈ keptOf ss, IsSegment s := by
    intro s inside
    rw [keptOf] at inside
    split at inside
    · exact h.segments s ((List.dropLast_sublist ss).subset inside)
    · exact h.segments s inside
  refine ⟨_, leads ss name, ?_, ?_⟩
  · rw [Url.member?, h.path, h.special]
  · exact
      { scheme := h.scheme
        credentials := h.credentials
        host := h.host
        path := rfl
        nonempty := pushSegment_ne_nil h.nonempty name
        segments := isSegment_of_leads kept (leads ss name)
        query := h.query }

/-- What is asked for a name, beside the URL of a collection: a URL with a path of its own, in which
nothing else is another. -/
structure IsRequestFor (base : Url) (name : String) (ss : List String) (u : Url)
    (path : List String) : Prop where
  others : u = { base with path := .segments path }
  /-- The text that is sent is read with the same scheme, authority and query, without a fragment,
  and with these segments. -/
  sent : ∃ authority, base.authorityText = "//" ++ authority ∧
    parts? base.requestText = some ⟨base.scheme, authority, ss, base.query, none⟩ ∧
    parts? u.requestText = some ⟨base.scheme, authority, path, base.query, none⟩
  leads : Leads (keptOf ss) name path

theorem IsWeb.isRequestFor {base : Url} {ss : List String} (h : base.IsWeb ss) (name : String) :
    ∃ u path, base.member? name = some u ∧ IsRequestFor base name ss u path := by
  obtain ⟨path, leads, made, web⟩ := h.member? name
  obtain ⟨host, given, -⟩ := h.host
  exact ⟨_, path, made, rfl, ⟨_, authorityText_eq given, h.parts?_requestText given,
    web.parts?_requestText given⟩, leads⟩

end Url

namespace Gateway

variable {σ : Type} (endpoints : Endpoints) (network : Network σ) (id : IngestId)

/-- A lookup requests nothing but members of the collections that its selector names. -/
theorem member?_of_requested {selector : Selector} {s : σ} {url : Url}
    (requested : url ∈ (fetch endpoints (logged network) id selector ([], s)).2.1) :
    ∃ e ∈ selector.candidates, (endpoints.base e).member? id.text = some url := by
  rw [fetch, fetchAll_logged, List.nil_append] at requested
  obtain ⟨e, among, sent⟩ := List.mem_flatMap.mp requested
  have candidate := (asked_sublist endpoints network id selector.candidates s).subset among
  rw [requests, Option.mem_toList, Option.filter_eq_some_iff] at sent
  exact ⟨e, candidate, sent.1⟩

/-- Whatever an id is, what is requested for it from a collection on the web has the same scheme,
credentials, host, port number and query, and in its text no fragment. The path is that of the
collection and at most one segment more, apart from two cases: dots with ignored characters between
them lead back over the last segment, and a path of two slashes loses one of them. -/
theorem requests_are_for_members {text : String} {base : Url} (parsed : Url.parse text = .ok base)
    (web : base.scheme = "http" ∨ base.scheme = "https") (id : IngestId) :
    ∃ ss u path, base.path = .segments ss ∧ base.member? id.text = some u ∧
      Url.IsRequestFor base id.text ss u path ∧
      ∀ {σ : Type} (endpoints : Endpoints) (network : Network σ) (selector : Selector) (s : σ),
        ∀ url ∈ (fetch endpoints (logged network) id selector ([], s)).2.1,
          ∃ e ∈ selector.candidates, (endpoints.base e).member? id.text = some url ∧
            (endpoints.base e = base → url = u) := by
  obtain ⟨ss, sound⟩ := Url.isWeb_of_parse parsed web
  obtain ⟨u, path, made, isRequest⟩ := sound.isRequestFor id.text
  refine ⟨ss, u, path, sound.path, made, isRequest, ?_⟩
  intro σ endpoints network selector s url requested
  obtain ⟨e, candidate, member⟩ := member?_of_requested endpoints network id requested
  refine ⟨e, candidate, member, fun same => ?_⟩
  rw [same, made] at member
  exact (Option.some.inj member).symm

/-- A collection below a folder, and an id that tries to leave it in several ways. -/
theorem requests_for_a_hostile_id :
    let base : Url := { scheme := "http", host := some "[::1]", path := .segments ["ingests", ""] }
    Url.parse "http://[::1]/ingests/" = .ok base ∧
      base.member? "../\t?q#f\\%2e" =
        some { base with path := .segments ["ingests", "..%2F%3Fq%23f%5C%252e"] } ∧
      ∃ ss u path, base.path = .segments ss ∧ base.member? "../\t?q#f\\%2e" = some u ∧
        Url.IsRequestFor base "../\t?q#f\\%2e" ss u path := by
  intro base
  have parsed : Url.parse "http://[::1]/ingests/" = .ok base := by decide +kernel
  obtain ⟨ss, u, path, divided, made, isRequest, -⟩ :=
    requests_are_for_members parsed (.inl rfl) ⟨"../\t?q#f\\%2e"⟩
  exact ⟨parsed, by decide +kernel, ss, u, path, divided, made, isRequest⟩

/-- Two dots with a tab between them leave the folder, and a path of two slashes is not kept. -/
theorem hidden_dots_lead_back :
    let base : Url := { scheme := "http", host := some "[::1]", path := .segments ["ingests"] }
    let bare : Url := { scheme := "http", host := some "[::1]", path := .segments ["", ""] }
    (Url.parse "http://[::1]/ingests" = .ok base ∧
      base.member? ".\t." = some { base with path := .segments [""] } ∧
      ¬Url.StaysBelow (Url.keptOf ["ingests"]) [""]) ∧
    Url.parse "http://[::1]//" = .ok bare ∧
      bare.member? "b" = some { bare with path := .segments ["b"] } ∧
      ¬Url.StaysBelow (Url.keptOf ["", ""]) ["b"] := by
  intro base bare
  have lost : ¬Url.StaysBelow (Url.keptOf ["ingests"]) [""] := by
    intro below
    exact absurd (@Url.eq_of_staysBelow [] "ingests" "" below) (by decide)
  have lost' : ¬Url.StaysBelow (Url.keptOf ["", ""]) ["b"] := by
    intro below
    exact absurd (@Url.eq_of_staysBelow [] "" "b" below) (by decide)
  exact ⟨⟨by decide +kernel, by decide +kernel, lost⟩, by decide +kernel, by decide +kernel, lost'⟩

end Gateway

end IngestViewer
