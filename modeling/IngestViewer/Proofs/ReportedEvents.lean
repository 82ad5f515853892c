import IngestViewer.Proofs.OrdinalEndings
import IngestViewer.Report
import Mathlib.Data.List.Forall2

namespace IngestViewer

namespace IngestEvent

def IsFailure (e : IngestEvent) : Prop :=
  "failed".toList <:+: e.description.toList

/-- Whether an event has to be explained. -/
def IsOdd (e : IngestEvent) : Prop :=
  e.IsFailure ∨ e.unmatchedStart = true ∨ e.repeated = true

def HasLogs (e : IngestEvent) (url : String) : Prop :=
  e.logUrl = some url ∧ url ≠ ""

/-- Whether an event says nothing that goes over the end of a line. -/
def IsOnOneLine (e : IngestEvent) : Prop :=
  '\n' ∉ e.description.toList ∧ ∀ url ∈ e.logUrl, '\n' ∉ url.toList

instance (e : IngestEvent) : Decidable e.IsOnOneLine :=
  inferInstanceAs (Decidable (_ ∧ _))

theorem HasLogs.unique {e : IngestEvent} {url url' : String} (h : e.HasLogs url)
    (h' : e.HasLogs url') : url = url' :=
  Option.some.inj (h.1.symm.trans h'.1)

end IngestEvent

namespace Report

open IngestEvent

inductive IsMark (e : IngestEvent) : String → Prop
  | failure (failed : e.IsFailure) : IsMark e "!"
  | other (fine : ¬ e.IsFailure) : IsMark e "-"

/-- What explains an odd event: which attempt it is if it is repeated, and that there are logs. -/
inductive IsFootnote (e : IngestEvent) : String → Prop
  | both {ending url : String} (again : e.repeated = true) (logs : e.HasLogs url)
      (ordinal : OrdinalEnding (Nat.toDigits 10 e.count.toNat) ending) :
      IsFootnote e ("(" ++ e.count.toNat.repr ++ ending ++ " attempt / dev logs)")
  | attempt {ending : String} (again : e.repeated = true) (noLogs : ∀ url, ¬ e.HasLogs url)
      (ordinal : OrdinalEnding (Nat.toDigits 10 e.count.toNat) ending) :
      IsFootnote e ("(" ++ e.count.toNat.repr ++ ending ++ " attempt)")
  | logs {url : String} (once : e.repeated = false) (logs : e.HasLogs url) : IsFootnote e "(dev logs)"
  | empty (once : e.repeated = false) (noLogs : ∀ url, ¬ e.HasLogs url) : IsFootnote e "()"

inductive IsNote (e : IngestEvent) : String → Prop
  | footnote {footnote : String} (odd : e.IsOdd) (is : IsFootnote e footnote) :
      IsNote e (" " ++ footnote)
  | nothing (plain : ¬ e.IsOdd) : IsNote e ""

inductive AreLogLines (e : IngestEvent) : List String → Prop
  | logs {url : String} (logs : e.HasLogs url) : AreLogLines e ["        dev logs: " ++ url]
  | none (noLogs : ∀ url, ¬ e.HasLogs url) : AreLogLines e []

/-- The lines that tell of an event: what happened, and where the logs are if there are any. -/
inductive Tells (e : IngestEvent) : List String → Prop
  | lines {mark note : String} {logs : List String} (isMark : IsMark e mark) (isNote : IsNote e note)
      (areLogs : AreLogLines e logs) :
      Tells e (("    " ++ mark ++ " " ++ e.description ++ note) :: logs)

theorem IsMark.unique {e : IngestEvent} {mark mark' : String} (h : IsMark e mark)
    (h' : IsMark e mark') : mark = mark' := by
  cases h with
  | failure failed =>
    cases h' with
    | failure => rfl
    | other fine => exact absurd failed fine
  | other fine =>
    cases h' with
    | failure failed => exact absurd failed fine
    | other => rfl

theorem IsFootnote.unique {e : IngestEvent} {footnote footnote' : String}
    (h : IsFootnote e footnote) (h' : IsFootnote e footnote') : footnote = footnote' := by
  have never (again : e.repeated = true) (once : e.repeated = false) : False := by
    rw [again] at once
    cases once
  cases h with
  | both again logs ending =>
    cases h' with
    | both _ _ ending' => rw [ending.unique ending']
    | attempt _ noLogs => exact absurd logs (noLogs _)
    | logs once | empty once => exact (never again once).elim
  | attempt again noLogs ending =>
    cases h' with
    | both _ logs => exact absurd logs (noLogs _)
    | attempt _ _ ending' => rw [ending.unique ending']
    | logs once | empty once => exact (never again once).elim
  | logs once logs =>
    cases h' with
    | both again | attempt again => exact (never again once).elim
    | logs => rfl
    | empty _ noLogs => exact absurd logs (noLogs _)
  | empty once noLogs =>
    cases h' with
    | both again | attempt again => exact (never again once).elim
    | logs _ logs => exact absurd logs (noLogs _)
    | empty => rfl

theorem IsNote.unique {e : IngestEvent} {note note' : String} (h : IsNote e note)
    (h' : IsNote e note') : note = note' := by
  cases h with
  | footnote odd is =>
    cases h' with
    | footnote _ is' => rw [is.unique is']
    | nothing plain => exact absurd odd plain
  | nothing plain =>
    cases h' with
    | footnote odd => exact absurd odd plain
    | nothing => rfl

theorem AreLogLines.unique {e : IngestEvent} {lines lines' : List String} (h : AreLogLines e lines)
    (h' : AreLogLines e lines') : lines = lines' := by
  cases h with
  | logs logs =>
    cases h' with
    | logs logs' => rw [logs.unique logs']
    | none noLogs => exact absurd logs (noLogs _)
  | none noLogs =>
    cases h' with
    | logs logs => exact absurd logs (noLogs _)
    | none => rfl

/-- An event is told in one way. -/
theorem Tells.unique {e : IngestEvent} {lines lines' : List String} (h : Tells e lines)
    (h' : Tells e lines') : lines = lines' := by
  obtain ⟨mark, note, logs⟩ := h
  obtain ⟨mark', note', logs'⟩ := h'
  rw [mark.unique mark', note.unique note', logs.unique logs']

/-- The lines of a text. Behind the last end of a line there is one more, which is empty if the text
ends there. -/
def linesOf (text : String) : List String :=
  (segments '\n' text.toList).map String.ofList

theorem toList_unlines_cons (line : String) (lines : List String) :
    (unlines (line :: lines)).toList = line.toList ++ '\n' :: (unlines lines).toList := by
  simp [unlines]

theorem segments_unlines (lines : List String) :
    segments '\n' (unlines lines).toList =
      lines.flatMap (fun line => segments '\n' line.toList) ++ [[]] := by
  induction lines with
  | nil => rfl
  | cons line lines ih =>
    rw [toList_unlines_cons, segments_append_sep, ih, List.flatMap_cons, List.append_assoc]

theorem linesOf_unlines (lines : List String) :
    linesOf (unlines lines) = lines.flatMap linesOf ++ [""] := by
  rw [linesOf, segments_unlines, List.map_append, List.map_flatMap]
  rfl

theorem flatMap_linesOf {lines : List String} (plain : ∀ line ∈ lines, '\n' ∉ line.toList) :
    lines.flatMap linesOf = lines := by
  induction lines with
  | nil => rfl
  | cons line lines ih =>
    obtain ⟨first, others⟩ := List.forall_mem_cons.mp plain
    rw [List.flatMap_cons, ih others, linesOf, segments_of_absent first]
    simp

theorem isFailure_iff {e : IngestEvent} :
    (TimelineEntry.ofEvent e).failed = true ↔ e.IsFailure :=
  occursIn_iff_infix

theorem needsFootnote_iff {e : IngestEvent} :
    (TimelineEntry.ofEvent e).needsFootnote = true ↔ e.IsOdd := by
  rw [IsOdd, ← isFailure_iff]
  simp [TimelineEntry.ofEvent, or_assoc]

theorem logLink_eq_some {e : IngestEvent} {url : String} :
    (TimelineEntry.ofEvent e).logLink = some url ↔ e.HasLogs url := by
  simp [TimelineEntry.ofEvent, nonEmpty, HasLogs, Option.filter_eq_some_iff]

theorem logLink_eq_none {e : IngestEvent} :
    (TimelineEntry.ofEvent e).logLink = none ↔ ∀ url, ¬ e.HasLogs url := by
  simp only [Option.eq_none_iff_forall_ne_some, ne_eq, logLink_eq_some]

theorem isMark (e : IngestEvent) :
    IsMark e (if (TimelineEntry.ofEvent e).failed then "!" else "-") := by
  split
  next failed => exact .failure (isFailure_iff.mp failed)
  next fine => exact .other fun failed => fine (isFailure_iff.mpr failed)

theorem areLogLines (e : IngestEvent) : AreLogLines e
    ((TimelineEntry.ofEvent e).logLink.map fun url => "        dev logs: " ++ url).toList := by
  cases link : (TimelineEntry.ofEvent e).logLink with
  | some url => exact .logs (logLink_eq_some.mp link)
  | none => exact .none (logLink_eq_none.mp link)

theorem text_attempt (label : String) : Footnote.text [.attempt label] = "(" ++ label ++ ")" := by
  simp [Footnote.text, Footnote.partText]

theorem text_attempt_logLink (label url : String) :
    Footnote.text [.attempt label, .logLink url] = "(" ++ label ++ " / dev logs)" := by
  rw [← String.toList_inj]
  simp [Footnote.text, Footnote.partText]

/-- The parts of a footnote as they stand in its text. -/
theorem isFootnote (e : IngestEvent) : IsFootnote e (Footnote.text
    (((TimelineEntry.ofEvent e).attemptLabel.map FootnotePart.attempt).toList ++
      ((TimelineEntry.ofEvent e).logLink.map FootnotePart.logLink).toList)) := by
  have ending := ordinalEnding_ordinalSuffix e.count.toNat
  have label : (TimelineEntry.ofEvent e).attemptLabel =
      if e.repeated then some (e.count.toNat.repr ++ ordinalSuffix e.count.toNat ++ " attempt")
      else none := by
    rw [Nat.repr_eq_ofList_toDigits]
    rfl
  rw [label]
  cases link : (TimelineEntry.ofEvent e).logLink with
  | some url =>
    have logs := logLink_eq_some.mp link
    cases again : e.repeated with
    | true =>
      have both := IsFootnote.both again logs ending
      simpa [text_attempt_logLink, String.append_assoc] using both
    | false => exact .logs again logs
  | none =>
    have noLogs := logLink_eq_none.mp link
    cases again : e.repeated with
    | true =>
      have attempt := IsFootnote.attempt again noLogs ending
      simpa [text_attempt, String.append_assoc] using attempt
    | false => exact .empty again noLogs

theorem isNote (e : IngestEvent) : IsNote e
    (match (TimelineEntry.ofEvent e).footnote? with
      | some f => " " ++ f.text
      | none => "") := by
  unfold TimelineEntry.footnote?
  by_cases odd : (TimelineEntry.ofEvent e).needsFootnote = true
  · rw [if_pos odd]
    exact .footnote (needsFootnote_iff.mp odd) (isFootnote e)
  · rw [if_neg odd]
    exact .nothing fun h => odd (needsFootnote_iff.mpr h)

theorem tells_eventLines (e : IngestEvent) : Tells e (eventLines (.ofEvent e)) :=
  .lines (isMark e) (isNote e) (areLogLines e)

/-- Event lines are set in by four spaces. -/
theorem Tells.indented {e : IngestEvent} {lines : List String} (h : Tells e lines) :
    ∀ line ∈ lines, "    ".toList <+: line.toList := by
  obtain ⟨mark, note, logs⟩ := h
  refine List.forall_mem_cons.mpr ⟨?_, ?_⟩
  · simp only [String.toList_append, List.append_assoc]
    exact List.prefix_append _ _
  · cases logs with
    | none => exact nofun
    | logs =>
      intro line inside
      rw [List.mem_singleton.mp inside, String.toList_append]
      exact List.prefix_append_of_prefix (by decide)

theorem Tells.heading_not_mem {e : IngestEvent} {lines : List String} (h : Tells e lines) :
    "  events:" ∉ lines :=
  fun inside => absurd (h.indented _ inside) (by decide)

theorem IsFootnote.plain {e : IngestEvent} {footnote : String} (h : IsFootnote e footnote) :
    '\n' ∉ footnote.toList := by
  have count : '\n' ∉ e.count.toNat.repr.toList := not_mem_repr (by decide) _
  have ordinal {ending : String} (h : OrdinalEnding (Nat.toDigits 10 e.count.toNat) ending) :
      '\n' ∉ ending.toList := by
    cases h <;> decide
  cases h with
  | both _ _ ending => simp [-Nat.toList_repr, count, ordinal ending]
  | attempt _ _ ending => simp [-Nat.toList_repr, count, ordinal ending]
  | logs => decide
  | empty => decide

theorem IsMark.plain {e : IngestEvent} {mark : String} (h : IsMark e mark) :
    '\n' ∉ mark.toList := by
  cases h <;> decide

theorem IsNote.plain {e : IngestEvent} {note : String} (h : IsNote e note) : '\n' ∉ note.toList := by
  cases h with
  | footnote _ is => simp [is.plain]
  | nothing => decide

theorem Tells.plain {e : IngestEvent} {lines : List String} (h : Tells e lines)
    (oneLine : e.IsOnOneLine) : ∀ line ∈ lines, '\n' ∉ line.toList := by
  obtain ⟨mark, note, logs⟩ := h
  refine List.forall_mem_cons.mpr ⟨?_, ?_⟩
  · simp [mark.plain, oneLine.1, note.plain]
  · cases logs with
    | none => exact nofun
    | logs logs =>
      have url := oneLine.2 _ logs.1
      simp [url]

theorem forall₂_tells (events : List IngestEvent) :
    List.Forall₂ Tells events (events.map fun e => eventLines (.ofEvent e)) := by
  rw [List.forall₂_map_right_iff, List.forall₂_same]
  exact fun e _ => tells_eventLines e

/-- The lines of a report. -/
theorem linesOf_ofIngest (v : IngestView) (plain : ∀ line ∈ v.events.flatMap eventLines,
    '\n' ∉ line.toList) : linesOf (ofIngest v) =
      (headLines v).flatMap linesOf ++ "  events:" :: v.events.flatMap eventLines ++ [""] := by
  have heading : linesOf "  events:" = ["  events:"] := by decide
  rw [ofIngest, linesOf_unlines, ingestLines, List.flatMap_append, List.flatMap_cons, heading,
    flatMap_linesOf plain]
  rfl

/-- Behind the last line that reads as the heading, a report has the lines of the events, in order,
and nothing else. -/
theorem reports_events (f : TimeFormatter) (r : IngestRecord) (c : Clock)
    (oneLine : ∀ e ∈ r.events, e.IsOnOneLine) :
    ∃ before blocks, linesOf (ofIngest (IngestView.compose f r c).1) =
        before ++ "  events:" :: blocks.flatten ++ [""] ∧
      "  events:" ∉ blocks.flatten ∧ List.Forall₂ Tells r.events blocks := by
  have told := forall₂_tells r.events
  -- the view shows the events in the order of the record, one entry for each
  have lines : (IngestView.compose f r c).1.events.flatMap eventLines =
      (r.events.map fun e => eventLines (.ofEvent e)).flatten := by
    change (timeline r.events).flatMap eventLines = _
    rw [timeline, List.flatMap_map, List.flatMap_def]
  have each : ∀ block ∈ r.events.map fun e => eventLines (.ofEvent e),
      ∃ e, e.IsOnOneLine ∧ Tells e block := by
    intro block inside
    obtain ⟨e, event, rfl⟩ := List.mem_map.mp inside
    exact ⟨e, oneLine e event, tells_eventLines e⟩
  refine ⟨(headLines (IngestView.compose f r c).1).flatMap linesOf, _, ?_, ?_, told⟩
  · rw [← lines]
    refine linesOf_ofIngest _ fun line inside => ?_
    rw [lines] at inside
    obtain ⟨block, inside, line⟩ := List.mem_flatten.mp inside
    obtain ⟨e, oneLine, told⟩ := each block inside
    exact told.plain oneLine _ line
  · intro inside
    obtain ⟨block, inside, line⟩ := List.mem_flatten.mp inside
    obtain ⟨e, -, told⟩ := each block inside
    exact told.heading_not_mem line

/-- The space of this record has the heading in its name. Below it stand an event with a footnote
and logs, one with a footnote that has nothing in it, one with logs only and one that is repeated. -/
theorem reports_events_below_last_heading :
    let events : List IngestEvent := [
      ⟨"", "Copying failed", true, 112, false, some "http://logs.test/1"⟩,
      ⟨"", "Unpacking started", false, 1, true, some ""⟩,
      ⟨"", "Failed once", false, 1, false, some "http://logs.test/2"⟩,
      ⟨"", "Unpacked", true, 22, false, none⟩]
    let r : IngestRecord :=
      { id := ⟨"a"⟩, space := "digitised\n  events:", externalIdentifier := "b1", status := .failed,
        createdDate := "", environment := .staging, events := events }
    let f : TimeFormatter := ⟨.builtin, "en-US", .fixed 0⟩
    (∀ e ∈ r.events, e.IsOnOneLine) ∧
      ∃ before, linesOf (ofIngest (IngestView.compose f r (.still ⟨0, 0⟩)).1) = before ++ [
        "  events:",
        "    ! Copying failed (112th attempt / dev logs)",
        "        dev logs: http://logs.test/1",
        "    - Unpacking started ()",
        "    - Failed once",
        "        dev logs: http://logs.test/2",
        "    - Unpacked (22nd attempt)",
        ""] := by
  intro events r f
  have oneLine : ∀ e ∈ r.events, e.IsOnOneLine := by decide
  obtain ⟨before, blocks, lines, -, told⟩ := reports_events f r (.still ⟨0, 0⟩) oneLine
  have same : blocks = events.map fun e => eventLines (.ofEvent e) := by
    rw [← List.forall₂_eq_eq_eq, List.forall₂_map_right_iff]
    exact (List.Forall₂.flip told).imp fun lines e told => told.unique (tells_eventLines e)
  rw [same, List.append_assoc] at lines
  exact ⟨oneLine, before, lines.trans (congrArg (before ++ ·) (by decide))⟩

end Report

end IngestViewer
