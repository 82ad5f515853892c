import IngestViewer.Proofs.RecordRoundTrip
import IngestViewer.ResponseBody

namespace IngestViewer

namespace IngestRecord

theorem read_text {r : IngestRecord} (read : r.status.IsRead) : ofText? r.text = some r := by
  obtain ⟨straight, -⟩ := Json.read_and_parse_compact (r.settled_toJson 124)
  rw [ofText?, text, straight]
  exact ofJson?_toJson read

theorem parse_text (r : IngestRecord) : Json.parse r.text = some r.toJson :=
  (Json.read_and_parse_compact (r.settled_toJson 124)).2

theorem held_text {r : IngestRecord} (read : r.status.IsRead) :
    (Json.parse r.text).bind ofJson? = some r := by
  rw [parse_text]
  exact ofJson?_toJson read

/-- A written record is in the flat form already and states its environment. -/
theorem normalize_toJson (asked : Environment) (r : IngestRecord) :
    ResponseBody.normalize asked r.toJson = r.toJson := by
  have nested : r.members.lookup "ingest" = none := by
    simp [members, List.lookup_cons, List.lookup_append, Json.lookup_optionalMember]
  have environment : r.members.lookup "environment" = some (.ofText r.environment.text) := by
    simp [members, List.lookup_cons, List.lookup_append, Json.lookup_optionalMember]
  rw [toJson, Json.ofMembers, ResponseBody.normalize, ResponseBody.recordMembers,
    Json.lookup_map_some, nested, ResponseBody.tagged, Json.lookup_map_some, environment]
  rfl

/-- The gateway reads a written record as it is, whichever environment has been asked. -/
theorem record_text {r : IngestRecord} (read : r.status.IsRead) (asked : Environment) :
    ResponseBody.record asked r.text = .ok r := by
  rw [ResponseBody.record, parse_text]
  simp only [normalize_toJson, ofJson?_toJson read]

/-- Texts that a record is read from: straight, through a value that is held as a whole, or as the
body of a response. -/
def IsReadFrom (r : IngestRecord) (s : String) : Prop :=
  ofText? s = some r ∨ (Json.parse s).bind ofJson? = some r ∨
    ∃ asked, ResponseBody.record asked s = .ok r

theorem isRead_of_isReadFrom {r : IngestRecord} {s : String} (h : r.IsReadFrom s) :
    r.status.IsRead := by
  rcases h with h | h | ⟨asked, h⟩
  · obtain ⟨j, -, read⟩ := Option.bind_eq_some_iff.mp h
    exact isRead_of_ofJson? read
  · obtain ⟨j, -, read⟩ := Option.bind_eq_some_iff.mp h
    exact isRead_of_ofJson? read
  · unfold ResponseBody.record at h
    split at h
    next => cases h
    next j _ =>
      split at h
      next read =>
        cases h
        exact isRead_of_ofJson? read
      next => cases h

/-- The text of a record is read as nothing else. -/
theorem eq_of_isReadFrom_text {r r' : IngestRecord} (read : r.status.IsRead)
    (h : r'.IsReadFrom r.text) : r' = r := by
  rcases h with h | h | ⟨asked, h⟩
  · rw [read_text read] at h
    exact (Option.some.inj h).symm
  · rw [held_text read] at h
    exact (Option.some.inj h).symm
  · rw [record_text read] at h
    exact (Except.ok.inj h).symm

end IngestRecord

namespace RecentIngest

theorem read_listText {es : List RecentIngest} (read : ∀ e ∈ es, e.ingest.status.IsRead) :
    listOfText? (listText es) = some es := by
  obtain ⟨straight, -⟩ := Json.read_and_parse_compact (settled_listToJson 122 es)
  rw [listOfText?, listText, straight]
  exact listOfJson?_listToJson read

theorem held_listText {es : List RecentIngest} (read : ∀ e ∈ es, e.ingest.status.IsRead) :
    (Json.parse (listText es)).bind listOfJson? = some es := by
  obtain ⟨-, whole⟩ := Json.read_and_parse_compact (settled_listToJson 122 es)
  rw [listText, whole]
  exact listOfJson?_listToJson read

def ListIsReadFrom (es : List RecentIngest) (s : String) : Prop :=
  listOfText? s = some es ∨ (Json.parse s).bind listOfJson? = some es

theorem isRead_of_listIsReadFrom {es : List RecentIngest} {s : String}
    (h : ListIsReadFrom es s) : ∀ e ∈ es, e.ingest.status.IsRead := by
  rcases h with h | h
  all_goals
    obtain ⟨j, -, read⟩ := Option.bind_eq_some_iff.mp h
    exact isRead_of_listOfJson? read

theorem eq_of_listIsReadFrom_listText {es es' : List RecentIngest}
    (read : ∀ e ∈ es, e.ingest.status.IsRead) (h : ListIsReadFrom es' (listText es)) :
    es' = es := by
  rcases h with h | h
  · rw [read_listText read] at h
    exact (Option.some.inj h).symm
  · rw [held_listText read] at h
    exact (Option.some.inj h).symm

end RecentIngest

/-- Every record and every list of entries that reading can yield is read back from its text in
every way, so the text of what has been read is a canonical form. -/
theorem written_text_is_canonical :
    (∀ r : IngestRecord, (∃ s, r.IsReadFrom s) ↔ r.status.IsRead) ∧
    (∀ r : IngestRecord, r.status.IsRead →
      IngestRecord.ofText? r.text = some r ∧
      (Json.parse r.text).bind IngestRecord.ofJson? = some r ∧
      ∀ asked, ResponseBody.record asked r.text = .ok r) ∧
    (∀ es : List RecentIngest, (∀ e ∈ es, e.ingest.status.IsRead) →
      RecentIngest.listOfText? (RecentIngest.listText es) = some es ∧
      (Json.parse (RecentIngest.listText es)).bind RecentIngest.listOfJson? = some es) ∧
    (∀ (s : String) (r : IngestRecord), r.IsReadFrom s →
      (∃ r' : IngestRecord, r'.IsReadFrom r.text) ∧
      ∀ r' : IngestRecord, r'.IsReadFrom r.text → r'.text = r.text) ∧
    (∀ (s : String) (es : List RecentIngest), RecentIngest.ListIsReadFrom es s →
      (∃ es', RecentIngest.ListIsReadFrom es' (RecentIngest.listText es)) ∧
      ∀ es', RecentIngest.ListIsReadFrom es' (RecentIngest.listText es) →
        RecentIngest.listText es' = RecentIngest.listText es) := by
  refine ⟨fun r => ⟨?_, ?_⟩, fun r read => ?_, fun es read => ?_, fun s r h => ⟨?_, ?_⟩,
    fun s es h => ⟨?_, ?_⟩⟩
  · rintro ⟨s, h⟩
    exact r.isRead_of_isReadFrom h
  · exact fun read => ⟨r.text, .inl (IngestRecord.read_text read)⟩
  · exact ⟨IngestRecord.read_text read, IngestRecord.held_text read, IngestRecord.record_text read⟩
  · exact ⟨RecentIngest.read_listText read, RecentIngest.held_listText read⟩
  · exact ⟨r, .inl (IngestRecord.read_text (r.isRead_of_isReadFrom h))⟩
  · intro r' h'
    rw [IngestRecord.eq_of_isReadFrom_text (r.isRead_of_isReadFrom h) h']
  · exact ⟨es, .inl (RecentIngest.read_listText (RecentIngest.isRead_of_listIsReadFrom h))⟩
  · intro es' h'
    rw [RecentIngest.eq_of_listIsReadFrom_listText (RecentIngest.isRead_of_listIsReadFrom h) h']

/-- A record with a status of its own word, characters of all kinds, and values that are there but
empty. -/
def oddRecord : IngestRecord where
  id := ⟨"a\"b\\c\x01\n"⟩
  space := ""
  externalIdentifier := "😀\u2028"
  version := some ""
  status := .other "paused"
  createdDate := "\x1f"
  sourceLocation := some ⟨"", "/"⟩
  callback := some { status := "processing" }
  environment := .production
  events := [{ createdDate := "", description := "\t", count := 0xFFFFFFFF, logUrl := some "" }]

theorem oddRecord_written_and_read :
    oddRecord.status.IsRead ∧ IngestRecord.ofText? oddRecord.text = some oddRecord ∧
      RecentIngest.listOfText? (RecentIngest.listText [.ofRecord oddRecord]) =
        some [.ofRecord oddRecord] := by
  have read : oddRecord.status.IsRead := by unfold IngestStatus.IsRead; decide
  have entries : ∀ e ∈ [RecentIngest.ofRecord oddRecord], e.ingest.status.IsRead := by
    simpa [RecentIngest.ofRecord] using read
  obtain ⟨-, records, lists, -⟩ := written_text_is_canonical
  exact ⟨read, (records oddRecord read).1, (lists _ entries).1⟩

end IngestViewer
