import IngestViewer.Proofs.FieldRoundTrip
import IngestViewer.RecentIngests

namespace IngestViewer

namespace IngestStatus

def knownWords : List String := ["accepted", "processing", "succeeded", "failed"]

/-- A status that some word is read as: a known word has its own status. -/
def IsRead (s : IngestStatus) : Prop := ∀ word ∈ knownWords, s ≠ other word

theorem isRead_ofText (s : String) : (ofText s).IsRead := by
  intro word known h
  have same : s = word := by
    have := congrArg text h
    rwa [text_ofText] at this
  subst same
  revert h
  simp only [knownWords, List.mem_cons, List.not_mem_nil, or_false] at known
  rcases known with rfl | rfl | rfl | rfl <;> decide

theorem ofText_text {s : IngestStatus} (h : s.IsRead) : ofText s.text = s := by
  cases s with
  | other word =>
    have unknown : word ∉ knownWords := fun known => h word known rfl
    simp only [knownWords, List.mem_cons, List.not_mem_nil, or_false, not_or] at unknown
    simp [text, ofText, unknown]
  | _ => decide

end IngestStatus

namespace SourceLocation

theorem settled_toJson (depth : Nat) (l : SourceLocation) :
    Json.IsSettled (depth + 1) l.toJson :=
  Json.settled_ofMembers (by simp) (by simp [Json.settled_ofText])

theorem ofJson?_toJson (l : SourceLocation) : ofJson? l.toJson = some l := by
  simp [toJson, ofJson?, Json.fields_ofMembers, List.lookup_cons, Json.text?_ofText]

end SourceLocation

namespace Callback

theorem names_members (c : Callback) : (c.members.map Prod.fst).Sublist ["status", "url"] :=
  (Json.names_optionalMember "url" .ofText c.url).cons_cons _

theorem settled_toJson (depth : Nat) (c : Callback) : Json.IsSettled (depth + 2) c.toJson := by
  refine Json.settled_ofMembers (c.names_members.nodup (by decide)) ?_
  exact List.forall_mem_cons.mpr ⟨Json.settled_ofId depth _,
    Json.settled_of_mem_optionalMember (Json.settled_ofText _)⟩

theorem ofJson?_toJson (c : Callback) : ofJson? c.toJson = some c := by
  have fields := Json.fields_ofMembers ["status", "url"] (c.names_members.nodup (by decide))
  have status : c.members.lookup "status" = some (.ofId c.status) := by simp [members]
  have url : c.members.lookup "url" = c.url.map .ofText := by
    simp [members, List.lookup_cons, Json.lookup_optionalMember]
  refine Json.bind_of_some fields ?_
  refine Json.bind_of_some status (Json.bind_of_some (Json.idField?_ofId _) ?_)
  exact Json.bind_of_some (Json.optional_of_eq_map Json.text?_ofText rfl url) rfl

end Callback

namespace IngestEvent

theorem names_members (e : IngestEvent) : (e.members.map Prod.fst).Sublist fieldNames :=
  (Json.names_optionalMember "kibanaUrl" .ofText e.logUrl).append_left
    ["createdDate", "description", "_repeated", "_count", "_is_unmatched_start"]

theorem settled_toJson (depth : Nat) (e : IngestEvent) : Json.IsSettled (depth + 1) e.toJson := by
  refine Json.settled_ofMembers (e.names_members.nodup (by decide)) ?_
  have bound := e.count.toNat_lt
  have count : Json.IsSettled depth (.ofNat e.count.toNat) := Json.settled_ofNat depth (by omega)
  refine List.forall_mem_append.mpr ⟨?_, Json.settled_of_mem_optionalMember (Json.settled_ofText _)⟩
  simp [Json.settled_ofText, Json.settled_bool, count]

theorem ofJson?_toJson (e : IngestEvent) : ofJson? e.toJson = some e := by
  have fields := Json.fields_ofMembers fieldNames (e.names_members.nodup (by decide))
  have createdDate : e.members.lookup "createdDate" = some (.ofText e.createdDate) := by
    simp [members]
  have description : e.members.lookup "description" = some (.ofText e.description) := by
    simp [members, List.lookup_cons]
  have repeated : e.members.lookup "_repeated" = some (.bool e.repeated) := by
    simp [members, List.lookup_cons]
  have count : e.members.lookup "_count" = some (.ofNat e.count.toNat) := by
    simp [members, List.lookup_cons]
  have unmatchedStart :
      e.members.lookup "_is_unmatched_start" = some (.bool e.unmatchedStart) := by
    simp [members, List.lookup_cons]
  have logUrl : e.members.lookup "kibanaUrl" = e.logUrl.map .ofText := by
    simp [members, List.lookup_cons, Json.lookup_optionalMember]
  refine Json.bind_of_some fields ?_
  refine Json.bind_of_some createdDate (Json.bind_of_some (Json.text?_ofText _) ?_)
  refine Json.bind_of_some description (Json.bind_of_some (Json.text?_ofText _) ?_)
  refine Json.bind_of_some (Json.withDefault_of_eq_some (Json.bool?_bool _) repeated) ?_
  refine Json.bind_of_some (Json.withDefault_of_eq_some (Json.count?_ofNat _) count) ?_
  refine Json.bind_of_some (Json.withDefault_of_eq_some (Json.bool?_bool _) unmatchedStart) ?_
  exact Json.bind_of_some (Json.optional_of_eq_map Json.text?_ofText rfl logUrl) rfl

theorem listOfJson?_array (es : List IngestEvent) : listOfJson? (.array (es.map toJson)) = some es :=
  Json.mapM_map fun e _ => e.ofJson?_toJson

end IngestEvent

namespace IngestRecord

theorem names_bagInfoMembers (externalIdentifier : String) (version : Option String) :
    ((bagInfoMembers externalIdentifier version).map Prod.fst).Sublist
      ["externalIdentifier", "version"] :=
  (Json.names_optionalMember "version" .ofText version).cons_cons _

theorem settled_bagToJson (depth : Nat) (externalIdentifier : String) (version : Option String) :
    Json.IsSettled (depth + 2) (bagToJson externalIdentifier version) := by
  have info : Json.IsSettled (depth + 1)
      (.ofMembers (bagInfoMembers externalIdentifier version)) := by
    refine Json.settled_ofMembers ((names_bagInfoMembers _ _).nodup (by decide)) ?_
    exact List.forall_mem_cons.mpr ⟨Json.settled_ofText depth _,
      Json.settled_of_mem_optionalMember (Json.settled_ofText _)⟩
  exact Json.settled_ofMembers (by simp) (by simpa using info)

theorem bagOfJson?_bagToJson (externalIdentifier : String) (version : Option String) :
    bagOfJson? (bagToJson externalIdentifier version) = some (externalIdentifier, version) := by
  have info := Json.fields_ofMembers ["externalIdentifier", "version"]
    ((names_bagInfoMembers externalIdentifier version).nodup (by decide))
  have name : (bagInfoMembers externalIdentifier version).lookup "externalIdentifier" =
      some (.ofText externalIdentifier) := by
    simp [bagInfoMembers]
  have written : (bagInfoMembers externalIdentifier version).lookup "version" =
      version.map .ofText := by
    simp [bagInfoMembers, List.lookup_cons, Json.lookup_optionalMember]
  have textual (s : String) : (Json.ofText s).textOrNumber? = some s := rfl
  refine Json.bind_of_some (Json.fields_ofMembers ["info"] (by simp)) ?_
  refine Json.bind_of_some (List.lookup_cons_self ..) (Json.bind_of_some info ?_)
  refine Json.bind_of_some name (Json.bind_of_some (Json.text?_ofText _) ?_)
  exact Json.bind_of_some (Json.optional_of_eq_map textual rfl written) rfl

theorem names_members (r : IngestRecord) : (r.members.map Prod.fst).Sublist fieldNames := by
  have ends (xs : List String) : xs.Sublist xs := List.Sublist.refl xs
  simp only [members, List.map_append]
  exact ((((((ends _).append (Json.names_optionalMember _ _ _)).append
    (Json.names_optionalMember _ _ _)).append (Json.names_optionalMember _ _ _)).append
    (Json.names_optionalMember _ _ _)).append (Json.names_optionalMember _ _ _)).append (ends _)

theorem settled_toJson (depth : Nat) (r : IngestRecord) : Json.IsSettled (depth + 3) r.toJson := by
  refine Json.settled_ofMembers (r.names_members.nodup (by decide)) ?_
  have events : Json.IsSettled (depth + 2) (.array (r.events.map IngestEvent.toJson)) :=
    Json.settled_array (by simp [IngestEvent.settled_toJson])
  simp only [members, List.forall_mem_append]
  refine ⟨⟨⟨⟨⟨⟨?_, Json.settled_of_mem_optionalMember (Json.settled_ofText _)⟩,
    Json.settled_of_mem_optionalMember (SourceLocation.settled_toJson _)⟩,
    Json.settled_of_mem_optionalMember (Json.settled_ofText _)⟩,
    Json.settled_of_mem_optionalMember (Json.settled_ofText _)⟩,
    Json.settled_of_mem_optionalMember (Callback.settled_toJson _)⟩, ?_⟩
  · simp [Json.settled_ofText, Json.settled_ofId, settled_bagToJson]
  · simpa [Json.settled_ofText] using events

theorem lookup_members_of_required (r : IngestRecord) :
    r.members.lookup "id" = some (.ofText r.id.text) ∧
    r.members.lookup "space" = some (.ofId r.space) ∧
    r.members.lookup "bag" = some (bagToJson r.externalIdentifier r.version) ∧
    r.members.lookup "status" = some (.ofId r.status.text) ∧
    r.members.lookup "createdDate" = some (.ofText r.createdDate) ∧
    r.members.lookup "environment" = some (.ofText r.environment.text) ∧
    r.members.lookup "events" = some (.array (r.events.map IngestEvent.toJson)) := by
  refine ⟨?_, ?_, ?_, ?_, ?_, ?_, ?_⟩
  all_goals simp [members, List.lookup_cons, List.lookup_append, Json.lookup_optionalMember]

theorem lookup_members_of_optional (r : IngestRecord) :
    r.members.lookup "lastUpdatedDate" = r.lastUpdatedDate.map .ofText ∧
    r.members.lookup "sourceLocation" = r.sourceLocation.map SourceLocation.toJson ∧
    r.members.lookup "s3Url" = r.s3Url.map .ofText ∧
    r.members.lookup "displayS3Url" = r.displayS3Url.map .ofText ∧
    r.members.lookup "callback" = r.callback.map Callback.toJson := by
  refine ⟨?_, ?_, ?_, ?_, ?_⟩
  all_goals simp [members, List.lookup_cons, List.lookup_append, Json.lookup_optionalMember]

theorem ofJson?_toJson {r : IngestRecord} (read : r.status.IsRead) :
    ofJson? r.toJson = some r := by
  have fields := Json.fields_ofMembers fieldNames (r.names_members.nodup (by decide))
  obtain ⟨id, space, bag, status, createdDate, environment, events⟩ := r.lookup_members_of_required
  obtain ⟨lastUpdated, source, s3Url, displayS3Url, callback⟩ := r.lookup_members_of_optional
  refine Json.bind_of_some fields ?_
  refine Json.bind_of_some id (Json.bind_of_some (Json.text?_ofText _) ?_)
  refine Json.bind_of_some space (Json.bind_of_some (Json.idField?_ofId _) ?_)
  refine Json.bind_of_some bag (Json.bind_of_some (bagOfJson?_bagToJson _ _) ?_)
  refine Json.bind_of_some status (Json.bind_of_some (Json.idField?_ofId _) ?_)
  refine Json.bind_of_some createdDate (Json.bind_of_some (Json.text?_ofText _) ?_)
  refine Json.bind_of_some (Json.optional_of_eq_map Json.text?_ofText rfl lastUpdated) ?_
  refine Json.bind_of_some (Json.optional_of_eq_map SourceLocation.ofJson?_toJson rfl source) ?_
  refine Json.bind_of_some (Json.optional_of_eq_map Json.text?_ofText rfl s3Url) ?_
  refine Json.bind_of_some (Json.optional_of_eq_map Json.text?_ofText rfl displayS3Url) ?_
  refine Json.bind_of_some (Json.optional_of_eq_map Callback.ofJson?_toJson rfl callback) ?_
  refine Json.bind_of_some environment (Json.bind_of_some (Json.text?_ofText _) ?_)
  have written := IngestEvent.listOfJson?_array r.events
  refine Json.bind_of_some (Json.withDefault_of_eq_some written events) ?_
  rw [IngestStatus.ofText_text read, Environment.ofText_text]

/-- What the fields of a record hold, by their names, that has been read. -/
structure HasFields (r : IngestRecord) (field : String → Option Json) : Prop where
  id : (field "id").bind Json.text? = some r.id.text
  space : (field "space").bind Json.idField? = some r.space
  bag : (field "bag").bind bagOfJson? = some (r.externalIdentifier, r.version)
  status : ∃ word, (field "status").bind Json.idField? = some word ∧ r.status = .ofText word
  createdDate : (field "createdDate").bind Json.text? = some r.createdDate
  lastUpdatedDate : Json.optional Json.text? (field "lastUpdatedDate") = some r.lastUpdatedDate
  sourceLocation :
    Json.optional SourceLocation.ofJson? (field "sourceLocation") = some r.sourceLocation
  s3Url : Json.optional Json.text? (field "s3Url") = some r.s3Url
  displayS3Url : Json.optional Json.text? (field "displayS3Url") = some r.displayS3Url
  callback : Json.optional Callback.ofJson? (field "callback") = some r.callback
  environment : ∃ word, (field "environment").bind Json.text? = some word ∧
    r.environment = .ofText word
  events : Json.withDefault IngestEvent.listOfJson? [] (field "events") = some r.events

theorem hasFields_of_ofJson? {j : Json} {r : IngestRecord} (read : ofJson? j = some r) :
    ∃ field, j.fields fieldNames = some field ∧ r.HasFields field := by
  obtain ⟨field, fields, steps⟩ := Option.bind_eq_some_iff.mp read
  refine ⟨field, fields, ?_⟩
  obtain ⟨id, idRead, steps⟩ := Json.exists_of_required steps
  obtain ⟨space, spaceRead, steps⟩ := Json.exists_of_required steps
  obtain ⟨bag, bagRead, steps⟩ := Json.exists_of_required steps
  obtain ⟨status, statusRead, steps⟩ := Json.exists_of_required steps
  obtain ⟨createdDate, createdRead, steps⟩ := Json.exists_of_required steps
  obtain ⟨lastUpdatedDate, updatedRead, steps⟩ := Option.bind_eq_some_iff.mp steps
  obtain ⟨sourceLocation, sourceRead, steps⟩ := Option.bind_eq_some_iff.mp steps
  obtain ⟨s3Url, urlRead, steps⟩ := Option.bind_eq_some_iff.mp steps
  obtain ⟨displayS3Url, displayRead, steps⟩ := Option.bind_eq_some_iff.mp steps
  obtain ⟨callback, callbackRead, steps⟩ := Option.bind_eq_some_iff.mp steps
  obtain ⟨environment, environmentRead, steps⟩ := Json.exists_of_required steps
  obtain ⟨events, eventsRead, whole⟩ := Option.bind_eq_some_iff.mp steps
  cases whole
  exact ⟨idRead, spaceRead, bagRead, ⟨status, statusRead, rfl⟩, createdRead, updatedRead, sourceRead,
    urlRead, displayRead, callbackRead, ⟨environment, environmentRead, rfl⟩, eventsRead⟩

theorem isRead_of_ofJson? {j : Json} {r : IngestRecord} (h : ofJson? j = some r) :
    r.status.IsRead := by
  obtain ⟨field, -, has⟩ := hasFields_of_ofJson? h
  obtain ⟨word, -, same⟩ := has.status
  rw [same]
  exact IngestStatus.isRead_ofText word

end IngestRecord

namespace RecentIngest

theorem settled_toJson (depth : Nat) (e : RecentIngest) : Json.IsSettled (depth + 4) e.toJson :=
  Json.settled_ofMembers (by simp)
    (by simp [Json.settled_ofText, IngestRecord.settled_toJson])

theorem ofJson?_toJson {e : RecentIngest} (read : e.ingest.status.IsRead) :
    ofJson? e.toJson = some e := by
  have ingest := IngestRecord.ofJson?_toJson read
  refine Json.bind_of_some (Json.fields_ofMembers fieldNames (by simp)) ?_
  refine Json.bind_of_some (a := .ofText e.ingestId.text) (by simp) ?_
  refine Json.bind_of_some (Json.text?_ofText _) ?_
  refine Json.bind_of_some (a := .ofText e.space) (by simp [List.lookup_cons]) ?_
  refine Json.bind_of_some (Json.text?_ofText _) ?_
  refine Json.bind_of_some (a := .ofText e.externalIdentifier) (by simp [List.lookup_cons]) ?_
  refine Json.bind_of_some (Json.text?_ofText _) ?_
  refine Json.bind_of_some (a := e.ingest.toJson) (by simp [List.lookup_cons]) ?_
  exact Json.bind_of_some ingest rfl

/-- What the fields of an entry hold, by their names, that has been read. -/
structure HasFields (e : RecentIngest) (field : String → Option Json) : Prop where
  ingestId : (field "ingestId").bind Json.text? = some e.ingestId.text
  space : (field "space").bind Json.text? = some e.space
  externalIdentifier : (field "externalIdentifier").bind Json.text? = some e.externalIdentifier
  ingest : (field "ingest").bind IngestRecord.ofJson? = some e.ingest

theorem hasFields_of_ofJson? {j : Json} {e : RecentIngest} (read : ofJson? j = some e) :
    ∃ field, j.fields fieldNames = some field ∧ e.HasFields field := by
  obtain ⟨field, fields, steps⟩ := Option.bind_eq_some_iff.mp read
  refine ⟨field, fields, ?_⟩
  obtain ⟨ingestId, idRead, steps⟩ := Json.exists_of_required steps
  obtain ⟨space, spaceRead, steps⟩ := Json.exists_of_required steps
  obtain ⟨externalIdentifier, identifierRead, steps⟩ := Json.exists_of_required steps
  obtain ⟨ingest, ingestRead, whole⟩ := Json.exists_of_required steps
  cases whole
  exact ⟨idRead, spaceRead, identifierRead, ingestRead⟩

theorem isRead_of_ofJson? {j : Json} {e : RecentIngest} (h : ofJson? j = some e) :
    e.ingest.status.IsRead := by
  obtain ⟨field, -, has⟩ := hasFields_of_ofJson? h
  obtain ⟨inner, -, read⟩ := Option.bind_eq_some_iff.mp has.ingest
  exact IngestRecord.isRead_of_ofJson? read

theorem settled_listToJson (depth : Nat) (es : List RecentIngest) :
    Json.IsSettled (depth + 5) (listToJson es) :=
  Json.settled_array (by simp [settled_toJson])

theorem listOfJson?_listToJson {es : List RecentIngest} (read : ∀ e ∈ es, e.ingest.status.IsRead) :
    listOfJson? (listToJson es) = some es := by
  have entries : (es.map toJson).mapM ofJson? = some es :=
    Json.mapM_map fun e h => ofJson?_toJson (read e h)
  simp [listOfJson?, listToJson, Json.items?, entries]

theorem isRead_of_listOfJson? {j : Json} {es : List RecentIngest} (h : listOfJson? j = some es) :
    ∀ e ∈ es, e.ingest.status.IsRead := by
  obtain ⟨xs, -, entries⟩ := Option.bind_eq_some_iff.mp h
  intro e he
  obtain ⟨j, -, read⟩ := Json.exists_of_mem_mapM entries he
  exact isRead_of_ofJson? read

end RecentIngest

end IngestViewer
