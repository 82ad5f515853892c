import IngestViewer.Proofs.ReplyOutcomes
import Mathlib.Control.Monad.Basic

namespace IngestViewer

/-- A URL that a request can be made for: it is of the web, no character of its host is barred, and
it is not too long without the credentials, which are sent beside it. -/
structure Url.IsSendable (url : Url) : Prop where
  web : url.scheme = "http" ∨ url.scheme = "https"
  host : ∀ host, url.host = some host → ∀ c ∈ host.toList, c ∉ ['"', '\x60', '\x7b', '\x7d']
  short : { url with credentials := none }.text.utf8ByteSize ≤ 65534

namespace Gateway

theorem isRequestableHost_iff {host : String} :
    isRequestableHost host = true ↔ ∀ c ∈ host.toList, c ∉ ['"', '\x60', '\x7b', '\x7d'] := by
  simp [isRequestableHost]

theorem isRequestable_iff {url : Url} : isRequestable url = true ↔ url.IsSendable := by
  simp only [isRequestable, Bool.and_eq_true, Bool.or_eq_true, beq_iff_eq, isRequestableHost_iff,
    urlSizeLimit]
  constructor
  · rintro ⟨⟨web, host⟩, short⟩
    refine ⟨web, fun h given => ?_, of_decide_eq_true short⟩
    rwa [given] at host
  · rintro ⟨web, host, short⟩
    refine ⟨⟨web, ?_⟩, decide_eq_true short⟩
    cases given : url.host with
    | none => exact nofun
    | some h => exact host h given

variable {σ : Type}

def logged (network : Network σ) : Network (List Url × σ) := fun url (log, s) =>
  let (reply, s) := network url s
  (reply, log ++ [url], s)

/-- The requests made to ask an environment: one for the member of its collection, or none if there
is no URL that can be sent. -/
def requests (endpoints : Endpoints) (id : IngestId) (e : Environment) : List Url :=
  (((endpoints.base e).member? id.text).filter fun url => isRequestable url).toList

/-- Why nothing can be sent to an environment, if nothing can. -/
def unsentDetail (base : Url) : FailureDetail :=
  match base.path with
  | .opaquePath _ => .noBase base.text
  | .segments _ => .requestFailed

def isAbsent : LookupResult → Bool
  | .ok _ => false
  | .error failure => failure.isNotFound

/-- The environments that are asked: another one only if the one before it has no such ingest. -/
def asked (endpoints : Endpoints) (network : Network σ) (id : IngestId) :
    List Environment → σ → List Environment
  | [], _ => []
  | e :: es, s =>
    let result := fetchFrom endpoints network id e s
    e :: if isAbsent result.1 then asked endpoints network id es result.2 else []

theorem isAbsent_iff {r : LookupResult} :
    isAbsent r = true ↔ ∃ id, r = .error ⟨id, .ingestNotFound⟩ := by
  constructor
  · intro h
    rcases r with ⟨id, _ | _ | detail⟩ | record
    · cases h
    · exact ⟨id, rfl⟩
    · cases h
    · cases h
  · rintro ⟨id, rfl⟩
    rfl

theorem isAbsent_resultOf (id : IngestId) (e : Environment) (reply : Reply) :
    isAbsent (resultOf id e reply) = true ↔ reply.SaysNone := by
  obtain ⟨outcome, brings, result⟩ := brings_resultOf id e reply
  rw [result]
  constructor
  · intro absent
    cases brings with
    | none none => exact none
    | _ => cases absent
  · intro denied
    rw [denied.eq_of_brings brings]
    rfl

variable (endpoints : Endpoints) (network : Network σ) (id : IngestId)

theorem id_of_resultOf {e : Environment} {reply : Reply} {failure : LookupFailure}
    (h : resultOf id e reply = .error failure) : failure.id = id := by
  obtain ⟨outcome, -, result⟩ := brings_resultOf id e reply
  rw [result] at h
  cases outcome <;> cases h
  rfl

/-- A member of a collection differs from it in the path. There is one if the path is divided. -/
theorem member?_cases (base : Url) (name : String) :
    (∃ text, base.path = .opaquePath text ∧ base.member? name = none) ∨
    ∃ ss url, base.path = .segments ss ∧ base.member? name = some url ∧
      url = { base with path := url.path } := by
  rw [Url.member?]
  cases path : base.path with
  | opaquePath text => exact .inl ⟨text, rfl, rfl⟩
  | segments ss => exact .inr ⟨ss, _, rfl, rfl, rfl⟩

/-- An environment is sent one request, whose reply makes the result, or none, and then the lookup
there fails. -/
theorem fetchFrom_eq (e : Environment) (s : σ) :
    (requests endpoints id e = [] ∧ fetchFrom endpoints network id e s =
      (.error ⟨id, .unknown (unsentDetail (endpoints.base e))⟩, s)) ∨
    ∃ url, (endpoints.base e).member? id.text = some url ∧ requests endpoints id e = [url] ∧
      fetchFrom endpoints network id e s = (resultOf id e (network url s).1, (network url s).2) := by
  obtain ⟨text, path, member⟩ | ⟨ss, url, path, member, -⟩ :=
    member?_cases (endpoints.base e) id.text
  · exact .inl (by simp [requests, fetchFrom, unsentDetail, member, path])
  · cases good : isRequestable url with
    | false => exact .inl (by simp [requests, fetchFrom, unsentDetail, member, good, path])
    | true => exact .inr ⟨url, member, by simp [requests, fetchFrom, member, good]⟩

theorem id_of_fetchFrom {e : Environment} {s : σ} {failure : LookupFailure}
    (h : (fetchFrom endpoints network id e s).1 = .error failure) : failure.id = id := by
  obtain ⟨-, result⟩ | ⟨url, -, -, result⟩ := fetchFrom_eq endpoints network id e s
  · rw [result] at h
    cases h
    rfl
  · rw [result] at h
    exact id_of_resultOf id h

/-- The list grows by the requests, and nothing else is different. -/
theorem fetchFrom_logged (e : Environment) (log : List Url) (s : σ) :
    fetchFrom endpoints (logged network) id e (log, s) =
      ((fetchFrom endpoints network id e s).1, log ++ requests endpoints id e,
        (fetchFrom endpoints network id e s).2) := by
  cases member : (endpoints.base e).member? id.text with
  | none => simp [fetchFrom, requests, member]
  | some url =>
    cases good : isRequestable url <;>
      simp [fetchFrom, requests, member, good, logged, Option.filter]

/-- The next environment is asked if the first one has no such ingest, and no other is asked
otherwise. -/
theorem fetchAll_cons (e : Environment) (es : List Environment) (s : σ) :
    fetchAll endpoints network id (e :: es) s =
      if isAbsent (fetchFrom endpoints network id e s).1 then
        fetchAll endpoints network id es (fetchFrom endpoints network id e s).2
      else fetchFrom endpoints network id e s := by
  rw [fetchAll]
  obtain ⟨⟨other, _ | _ | detail⟩ | record, t⟩ := fetchFrom endpoints network id e s
  · rfl
  · rfl
  · rfl
  · rfl

/-- The last environment's result is the result, also that it has no such ingest. -/
theorem fetchAll_singleton (e : Environment) (s : σ) :
    fetchAll endpoints network id [e] s = fetchFrom endpoints network id e s := by
  rw [fetchAll_cons]
  split
  next absent =>
    obtain ⟨other, failed⟩ := isAbsent_iff.mp absent
    have same := id_of_fetchFrom endpoints network id failed
    cases same
    exact Prod.ext failed.symm rfl
  next => rfl

theorem fetchAll_logged (es : List Environment) (log : List Url) (s : σ) :
    fetchAll endpoints (logged network) id es (log, s) =
      ((fetchAll endpoints network id es s).1,
        log ++ (asked endpoints network id es s).flatMap (requests endpoints id),
        (fetchAll endpoints network id es s).2) := by
  induction es generalizing log s with
  | nil => simp [fetchAll, asked]
  | cons e es ih =>
    rw [fetchAll_cons, fetchAll_cons, fetchFrom_logged, asked]
    cases absent : isAbsent (fetchFrom endpoints network id e s).1
    · simp
    · simp [ih]

theorem asked_sublist (es : List Environment) (s : σ) :
    (asked endpoints network id es s).Sublist es := by
  induction es generalizing s with
  | nil => exact .slnil
  | cons e es ih =>
    refine List.cons_sublist_cons.mpr ?_
    cases isAbsent (fetchFrom endpoints network id e s).1
    · exact List.nil_sublist es
    · exact ih _

theorem id_of_fetchAll {es : List Environment} {s : σ} {failure : LookupFailure}
    (h : (fetchAll endpoints network id es s).1 = .error failure) : failure.id = id := by
  induction es generalizing s with
  | nil =>
    cases h
    rfl
  | cons e es ih =>
    rw [fetchAll_cons] at h
    split at h
    · exact ih h
    · exact id_of_fetchFrom endpoints network id h

/-- How a lookup goes on from one environment to the next, for a state of the network. -/
structure FallsBack (s : σ) : Prop where
  /-- An environment whose collection has a divided path is sent one request, which is for a member
  of the collection, if a request can be made for that. -/
  sent : ∀ e ss, (endpoints.base e).path = .segments ss →
    ∃ url, (endpoints.base e).member? id.text = some url ∧
      url = { endpoints.base e with path := url.path } ∧
      (url.IsSendable → requests endpoints id e = [url]) ∧
      (¬url.IsSendable → requests endpoints id e = [])
  /-- One whose path is not divided is sent none. -/
  unsent : ∀ e text, (endpoints.base e).path = .opaquePath text → requests endpoints id e = []
  /-- The reply to the one request makes the result of the environment, whatever has been sent
  before. -/
  replied : ∀ e url t reply u, requests endpoints id e = [url] → network url t = (reply, u) →
    ∃ outcome, reply.Brings e outcome ∧
      fetchFrom endpoints network id e t = (outcome.mapError (⟨id, ·⟩), u)
  /-- An environment that nothing is sent to fails. -/
  unreplied : ∀ e t, requests endpoints id e = [] → fetchFrom endpoints network id e t =
    (.error ⟨id, .unknown (unsentDetail (endpoints.base e))⟩, t)
  /-- A chosen environment is the only one that is asked. -/
  only : ∀ e result t, fetchFrom endpoints network id e s = (result, t) →
    fetch endpoints (logged network) id (.only e) ([], s) = (result, requests endpoints id e, t)
  /-- Without a choice, production is asked first. If it replies that it has no such ingest, staging
  is asked next, and its result is that of the lookup. -/
  next : ∀ url reply t, requests endpoints id .production = [url] → network url s = (reply, t) →
    reply.SaysNone → ∀ result u, fetchFrom endpoints network id .staging t = (result, u) →
    fetch endpoints (logged network) id .auto ([], s) =
      (result, [url] ++ requests endpoints id .staging, u)
  /-- If it replies anything else or not at all, that makes the result, and staging is sent
  nothing. -/
  stops : ∀ url reply t, requests endpoints id .production = [url] → network url s = (reply, t) →
    ¬reply.SaysNone → ∃ outcome, reply.Brings .production outcome ∧
      fetch endpoints (logged network) id .auto ([], s) = (outcome.mapError (⟨id, ·⟩), [url], t)
  /-- If nothing can be sent to it, the lookup fails for that reason. -/
  unstarted : requests endpoints id .production = [] →
    fetch endpoints (logged network) id .auto ([], s) =
      (.error ⟨id, .unknown (unsentDetail endpoints.production)⟩, [], s)
  /-- The requests are those of the environments asked, of which none is asked twice. -/
  distinct : ∀ selector,
    (fetch endpoints (logged network) id selector ([], s)).2.1 =
        (asked endpoints network id selector.candidates s).flatMap (requests endpoints id) ∧
      (asked endpoints network id selector.candidates s).Nodup
  /-- A failure is of the ingest that was looked up. -/
  named : ∀ selector failure,
    (fetch endpoints network id selector s).1 = .error failure → failure.id = id

theorem fetch_only (e : Environment) (s : σ) :
    fetch endpoints (logged network) id (.only e) ([], s) =
      ((fetchFrom endpoints network id e s).1, requests endpoints id e,
        (fetchFrom endpoints network id e s).2) := by
  rw [fetch, Selector.candidates, fetchAll_logged, fetchAll_singleton]
  simp [asked]

theorem fetch_auto_of_absent {s t : σ} {result : LookupResult}
    (first : fetchFrom endpoints network id .production s = (result, t))
    (absent : isAbsent result = true) :
    fetch endpoints (logged network) id .auto ([], s) =
      ((fetchFrom endpoints network id .staging t).1,
        requests endpoints id .production ++ requests endpoints id .staging,
        (fetchFrom endpoints network id .staging t).2) := by
  rw [fetch, Selector.candidates, fetchAll_logged, fetchAll_cons, first, absent]
  simp [asked, first, absent, fetchAll_singleton]

theorem fetch_auto_of_present {s t : σ} {result : LookupResult}
    (first : fetchFrom endpoints network id .production s = (result, t))
    (present : isAbsent result = false) :
    fetch endpoints (logged network) id .auto ([], s) =
      (result, requests endpoints id .production, t) := by
  rw [fetch, Selector.candidates, fetchAll_logged, fetchAll_cons, first, present]
  simp [asked, first, present]

theorem nodup_candidates (selector : Selector) : selector.candidates.Nodup := by
  cases selector <;> simp [Selector.candidates]

theorem requests_of_segments {e : Environment} {ss : List String}
    (path : (endpoints.base e).path = .segments ss) :
    ∃ url, (endpoints.base e).member? id.text = some url ∧
      url = { endpoints.base e with path := url.path } ∧
      (url.IsSendable → requests endpoints id e = [url]) ∧
      (¬url.IsSendable → requests endpoints id e = []) := by
  obtain ⟨text, whole, -⟩ | ⟨ss', url, -, member, same⟩ := member?_cases (endpoints.base e) id.text
  · rw [whole] at path
    cases path
  · refine ⟨url, member, same, fun good => ?_, fun bad => ?_⟩
    · simp [requests, member, isRequestable_iff.mpr good]
    · simp [requests, member, Bool.eq_false_iff.mpr fun good => bad (isRequestable_iff.mp good)]

theorem requests_of_opaquePath {e : Environment} {text : String}
    (path : (endpoints.base e).path = .opaquePath text) : requests endpoints id e = [] := by
  obtain ⟨text', -, member⟩ | ⟨ss, url, divided, -⟩ := member?_cases (endpoints.base e) id.text
  · simp [requests, member]
  · rw [path] at divided
    cases divided

theorem fetchFrom_of_requests {e : Environment} {url : Url} {t u : σ} {reply : Reply}
    (sent : requests endpoints id e = [url]) (got : network url t = (reply, u)) :
    fetchFrom endpoints network id e t = (resultOf id e reply, u) := by
  obtain ⟨nothing, -⟩ | ⟨url', -, once, result⟩ := fetchFrom_eq endpoints network id e t
  · rw [nothing] at sent
    cases sent
  · rw [once] at sent
    cases sent
    rw [result, got]

theorem fetchFrom_of_no_requests {e : Environment} (sent : requests endpoints id e = []) (t : σ) :
    fetchFrom endpoints network id e t =
      (.error ⟨id, .unknown (unsentDetail (endpoints.base e))⟩, t) := by
  obtain ⟨-, result⟩ | ⟨url, -, once, -⟩ := fetchFrom_eq endpoints network id e t
  · exact result
  · rw [once] at sent
    cases sent

/-- Whatever the environments reply, staging is asked only for what production has not. -/
theorem lookup_fallsBack (s : σ) : FallsBack endpoints network id s := by
  constructor
  case sent =>
    intro e ss path
    exact requests_of_segments endpoints id path
  case unsent =>
    intro e text path
    exact requests_of_opaquePath endpoints id path
  case replied =>
    intro e url t reply u sent got
    obtain ⟨outcome, brings, result⟩ := brings_resultOf id e reply
    exact ⟨outcome, brings, by rw [fetchFrom_of_requests endpoints network id sent got, result]⟩
  case unreplied =>
    intro e t sent
    exact fetchFrom_of_no_requests endpoints network id sent t
  case only =>
    intro e result t first
    rw [fetch_only, first]
  case next =>
    intro url reply t sent got none result u second
    have first := fetchFrom_of_requests endpoints network id sent got
    have absent := (isAbsent_resultOf id .production reply).mpr none
    rw [fetch_auto_of_absent endpoints network id first absent, second, sent]
  case stops =>
    intro url reply t sent got other
    have first := fetchFrom_of_requests endpoints network id sent got
    have present : isAbsent (resultOf id .production reply) = false :=
      Bool.eq_false_iff.mpr fun absent => other ((isAbsent_resultOf id _ _).mp absent)
    obtain ⟨outcome, brings, result⟩ := brings_resultOf id .production reply
    refine ⟨outcome, brings, ?_⟩
    rw [fetch_auto_of_present endpoints network id first present, sent, result]
  case unstarted =>
    intro sent
    have first := fetchFrom_of_no_requests endpoints network id sent s
    rw [fetch_auto_of_present endpoints network id first rfl, sent]
    rfl
  case distinct =>
    intro selector
    refine ⟨?_, (nodup_candidates selector).sublist (asked_sublist endpoints network id _ s)⟩
    rw [fetch, fetchAll_logged]
    rfl
  case named =>
    intro selector failure h
    exact id_of_fetchAll endpoints network id h

def twoServers : Endpoints where
  staging := { scheme := "http", host := some "stage.test", path := .segments ["ingests"] }
  production := { scheme := "http", host := some "prod.test", path := .segments [""] }

def absentBody : List UInt8 :=
  Utf8.bytes "\x7b\"code\":1,\"message\":\"Ingest not found.\"\x7d"

def stagedBody : List UInt8 :=
  Utf8.bytes ("\x7b\"id\":\"a\",\"space\":\x7b\"id\":\"s\"\x7d,\"bag\":\x7b\"info\":\x7b" ++
    "\"externalIdentifier\":\"b\"\x7d\x7d,\"status\":\x7b\"id\":\"failed\"\x7d," ++
    "\"createdDate\":\"2026-10-14T09:00:00Z\"\x7d")

def stagedRecord : IngestRecord where
  id := ⟨"a"⟩
  space := "s"
  externalIdentifier := "b"
  status := .failed
  createdDate := "2026-10-14T09:00:00Z"
  environment := .staging

/-- A network that counts the requests. Production says that it has no such ingest, with a status
that is for something else, and staging has a record. -/
def refusingFirst : Network Nat := fun url n =>
  (if url.host = some "prod.test" then .answered 410 absentBody else .answered 200 stagedBody, n + 1)

theorem saysNone_absentBody : (Reply.answered 410 absentBody).SaysNone := by
  refine (isAbsent_resultOf ⟨"a"⟩ .production _).mp ?_
  simp only [resultOf, absentBody, Utf8.lossyText_bytes]
  decide +kernel

theorem record_stagedBody :
    ResponseBody.record .staging (Utf8.lossyText stagedBody) = .ok stagedRecord := by
  rw [stagedBody, Utf8.lossyText_bytes]
  decide +kernel

/-- Production is asked, and then staging. -/
theorem staging_asked_after_production :
    fetch twoServers (logged refusingFirst) ⟨"a"⟩ .auto ([], 0) =
      (.ok stagedRecord, [{ twoServers.production with path := .segments ["a"] },
        { twoServers.staging with path := .segments ["ingests", "a"] }], 2) := by
  have first : requests twoServers ⟨"a"⟩ .production =
      [{ twoServers.production with path := .segments ["a"] }] := by decide +kernel
  have second : requests twoServers ⟨"a"⟩ .staging =
      [{ twoServers.staging with path := .segments ["ingests", "a"] }] := by decide +kernel
  have found : fetchFrom twoServers refusingFirst ⟨"a"⟩ .staging 1 = (.ok stagedRecord, 2) := by
    rw [fetchFrom_of_requests twoServers refusingFirst ⟨"a"⟩ second rfl]
    simp [resultOf, record_stagedBody, twoServers]
  rw [(lookup_fallsBack twoServers refusingFirst ⟨"a"⟩ 0).next _ _ 1 first
    (by simp [refusingFirst, twoServers]) saysNone_absentBody _ _ found, second]
  rfl

end Gateway

end IngestViewer
