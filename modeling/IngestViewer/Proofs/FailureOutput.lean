import IngestViewer.Proofs.InspectionOutcome

namespace IngestViewer

/-- A fault of a kind, with nothing more to tell. -/
def FailureKind.fault : FailureKind → LookupFault
  | invalidIngestId => .invalidIngestId
  | ingestNotFound => .ingestNotFound
  | unknownLookupFailure => .unknown (.other "")

/-- What is shown of a failure of which no more is known than the ingest and the kind. -/
def FailureView.ofKind (id : IngestId) (kind : FailureKind) : FailureView :=
  .ofFailure ⟨id, kind.fault⟩

/-- What a lookup command leaves behind if the lookup fails. -/
def Outcome.ofFailedLookup (json : Bool) (id : IngestId) (kind : FailureKind) : Outcome :=
  .ofInspection json (.failed (.ofKind id kind))

/-- A view leaves out the detail, wherever it comes from. -/
theorem FailureView.ofFailure_eq (e : LookupFailure) : ofFailure e = ofKind e.id e.kind := by
  obtain ⟨id, fault⟩ := e
  cases fault <;> rfl

namespace Services

variable {σ τ : Type} {sv : Services σ} {id : IngestId} {selector : Selector} {n : σ}
  {e : LookupFailure}

theorem id_of_lookup (failed : sv.lookup id selector n = .error e) : e.id = id :=
  Gateway.id_of_fetchAll sv.endpoints sv.network id failed

theorem view_of_lookup (failed : sv.lookup id selector n = .error e) :
    FailureView.ofFailure e = .ofKind id e.kind := by
  rw [FailureView.ofFailure_eq, id_of_lookup failed]

theorem inspect_of_lookup (failed : sv.lookup id selector n = .error e) (c : Clock) (d : Disk) :
    (sv.inspect id selector c d n).1 = .failed (.ofKind id e.kind) := by
  rw [inspect_eq, failed]
  exact congrArg Inspection.failed (view_of_lookup failed)

theorem perform_of_lookup (failed : sv.lookup id selector n = .error e) (json : Bool) (c : Clock)
    (d : Disk) : (Program.perform sv c (.lookup id selector json) d n).1 =
      .ofFailedLookup json id e.kind := by
  have shown := inspect_of_lookup failed c d
  exact congrArg (Outcome.ofInspection json) shown

/-- Whatever two services were asked and whatever they answered: if both lookups of an id fail with
the same kind of failure, nothing that is shown tells them apart. It is all made of the id and the
kind. -/
theorem failures_of_a_kind_look_alike (sv : Services σ) (sv' : Services τ) (id : IngestId)
    (selector selector' : Selector) (n : σ) (n' : τ) (e e' : LookupFailure)
    (failed : sv.lookup id selector n = .error e)
    (failed' : sv'.lookup id selector' n' = .error e') (same : e.kind = e'.kind) :
    FailureView.ofFailure e = .ofKind id e.kind ∧
      FailureView.ofFailure e' = FailureView.ofFailure e ∧
      ∀ json c c' d d',
        let outcome := (Program.perform sv c (.lookup id selector json) d n).1
        let outcome' := (Program.perform sv' c' (.lookup id selector' json) d' n').1
        outcome = .ofFailedLookup json id e.kind ∧ outcome' = outcome := by
  have view := view_of_lookup failed
  have view' := view_of_lookup failed'
  refine ⟨view, ?_, ?_⟩
  · rw [view', view, same]
  · intro json c c' d d' outcome outcome'
    have shown : outcome = .ofFailedLookup json id e.kind := perform_of_lookup failed json c d
    have shown' : outcome' = .ofFailedLookup json id e'.kind :=
      perform_of_lookup failed' json c' d'
    refine ⟨shown, ?_⟩
    rw [shown', shown, same]

theorem no_answer_looks_like_a_bad_answer :
    let refused := LookupFailure.mk ⟨"a/b"⟩ (.unknown .connectionFailed)
    let odd := LookupFailure.mk ⟨"a/b"⟩ (.unknown (.status 500 none))
    (replying .unreachable).lookup ⟨"a/b"⟩ .auto () = .error refused ∧
      (replying (.answered 500 [0xFF])).lookup ⟨"a/b"⟩ .auto () = .error odd ∧
      FailureView.ofFailure odd = FailureView.ofFailure refused := by
  intro refused odd
  have failed : (replying .unreachable).lookup ⟨"a/b"⟩ .auto () = .error refused := by
    decide +kernel
  have failed' : (replying (.answered 500 [0xFF])).lookup ⟨"a/b"⟩ .auto () = .error odd := by
    decide +kernel
  exact ⟨failed, failed', (failures_of_a_kind_look_alike _ _ _ _ _ _ _ _ _ failed failed' rfl).2.1⟩

end Services

namespace Program

variable {σ : Type} {s : Surroundings σ} {arguments : List String} {call : Invocation}
  {settings : Settings} {sv : Services σ} {d opened : Disk} {n : σ}

theorem run_of_services (parsed : CommandLine.parse arguments = .ok call)
    (settled : settingsOf s call d = .ok settings)
    (log : openLog d s.workingDirectory (DataPaths.ofRoot settings.dataRoot).logs = some opened)
    (served : servicesOf s call settings = .ok sv) :
    run s arguments d n = perform sv s.clock call.command opened n := by
  rw [run, parsed]
  simp only [execute, settled, log, served]

/-- Neither the settings nor the log let more of a failure through. -/
theorem run_of_failed_lookup {id : IngestId} {selector : Selector} {json : Bool}
    {e : LookupFailure} (parsed : CommandLine.parse arguments = .ok call)
    (settled : settingsOf s call d = .ok settings)
    (log : openLog d s.workingDirectory (DataPaths.ofRoot settings.dataRoot).logs = some opened)
    (served : servicesOf s call settings = .ok sv)
    (command : call.command = .lookup id selector json)
    (failed : sv.lookup id selector n = .error e) :
    (run s arguments d n).1 = .ofFailedLookup json id e.kind := by
  rw [run_of_services parsed settled log served, command]
  exact Services.perform_of_lookup failed json s.clock opened

end Program

end IngestViewer
