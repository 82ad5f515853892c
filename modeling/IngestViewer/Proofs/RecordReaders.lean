import IngestViewer.RecordSource
import Mathlib.Data.List.Forall2

namespace IngestViewer.RecordSource

variable {σ τ : Type} {R : σ → τ → Prop} {α β : Type}

section Steps

variable {p : σ → Option α} {q : τ → Option α} {a : Option σ} {b : Option τ}

theorem bind_eq {γ δ : Type} {S : γ → δ → Prop} {c : Option γ} {d : Option δ}
    (related : Option.Rel S c d) {f : γ → Option β} {g : δ → Option β}
    (next : ∀ x y, S x y → f x = g y) : (c >>= f) = (d >>= g) := by
  cases related with
  | none => rfl
  | some h => exact next _ _ h

/-- Reading goes on alike from a field that has to be there. -/
theorem required_eq (related : Option.Rel R a b) (read : ∀ x y, R x y → p x = q y)
    {k k' : α → Option β} (next : ∀ v, k v = k' v) :
    (a >>= fun x => p x >>= k) = (b >>= fun y => q y >>= k') := by
  refine bind_eq related fun x y h => ?_
  rw [read x y h, funext next]

theorem withDefault_eq (related : Option.Rel R a b) (read : ∀ x y, R x y → p x = q y)
    (default : α) {k k' : α → Option β} (next : ∀ v, k v = k' v) :
    (withDefault p default a >>= k) = (withDefault q default b >>= k') := by
  have same : withDefault p default a = withDefault q default b := by
    cases related with
    | none => rfl
    | some h => exact read _ _ h
  rw [same, funext next]

theorem mapM_eq (read : ∀ x y, R x y → p x = q y) {xs : List σ} {ys : List τ}
    (related : List.Forall₂ R xs ys) : xs.mapM p = ys.mapM q := by
  induction related with
  | nil => rfl
  | cons first _ ih => rw [List.mapM_cons, List.mapM_cons, read _ _ first, ih]

end Steps

variable [RecordSource σ] [RecordSource τ]

/-- Whether related values show the same to a reader. -/
structure Alike (R : σ → τ → Prop) : Prop where
  isNull : ∀ x y, R x y → isNull x = isNull y
  text? : ∀ x y, R x y → text? x = text? y
  bool? : ∀ x y, R x y → bool? x = bool? y
  count? : ∀ x y, R x y → count? x = count? y
  textOrNumber? : ∀ x y, R x y → textOrNumber? x = textOrNumber? y
  items? : ∀ x y, R x y → Option.Rel (List.Forall₂ R) (items? x) (items? y)
  fields : ∀ x y, R x y → ∀ names, Option.Rel
    (fun f g => ∀ name, Option.Rel R (f name) (g name)) (fields names x) (fields names y)

theorem list?_eq (alike : Alike R) {p : σ → Option α} {q : τ → Option α}
    (read : ∀ x y, R x y → p x = q y) (x : σ) (y : τ) (related : R x y) :
    list? p x = list? q y :=
  bind_eq (alike.items? x y related) fun _ _ items => mapM_eq read items

/-- What is known of a value: nothing but that it counts as a whole, which fields it has, or what
all of its items are. -/
inductive Shape where
  | whole
  | fields (known : List (String × Shape))
  | items (item : Shape)

namespace Shape

def id : Shape := fields [("id", whole)]

def sourceLocation : Shape := fields [("bucket", whole), ("path", whole)]

def callback : Shape := fields [("status", id), ("url", whole)]

def event : Shape := fields (IngestEvent.fieldNames.map fun name => (name, whole))

def bag : Shape :=
  fields [("info", fields [("externalIdentifier", whole), ("version", whole)])]

def record : Shape :=
  fields [("id", whole), ("space", id), ("bag", bag), ("status", id), ("createdDate", whole),
    ("lastUpdatedDate", whole), ("sourceLocation", sourceLocation), ("s3Url", whole),
    ("displayS3Url", whole), ("callback", callback), ("environment", whole),
    ("events", items event)]

def recentIngest : Shape :=
  fields [("ingestId", whole), ("space", whole), ("externalIdentifier", whole), ("ingest", record)]

end Shape

/-- Whether the fields that are known are related by their shapes. -/
def AgreeOn (S : Shape → σ → τ → Prop) (known : List (String × Shape)) (f : String → Option σ)
    (g : String → Option τ) : Prop :=
  ∀ name shape, known.lookup name = some shape → Option.Rel (S shape) (f name) (g name)

/-- Whether values that are related by a shape show the same to a reader that knows the shape. -/
structure AlikeBy (S : Shape → σ → τ → Prop) : Prop where
  isNull : ∀ shape x y, S shape x y → isNull x = isNull y
  text? : ∀ x y, S .whole x y → text? x = text? y
  bool? : ∀ x y, S .whole x y → bool? x = bool? y
  count? : ∀ x y, S .whole x y → count? x = count? y
  textOrNumber? : ∀ x y, S .whole x y → textOrNumber? x = textOrNumber? y
  list? : ∀ {α : Type} (shape : Shape) (p : σ → Option α) (q : τ → Option α),
    (∀ x y, S shape x y → p x = q y) → ∀ x y, S (.items shape) x y → list? p x = list? q y
  fields : ∀ known x y, S (.fields known) x y →
    Option.Rel (AgreeOn S known) (fields (known.map Prod.fst) x) (fields (known.map Prod.fst) y)

theorem rel_mono {γ δ : Type} {S T : γ → δ → Prop} (mono : ∀ x y, S x y → T x y) {c : Option γ}
    {d : Option δ} (related : Option.Rel S c d) : Option.Rel T c d := by
  cases related with
  | none => exact .none
  | some h => exact .some (mono _ _ h)

theorem Alike.alikeBy (alike : Alike R) : AlikeBy fun _ => R where
  isNull _ := alike.isNull
  text? := alike.text?
  bool? := alike.bool?
  count? := alike.count?
  textOrNumber? := alike.textOrNumber?
  list? _ _ _ read := list?_eq alike read
  fields _ x y related :=
    rel_mono (fun _ _ field name _ _ => field name) (alike.fields x y related _)

section Shapes

variable {S : Shape → σ → τ → Prop}

theorem optional_agree (alike : AlikeBy S) {shape : Shape} {p : σ → Option α} {q : τ → Option α}
    {a : Option σ} {b : Option τ} (related : Option.Rel (S shape) a b)
    (read : ∀ x y, S shape x y → p x = q y) {k k' : Option α → Option β} (next : ∀ v, k v = k' v) :
    (optional p a >>= k) = (optional q b >>= k') := by
  have same : optional p a = optional q b := by
    cases related with
    | none => rfl
    | some h => rw [optional, optional, alike.isNull _ _ _ h, read _ _ h]
  rw [same, funext next]

theorem idField?_agree (alike : AlikeBy S) (x : σ) (y : τ) (related : S .id x y) :
    idField? x = idField? y := by
  refine bind_eq (alike.fields _ x y related) fun f g field => ?_
  exact bind_eq (field "id" _ rfl) alike.text?

theorem sourceLocation?_agree (alike : AlikeBy S) (x : σ) (y : τ)
    (related : S .sourceLocation x y) : sourceLocation? x = sourceLocation? y := by
  refine bind_eq (alike.fields _ x y related) fun f g field => ?_
  refine required_eq (field "bucket" _ rfl) alike.text? fun bucket => ?_
  exact required_eq (field "path" _ rfl) alike.text? fun path => rfl

theorem callback?_agree (alike : AlikeBy S) (x : σ) (y : τ) (related : S .callback x y) :
    callback? x = callback? y := by
  refine bind_eq (alike.fields _ x y related) fun f g field => ?_
  refine required_eq (field "status" _ rfl) (idField?_agree alike) fun status => ?_
  exact optional_agree alike (field "url" _ rfl) alike.text? fun url => rfl

theorem event?_agree (alike : AlikeBy S) (x : σ) (y : τ) (related : S .event x y) :
    event? x = event? y := by
  refine bind_eq (alike.fields _ x y related) fun f g field => ?_
  refine required_eq (field "createdDate" _ rfl) alike.text? fun createdDate => ?_
  refine required_eq (field "description" _ rfl) alike.text? fun description => ?_
  refine withDefault_eq (field "_repeated" _ rfl) alike.bool? false fun repeated => ?_
  refine withDefault_eq (field "_count" _ rfl) alike.count? 1 fun count => ?_
  refine withDefault_eq (field "_is_unmatched_start" _ rfl) alike.bool? false fun unmatched => ?_
  exact optional_agree alike (field "kibanaUrl" _ rfl) alike.text? fun logUrl => rfl

theorem bag?_agree (alike : AlikeBy S) (x : σ) (y : τ) (related : S .bag x y) :
    bag? x = bag? y := by
  refine bind_eq (alike.fields _ x y related) fun f g bag => ?_
  refine bind_eq (bag "info" _ rfl) fun x y info => ?_
  refine bind_eq (alike.fields _ x y info) fun f g field => ?_
  refine required_eq (field "externalIdentifier" _ rfl) alike.text? fun identifier => ?_
  exact optional_agree alike (field "version" _ rfl) alike.textOrNumber? fun version => rfl

/-- Values that are related by the shape of a record are read as the same record, if as any. -/
theorem record?_agree (alike : AlikeBy S) (x : σ) (y : τ) (related : S .record x y) :
    record? x = record? y := by
  refine bind_eq (alike.fields _ x y related) fun f g field => ?_
  refine required_eq (field "id" _ rfl) alike.text? fun id => ?_
  refine required_eq (field "space" _ rfl) (idField?_agree alike) fun space => ?_
  refine required_eq (field "bag" _ rfl) (bag?_agree alike) fun bag => ?_
  refine required_eq (field "status" _ rfl) (idField?_agree alike) fun status => ?_
  refine required_eq (field "createdDate" _ rfl) alike.text? fun createdDate => ?_
  refine optional_agree alike (field "lastUpdatedDate" _ rfl) alike.text? fun updated => ?_
  refine optional_agree alike (field "sourceLocation" _ rfl) (sourceLocation?_agree alike)
    fun location => ?_
  refine optional_agree alike (field "s3Url" _ rfl) alike.text? fun s3Url => ?_
  refine optional_agree alike (field "displayS3Url" _ rfl) alike.text? fun displayS3Url => ?_
  refine optional_agree alike (field "callback" _ rfl) (callback?_agree alike) fun callback => ?_
  refine required_eq (field "environment" _ rfl) alike.text? fun environment => ?_
  exact withDefault_eq (field "events" _ rfl) (alike.list? _ _ _ (event?_agree alike)) []
    fun events => rfl

theorem recentIngest?_agree (alike : AlikeBy S) (x : σ) (y : τ) (related : S .recentIngest x y) :
    recentIngest? x = recentIngest? y := by
  refine bind_eq (alike.fields _ x y related) fun f g field => ?_
  refine required_eq (field "ingestId" _ rfl) alike.text? fun ingestId => ?_
  refine required_eq (field "space" _ rfl) alike.text? fun space => ?_
  refine required_eq (field "externalIdentifier" _ rfl) alike.text? fun identifier => ?_
  exact required_eq (field "ingest" _ rfl) (record?_agree alike) fun ingest => rfl

end Shapes

theorem record?_eq (alike : Alike R) (x : σ) (y : τ) (related : R x y) :
    record? x = record? y :=
  record?_agree alike.alikeBy x y related

theorem recentIngest?_eq (alike : Alike R) (x : σ) (y : τ) (related : R x y) :
    recentIngest? x = recentIngest? y :=
  recentIngest?_agree alike.alikeBy x y related

theorem optional_json {α : Type} (read : Json → Option α) (x : Option Json) :
    optional read x = Json.optional read x := by
  cases x with
  | none => rfl
  | some j => cases j <;> rfl

theorem withDefault_json {α : Type} (read : Json → Option α) (default : α) (x : Option Json) :
    withDefault read default x = Json.withDefault read default x := by
  cases x <;> rfl

theorem callback?_json (j : Json) : callback? j = Callback.ofJson? j := by
  simp only [callback?, optional_json]
  rfl

theorem event?_json (j : Json) : event? j = IngestEvent.ofJson? j := by
  simp only [event?, optional_json, withDefault_json]
  rfl

theorem bag?_json (j : Json) : bag? j = IngestRecord.bagOfJson? j := by
  simp only [bag?, optional_json]
  rfl

/-- A record is read from a text as it goes along by the same rules. -/
theorem record?_json (j : Json) : record? j = IngestRecord.ofJson? j := by
  have callback : (callback? : Json → Option Callback) = Callback.ofJson? := funext callback?_json
  have event : (event? : Json → Option IngestEvent) = IngestEvent.ofJson? := funext event?_json
  simp only [record?, optional_json, withDefault_json, bag?_json, callback, event]
  rfl

theorem recentIngest?_json (j : Json) : recentIngest? j = RecentIngest.ofJson? j := by
  simp only [recentIngest?, record?_json]
  rfl

end IngestViewer.RecordSource
