import Mathlib.Control.Monad.Basic
import IngestViewer.Proofs.StoreSteps

namespace IngestViewer

/-- What happens to a store: a text is asked for, one is set amid trouble, or setting one is cut off,
between its steps before the last or after some of the folders have been made. -/
inductive StoreCall where
  | get (key : String)
  | set (key value : String) (trouble : DiskStep → Option Mishap)
  | cutOff (key value : String) (trouble : DiskStep → Option Mishap) (steps : Fin 3)
  | cutOffMaking (key : String) (folders : Nat)

namespace FileStore

def after (s : FileStore) (d : Disk) : StoreCall → Disk
  | .get _ => d
  | .set key value trouble => (s.setAmid trouble d key value).2
  | .cutOff key value trouble steps =>
    if isKey key then (run trouble d ((s.setSteps key value).take steps)).2 else d
  | .cutOffMaking key folders =>
    if isKey key && (s.route s.root).isUsable then
      (d.makeEach (s.route s.root).start ((Disk.wayNames (s.route s.root).names).take folders)).2
    else d

def afterAll (s : FileStore) (d : Disk) (calls : List StoreCall) : Disk :=
  calls.foldl s.after d

def putNow (s : FileStore) (d : Disk) (key : String) : StoreCall → Option String
  | .set other value trouble =>
    if other = key ∧ (s.setAmid trouble d key value).1.isOk then some value else none
  | _ => none

/-- The text that has been put under a key last. -/
def lastPut (s : FileStore) (d : Disk) (key : String) : List StoreCall → Option String
  | [] => none
  | call :: calls => (s.lastPut (s.after d call) key calls).or (s.putNow d key call)

variable {s : FileStore} {d : Disk}

/-- What a call comes to for each key: its text has been put, or it is kept. -/
structure Answers (s : FileStore) (d : Disk) (call : StoreCall) : Prop where
  isTree : (s.after d call).IsTree
  within : s.StaysWithin d (s.after d call)
  put : ∀ key value, s.putNow d key call = some value →
    (s.after d call).IsOpen (s.route (s.filePath key)) ∧
      s.get (s.after d call) key = .ok (some value)
  kept : ∀ key, isKey key = true → s.putNow d key call = none → s.Keeps d (s.after d call) key

theorem Answers.of_unnoticed {call : StoreCall} (h : s.Unnoticed d (s.after d call))
    (nothing : ∀ key, s.putNow d key call = none) : s.Answers d call where
  isTree := h.isTree
  within := h.within
  put := by
    intro key value put
    rw [nothing key] at put
    cases put
  kept key valid _ := h.keeps key valid

/-- Up to the last step nothing is noticed, wherever setting a text is cut off. -/
theorem unnoticed_of_run_take (tree : d.IsTree) {key : String} (valid : isKey key = true)
    (trouble : DiskStep → Option Mishap) (value : String) (steps : Fin 3) :
    s.Unnoticed d (run trouble d ((s.setSteps key value).take steps)).2 := by
  refine unnoticed_of_run (fun e inside d d' mishap done tree h => ?_) tree
  have early : e ∈ (s.setSteps key value).take 2 :=
    List.take_subset_take_left _ (Nat.le_of_lt_succ steps.isLt) inside
  simp only [setSteps, List.take_succ_cons, List.take_zero, List.mem_cons, List.not_mem_nil,
    or_false] at early
  rcases early with rfl | rfl
  · exact unnoticed_of_attempt_makeFolders tree h
  · exact (unnoticed_of_attempt_write tree valid h).1

theorem answers_call (tree : d.IsTree) (call : StoreCall) : s.Answers d call := by
  cases call with
  | get key => exact .of_unnoticed (.refl s tree) fun _ => rfl
  | cutOff key value trouble steps =>
    refine .of_unnoticed ?_ fun _ => rfl
    rw [after]
    split
    next valid => exact unnoticed_of_run_take tree valid trouble value steps
    next => exact .refl s tree
  | cutOffMaking key folders =>
    refine .of_unnoticed ?_ fun _ => rfl
    rw [after]
    split
    next =>
      exact unnoticed_of_makeEach tree fun way h => onWay_of_mem_wayNames (List.mem_of_mem_take h)
    next => exact .refl s tree
  | set key value trouble =>
    by_cases valid : isKey key = true
    · have ran : s.setAmid trouble d key value = run trouble d (s.setSteps key value) := by
        rw [setAmid, if_pos valid]
      have sets := sets_of_run (s := s) tree valid trouble value
      rw [← ran] at sets
      refine ⟨sets.isTree, sets.within, ?_, ?_⟩
      · intro other text put
        simp only [putNow, Option.ite_none_right_eq_some, Option.some.injEq] at put
        obtain ⟨⟨rfl, done⟩, rfl⟩ := put
        have own := sets.own
        rw [if_pos done] at own
        exact own
      · intro other validOther nothing
        by_cases same : other = key
        · subst same
          have failed : (s.setAmid trouble d other value).1.isOk = false := by
            simpa [putNow] using nothing
          have own := sets.own
          rw [failed] at own
          exact own
        · exact sets.others other validOther same
    · have refused : s.setAmid trouble d key value = (.error (.invalidKey key), d) := by
        rw [setAmid, if_neg valid]
      refine .of_unnoticed ?_ fun other => ?_
      · rw [after, refused]
        exact .refl s tree
      · by_cases same : key = other
        · subst same
          simp [putNow, refused, Except.isOk, Except.toBool]
        · simp [putNow, same]

theorem isTree_afterAll (tree : d.IsTree) (calls : List StoreCall) : (s.afterAll d calls).IsTree := by
  induction calls generalizing d with
  | nil => exact tree
  | cons call calls ih => exact ih (answers_call tree call).isTree

theorem within_afterAll (tree : d.IsTree) (calls : List StoreCall) :
    s.StaysWithin d (s.afterAll d calls) := by
  induction calls generalizing d with
  | nil => exact .refl s d
  | cons call calls ih =>
    have first := answers_call (s := s) tree call
    exact first.within.trans (ih first.isTree)

theorem keeps_afterAll (tree : d.IsTree) {key : String} (valid : isKey key = true)
    (calls : List StoreCall) (nothing : s.lastPut d key calls = none) :
    s.Keeps d (s.afterAll d calls) key := by
  induction calls generalizing d with
  | nil => exact fun isOpen => ⟨isOpen, rfl⟩
  | cons call calls ih =>
    obtain ⟨later, now⟩ := Option.or_eq_none_iff.mp nothing
    have first := answers_call (s := s) tree call
    exact (first.kept key valid now).trans (ih first.isTree later)

theorem isKey_of_putNow {key value : String} {call : StoreCall}
    (put : s.putNow d key call = some value) : isKey key = true := by
  cases call with
  | set other text trouble =>
    simp only [putNow, Option.ite_none_right_eq_some] at put
    obtain ⟨⟨rfl, done⟩, -⟩ := put
    by_cases valid : isKey other = true
    · exact valid
    · rw [setAmid, if_neg valid] at done
      cases done
  | _ => cases put

theorem get_of_lastPut (tree : d.IsTree) {key value : String} (calls : List StoreCall)
    (put : s.lastPut d key calls = some value) :
    s.get (s.afterAll d calls) key = .ok (some value) := by
  induction calls generalizing d with
  | nil => cases put
  | cons call calls ih =>
    have first := answers_call (s := s) tree call
    rcases Option.or_eq_some_iff.mp put with later | ⟨nothing, now⟩
    · exact ih first.isTree later
    · obtain ⟨isOpen, same⟩ := first.put key value now
      have kept := keeps_afterAll first.isTree (isKey_of_putNow now) calls nothing
      exact (kept isOpen).2.trans same

/-- Between a disk and the one after some calls, a store has acted as a map from keys to texts whose
changes are made as a whole or not at all. -/
structure ActsAsMap (s : FileStore) (d : Disk) (calls : List StoreCall) : Prop where
  put : ∀ key value, s.lastPut d key calls = some value →
    s.get (s.afterAll d calls) key = .ok (some value)
  /-- From any moment on a key keeps what it had, until a text is put under it. -/
  kept : ∀ earlier later key, calls = earlier ++ later → isKey key = true →
    s.lastPut (s.afterAll d earlier) key later = none →
    (s.afterAll d earlier).IsOpen (s.route (s.filePath key)) →
    s.get (s.afterAll d calls) key = s.get (s.afterAll d earlier) key
  opened : s.HasFolder (s.afterAll d calls) →
    ∀ key, isKey key = true → (s.afterAll d calls).IsOpen (s.route (s.filePath key))
  refuses : ∀ key, isKey key = false →
    s.get (s.afterAll d calls) key = .error (.invalidKey key) ∧
    ∀ trouble value, s.setAmid trouble (s.afterAll d calls) key value =
      (.error (.invalidKey key), s.afterAll d calls)
  apart : ∀ key other, isKey key = true → isKey other = true → ∀ file temporary,
    (s.afterAll d calls).lookup (s.route (s.filePath key)) = .ok file →
    (s.afterAll d calls).lookup (s.route (s.temporaryPath other)) = .ok temporary →
    file ≠ temporary
  within : s.StaysWithin d (s.afterAll d calls)

theorem actsAsMap_of_isTree (tree : d.IsTree) (calls : List StoreCall) : s.ActsAsMap d calls where
  put _ _ put := get_of_lastPut tree calls put
  kept earlier later key split valid nothing isOpen := by
    have kept := keeps_afterAll (isTree_afterAll tree earlier) valid later nothing isOpen
    rw [split, afterAll, List.foldl_append]
    exact kept.2
  opened here _ valid := isOpen_of_hasFolder here valid
  refuses key invalid := by simp [get, setAmid, invalid]
  apart key other valid validOther file temporary found located := by
    have here := eq_of_lookup_file (isName_fileName valid) found
    have there := eq_of_lookup_file (isName_temporaryName validOther) located
    rw [here, there]
    simp [fileName_ne_temporaryName]
  within := within_afterAll tree calls

/-- A text that is being replaced, cut off or refused is neither lost nor mixed with a new one. -/
theorem actsAsMap_amid_trouble :
    let s : FileStore := { root := "store" }
    let calls : List StoreCall :=
      [.set "a" "x" fun _ => none, .cutOff "a" "y" (fun _ => none) 2,
        .set "b" "z" fun
          | .rename _ _ => some .refused
          | _ => none,
        .set "a" "w" fun
          | .write _ _ => some (.brokenOff 0)
          | _ => none]
    Disk.empty.IsTree ∧ s.lastPut .empty "a" calls = some "x" ∧ s.lastPut .empty "b" calls = none ∧
      s.get (s.afterAll .empty calls) "a" = .ok (some "x") ∧
      s.get (s.afterAll .empty calls) "b" = s.get .empty "b" := by
  intro s calls
  have tree : Disk.empty.IsTree := by
    intro folder name n there
    simp [Disk.node?, Disk.empty] at there
  have put : s.lastPut .empty "a" calls = some "x" := by decide +kernel
  have nothing : s.lastPut .empty "b" calls = none := by decide +kernel
  have acts := actsAsMap_of_isTree (s := s) tree calls
  have isOpen : Disk.empty.IsOpen (s.route (s.filePath "b")) :=
    Disk.isOpen_of_names (by decide +kernel) _
  have kept := acts.kept [] calls "b" rfl (by decide +kernel) nothing isOpen
  exact ⟨tree, put, nothing, acts.put "a" "x" put, kept⟩

theorem set_of_long {d' : Disk} {key : String} (valid : isKey key = true)
    (long : Disk.nameLimit < (temporaryName key).utf8ByteSize)
    (made : d.makeFolders (s.route s.root) = (true, d')) (value : String) :
    s.set d key value = (.error (.writeTemporary (s.temporaryPath key)), d') := by
  have started : d.attempt (.makeFolders (s.route s.root)) none = (true, d') := made
  have unwritten : d'.attempt (.write (s.route (s.temporaryPath key)) (Utf8.bytes value)) none =
      (false, d') := by
    rw [Disk.attempt, Disk.step, temporaryPath, write_of_long (isName_temporaryName valid) long]
    rfl
  simp only [set, setAmid, valid, if_true, setSteps, run, started, unwritten]

/-- Where a way is not open a key can notice that a folder is made: its name is too long to ask for,
once there is a folder to ask, or the way leads back from there to a text of another folder. -/
theorem new_folder_noticed :
    (let s : FileStore := { root := "store" }
     let key := String.ofList (List.replicate 251 'k')
     isKey key = true ∧ s.get .empty key = .ok none ∧
       (s.set .empty key "v").1 = .error (.writeTemporary (s.temporaryPath key)) ∧
       s.get (s.set .empty key "v").2 key = .error (.readFile (s.filePath key))) ∧
    (let s : FileStore := { root := "new/.." }
     let d : Disk := ⟨[(["old.json"], .file (Utf8.bytes "x"))]⟩
     s.get d "old" = .ok none ∧ (s.set d "j" "v").1 = .ok () ∧
       s.get (s.set d "j" "v").2 "old" = .ok (some "x")) := by
  constructor
  · intro s key
    have valid : isKey key = true := by
      simp only [isKey, key, String.toList_ofList, List.all_replicate]
      decide +kernel
    have usable : (s.route (s.filePath key)).isUsable = true :=
      isUsable_of_room valid (by decide) (by decide) (by decide +kernel) (by decide +kernel)
    have missing : Disk.empty.walk (s.route s.root).start (s.route s.root).names =
        .error .missing := by decide +kernel
    have made : (Disk.empty.makeFolders (s.route s.root)).1 = true := by decide +kernel
    have here : s.HasFolder (Disk.empty.makeFolders (s.route s.root)).2 :=
      ⟨by decide +kernel, by decide +kernel⟩
    have failed := set_of_long valid (by decide +kernel) (Prod.ext made rfl) "v"
    refine ⟨valid, get_of_missing valid usable missing, congrArg (·.1) failed, ?_⟩
    rw [failed]
    exact get_of_long here valid (by decide +kernel)
  · decide +kernel

end FileStore

end IngestViewer
