import Connect3DpKiosk.Json
import Connect3DpKiosk.MachineState

/-! # The reconciler

    `_parseAtAGlanceState` and `_applyAtAGlanceChanges` of `ws_handler.h`.
    The first applies the AtAGlance snapshot of a subscribe response, the
    second the AtAGlance delta of a state broadcast; both write
    `g_machineState` in place and neither touches `wsConnected`.

    Each function is written as the C++ runs it. The delta is cut where the
    code has its blocks: status, nickname, then `CurrentJobChanges`, whose
    name block (`nameChange`) decides whether the job starts, ends or stays,
    and whose field block (`applyJobFields`) runs only while a job exists.
    Every field update of a delta has one shape, `whenFlagged`.

    Both functions take the ArduinoJson release, which answers their object
    tests: the snapshot's `Job` and the delta's `CurrentJobChanges` are read
    only when `is<JsonObject>()` passes them, which from 6.18 on it never
    does.
-/

namespace Connect3DpKiosk

/-! ## Job records -/

/-- `ms.hasJob = false; ms.job = PrintJobState{};` -/
def MachineState.clearJob (ms : MachineState) : MachineState :=
  { ms with hasJob := false, job := {} }

/-- `ms.hasJob = true; ms.job.name = name;` -/
def MachineState.startJob (ms : MachineState) (name : List UInt8) : MachineState :=
  { ms with hasJob := true, job := { ms.job with name := name } }

/-- `const char* s = v; if (s) ms.status = parseMachineStatus(s);`, for the
    snapshot's `Status` and the delta's `StatusNew` alike. -/
def statusFrom (v : JsonVariant) (status : MachineStatus) : MachineStatus :=
  match v.asString with
  | some s => parseMachineStatus (some s)
  | none => status

/-! ## The snapshot -/

/-- The `Job` object of a snapshot: every field of `ms.job` is assigned,
    absent or mistyped members falling back to `""` and `0`. -/
def parseJob (job : JsonObjectConst) : PrintJobState where
  name := cstrOr job["Name"].asString []
  percentageComplete := job["PercentageComplete"].orInt 0
  remainingTime := cstrOr job["RemainingTime"].asString []
  totalTime := cstrOr job["TotalTime"].asString []
  subStage := cstrOr job["SubStage"].asString []

/-- `_parseAtAGlanceState(state, ms)`, built against release `lib`. -/
def parseAtAGlanceState (lib : ArduinoJson) (state : JsonObjectConst) (ms : MachineState) : MachineState :=
  let ms := { ms with
    status := statusFrom state["Status"] ms.status
    nickname := cstrOr state["Nickname"].asString [] }
  let jobVar := state["Job"]
  if !jobVar.isNull && jobVar.isJsonObject lib then
    { ms with hasJob := true, job := parseJob jobVar.asObject }
  else
    ms.clearJob

/-! ## The delta -/

/-- `if (obj[flag] | false) { field = update(field); }`: every field update
    of a delta has this shape. -/
def whenFlagged {α : Type} (o : JsonObjectConst) (flag : String) (update : α → α) (field : α) : α :=
  if o[flag].orBool false then update field else field

/-- The status and nickname blocks of `_applyAtAGlanceChanges`. -/
def applyStatusNickname (changes : JsonObjectConst) (ms : MachineState) : MachineState :=
  { ms with
    status := whenFlagged changes "StatusHasChanged" (statusFrom changes["StatusNew"]) ms.status
    nickname := whenFlagged changes "NicknameHasChanged"
      (fun _ => cstrOr changes["NicknameNew"].asString []) ms.nickname }

/-- The four job fields after `if (!ms.hasJob) return;`, each under its own
    flag. A null `PercentageCompleteNew`, `RemainingTimeNew` or
    `TotalTimeNew` keeps the field; a null `SubStageNew` clears it. -/
def applyJobFieldChanges (jc : JsonObjectConst) (job : PrintJobState) : PrintJobState :=
  { job with
    percentageComplete := whenFlagged jc "PercentageCompleteHasChanged"
      (jc["PercentageCompleteNew"].orInt ·) job.percentageComplete
    remainingTime := whenFlagged jc "RemainingTimeHasChanged"
      (cstrOr jc["RemainingTimeNew"].asString ·) job.remainingTime
    totalTime := whenFlagged jc "TotalTimeHasChanged"
      (cstrOr jc["TotalTimeNew"].asString ·) job.totalTime
    subStage := whenFlagged jc "SubStageHasChanged"
      (fun _ => cstrOr jc["SubStageNew"].asString []) job.subStage }

/-- `if (!ms.hasJob) return;` and the field updates after it. -/
def applyJobFields (jc : JsonObjectConst) (ms : MachineState) : MachineState :=
  if ms.hasJob then { ms with job := applyJobFieldChanges jc ms.job } else ms

/-- What the name block of `CurrentJobChanges` does to the job. -/
inductive NameChange where
  /-- `NameHasChanged` is not set. -/
  | keep
  /-- A non-empty `NameNew`: a job starts or continues under this name. -/
  | start (name : List UInt8)
  /-- A null or empty `NameNew`: the job ends and the delta stops. -/
  | finish
  deriving DecidableEq, Repr

/-- `if (jc["NameHasChanged"] | false) { const char* newName = jc["NameNew"]; if (newName && newName[0] != '\0') ... }` -/
def nameChange (jc : JsonObjectConst) : NameChange :=
  if jc["NameHasChanged"].orBool false then
    match jc["NameNew"].asString with
    | some newName => if newName.bytes ≠ [] then .start newName.bytes else .finish
    | none => .finish
  else .keep

/-- A name block that does anything was flagged. -/
theorem nameHasChanged_of_nameChange_ne_keep {jc : JsonObjectConst} (h : nameChange jc ≠ .keep) :
    jc["NameHasChanged"] = .bool true := by
  unfold nameChange at h
  split at h
  · exact JsonVariant.orBool_false_iff.1 ‹_›
  · exact absurd rfl h

/-- The name block ends the job exactly on a flagged `NameNew` that does not
    read as a non-empty string. -/
theorem nameChange_eq_finish_iff {jc : JsonObjectConst} :
    nameChange jc = .finish ↔
      jc["NameHasChanged"] = .bool true ∧ ∀ n, jc["NameNew"].asString = some n → n.bytes = [] := by
  unfold nameChange
  rw [← JsonVariant.orBool_false_iff]
  split
  · rename_i hf
    cases h : jc["NameNew"].asString with
    | none => simp [hf]
    | some n => by_cases hn : n.bytes = [] <;> simp [hf, hn]
  · simp_all

/-- The `CurrentJobChanges` part of `_applyAtAGlanceChanges`. -/
def applyJobChanges (jc : JsonObjectConst) (ms : MachineState) : MachineState :=
  match nameChange jc with
  | .keep => applyJobFields jc ms
  | .start name => applyJobFields jc (ms.startJob name)
  | .finish => ms.clearJob

/-- `_applyAtAGlanceChanges(changes, ms)`, built against release `lib`. -/
def applyAtAGlanceChanges (lib : ArduinoJson) (changes : JsonObjectConst) (ms : MachineState) :
    MachineState :=
  let ms := applyStatusNickname changes ms
  let jobChangesVar := changes["CurrentJobChanges"]
  if jobChangesVar.isNull || !jobChangesVar.isJsonObject lib then ms
  else applyJobChanges jobChangesVar.asObject ms

/-! ## Field lemmas

    What each block writes and what it leaves alone, stated once so that no
    later proof unfolds a block. -/

section fields
variable (lib : ArduinoJson) (ms : MachineState) (jc changes : JsonObjectConst) (name : List UInt8)

@[simp] theorem MachineState.clearJob_wsConnected : ms.clearJob.wsConnected = ms.wsConnected := rfl
@[simp] theorem MachineState.clearJob_status : ms.clearJob.status = ms.status := rfl
@[simp] theorem MachineState.clearJob_nickname : ms.clearJob.nickname = ms.nickname := rfl
@[simp] theorem MachineState.clearJob_hasJob : ms.clearJob.hasJob = false := rfl
@[simp] theorem MachineState.clearJob_job : ms.clearJob.job = {} := rfl

@[simp] theorem MachineState.startJob_wsConnected : (ms.startJob name).wsConnected = ms.wsConnected := rfl
@[simp] theorem MachineState.startJob_status : (ms.startJob name).status = ms.status := rfl
@[simp] theorem MachineState.startJob_nickname : (ms.startJob name).nickname = ms.nickname := rfl
@[simp] theorem MachineState.startJob_hasJob : (ms.startJob name).hasJob = true := rfl
@[simp] theorem MachineState.startJob_job : (ms.startJob name).job = { ms.job with name := name } := rfl

@[simp] theorem applyStatusNickname_wsConnected :
    (applyStatusNickname changes ms).wsConnected = ms.wsConnected := rfl
@[simp] theorem applyStatusNickname_hasJob : (applyStatusNickname changes ms).hasJob = ms.hasJob := rfl
@[simp] theorem applyStatusNickname_job : (applyStatusNickname changes ms).job = ms.job := rfl
@[simp] theorem applyStatusNickname_status :
    (applyStatusNickname changes ms).status =
      whenFlagged changes "StatusHasChanged" (statusFrom changes["StatusNew"]) ms.status := rfl
@[simp] theorem applyStatusNickname_nickname :
    (applyStatusNickname changes ms).nickname =
      whenFlagged changes "NicknameHasChanged"
        (fun _ => cstrOr changes["NicknameNew"].asString []) ms.nickname := rfl

@[simp] theorem applyJobFieldChanges_name (job : PrintJobState) :
    (applyJobFieldChanges jc job).name = job.name := rfl

@[simp] theorem applyJobFields_wsConnected : (applyJobFields jc ms).wsConnected = ms.wsConnected := by
  unfold applyJobFields; split <;> rfl
@[simp] theorem applyJobFields_status : (applyJobFields jc ms).status = ms.status := by
  unfold applyJobFields; split <;> rfl
@[simp] theorem applyJobFields_nickname : (applyJobFields jc ms).nickname = ms.nickname := by
  unfold applyJobFields; split <;> rfl
@[simp] theorem applyJobFields_hasJob : (applyJobFields jc ms).hasJob = ms.hasJob := by
  unfold applyJobFields; split <;> rfl
theorem applyJobFields_job :
    (applyJobFields jc ms).job = if ms.hasJob then applyJobFieldChanges jc ms.job else ms.job := by
  unfold applyJobFields; split <;> rfl

theorem applyJobChanges_hasJob :
    (applyJobChanges jc ms).hasJob =
      match nameChange jc with
      | .keep => ms.hasJob
      | .start _ => true
      | .finish => false := by
  unfold applyJobChanges; split <;> simp_all

theorem applyJobChanges_job :
    (applyJobChanges jc ms).job =
      match nameChange jc with
      | .keep => if ms.hasJob then applyJobFieldChanges jc ms.job else ms.job
      | .start name => applyJobFieldChanges jc { ms.job with name := name }
      | .finish => {} := by
  unfold applyJobChanges; split <;> simp_all [applyJobFields_job]

@[simp] theorem applyJobChanges_wsConnected : (applyJobChanges jc ms).wsConnected = ms.wsConnected := by
  unfold applyJobChanges; split <;> simp
@[simp] theorem applyJobChanges_status : (applyJobChanges jc ms).status = ms.status := by
  unfold applyJobChanges; split <;> simp
@[simp] theorem applyJobChanges_nickname : (applyJobChanges jc ms).nickname = ms.nickname := by
  unfold applyJobChanges; split <;> simp

/-- The delta as its three blocks: status and nickname always, the job part
    only when the release takes `CurrentJobChanges` for an object. -/
theorem applyAtAGlanceChanges_eq :
    applyAtAGlanceChanges lib changes ms =
      if changes["CurrentJobChanges"].isJsonObject lib then
        applyJobChanges changes["CurrentJobChanges"].asObject (applyStatusNickname changes ms)
      else applyStatusNickname changes ms := by
  simp only [applyAtAGlanceChanges, JsonVariant.isNull_or_not_isJsonObject]
  split <;> simp_all

/-- From 6.18 on, the job part of a delta never runs. -/
@[simp] theorem applyAtAGlanceChanges_from6_18 :
    applyAtAGlanceChanges .from6_18 changes ms = applyStatusNickname changes ms := by
  simp [applyAtAGlanceChanges_eq]

@[simp] theorem applyAtAGlanceChanges_wsConnected :
    (applyAtAGlanceChanges lib changes ms).wsConnected = ms.wsConnected := by
  rw [applyAtAGlanceChanges_eq]; split <;> simp

/-- The snapshot as the status and nickname it always writes, then the job. -/
theorem parseAtAGlanceState_eq (state : JsonObjectConst) :
    parseAtAGlanceState lib state ms =
      if state["Job"].isJsonObject lib then
        { ms with status := statusFrom state["Status"] ms.status,
                  nickname := cstrOr state["Nickname"].asString [],
                  hasJob := true, job := parseJob state["Job"].asObject }
      else
        { ms with status := statusFrom state["Status"] ms.status,
                  nickname := cstrOr state["Nickname"].asString [] }.clearJob := by
  simp only [parseAtAGlanceState, JsonVariant.notNull_and_isJsonObject]

section snapshot
variable (state : JsonObjectConst)

@[simp] theorem parseAtAGlanceState_wsConnected :
    (parseAtAGlanceState lib state ms).wsConnected = ms.wsConnected := by
  rw [parseAtAGlanceState_eq]; split <;> rfl

@[simp] theorem parseAtAGlanceState_status :
    (parseAtAGlanceState lib state ms).status = statusFrom state["Status"] ms.status := by
  rw [parseAtAGlanceState_eq]; split <;> rfl

@[simp] theorem parseAtAGlanceState_nickname :
    (parseAtAGlanceState lib state ms).nickname = cstrOr state["Nickname"].asString [] := by
  rw [parseAtAGlanceState_eq]; split <;> rfl

@[simp] theorem parseAtAGlanceState_hasJob :
    (parseAtAGlanceState lib state ms).hasJob = state["Job"].isJsonObject lib := by
  rw [parseAtAGlanceState_eq]; split <;> simp_all

theorem parseAtAGlanceState_job :
    (parseAtAGlanceState lib state ms).job =
      if state["Job"].isJsonObject lib then parseJob state["Job"].asObject else {} := by
  rw [parseAtAGlanceState_eq]; split <;> simp_all

end snapshot

@[simp] theorem applyAtAGlanceChanges_status :
    (applyAtAGlanceChanges lib changes ms).status =
      whenFlagged changes "StatusHasChanged" (statusFrom changes["StatusNew"]) ms.status := by
  rw [applyAtAGlanceChanges_eq]; split <;> simp

@[simp] theorem applyAtAGlanceChanges_nickname :
    (applyAtAGlanceChanges lib changes ms).nickname =
      whenFlagged changes "NicknameHasChanged"
        (fun _ => cstrOr changes["NicknameNew"].asString []) ms.nickname := by
  rw [applyAtAGlanceChanges_eq]; split <;> simp

end fields

/-! ## `whenFlagged` -/

section flagged
variable {α : Type} {o : JsonObjectConst} {flag : String} {update : α → α} {field : α}

@[simp] theorem whenFlagged_of_not_set (h : o[flag].orBool false = false) :
    whenFlagged o flag update field = field := by
  rw [whenFlagged, if_neg (by rw [h]; decide)]

/-- A field a delta changed was flagged by the JSON `true`. -/
theorem flag_of_whenFlagged_ne (h : whenFlagged o flag update field ≠ field) :
    o[flag] = .bool true := by
  unfold whenFlagged at h
  split at h
  · exact JsonVariant.orBool_false_iff.1 ‹_›
  · exact absurd rfl h

/-- A flagged update applied twice is applied once, when the update is. -/
theorem whenFlagged_idem (hu : ∀ x, update (update x) = update x) :
    whenFlagged o flag update (whenFlagged o flag update field) = whenFlagged o flag update field := by
  unfold whenFlagged; split <;> simp [hu]

@[simp] theorem whenFlagged_const_idem (value : α) :
    whenFlagged o flag (fun _ => value) (whenFlagged o flag (fun _ => value) field) =
      whenFlagged o flag (fun _ => value) field :=
  whenFlagged_idem fun _ => rfl

/-- `applyJobFieldChanges` moves each field only under that field's flag. -/
theorem applyJobFieldChanges_flagged {jc : JsonObjectConst} {job : PrintJobState} :
    ((applyJobFieldChanges jc job).percentageComplete ≠ job.percentageComplete →
      jc["PercentageCompleteHasChanged"] = .bool true) ∧
    ((applyJobFieldChanges jc job).remainingTime ≠ job.remainingTime →
      jc["RemainingTimeHasChanged"] = .bool true) ∧
    ((applyJobFieldChanges jc job).totalTime ≠ job.totalTime →
      jc["TotalTimeHasChanged"] = .bool true) ∧
    ((applyJobFieldChanges jc job).subStage ≠ job.subStage →
      jc["SubStageHasChanged"] = .bool true) :=
  ⟨flag_of_whenFlagged_ne, flag_of_whenFlagged_ne, flag_of_whenFlagged_ne,
    @flag_of_whenFlagged_ne _ jc _ (fun _ => cstrOr jc["SubStageNew"].asString []) job.subStage⟩

end flagged

end Connect3DpKiosk
