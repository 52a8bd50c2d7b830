import Mathlib.Data.List.Chain
import Connect3DpKiosk.ReconcilerLaws

/-! # Snapshots and deltas of one server state

    The server sends a kiosk its machine's AtAGlance state twice over: whole,
    in the subscribe response (`_parseAtAGlanceState`), and as the
    AtAGlanceChanges between consecutive states, in every state broadcast
    (`_applyAtAGlanceChanges`). The protocol comment at the head of
    `ws_handler.h` documents the delta: for each field `F`, `<F>HasChanged` and
    `<F>New`, the job's fields inside `CurrentJobChanges`.

    This file gives the server's side: `AtAGlanceView`, what the kiosk reads of
    one server state, with the job as a `ServerJob` that cannot lack its name;
    `diff`, the documented delta between two views; and `shownOn`, the kiosk
    state a view stands for. Over them:

    * a snapshot of a well-formed state is `shownOn` of its view;
    * a delta from `a` to `b` takes a kiosk showing `c` to one showing `b`,
      when `c` agrees with `b` on what the delta does not flag, and finds a
      field already unread where `b`'s value is null (the delta's code keeps
      the old value on a null `PercentageCompleteNew`, `RemainingTimeNew` or
      `TotalTimeNew`, where a snapshot writes `0` or `""`);
    * so a delta that arrives after the snapshot it leads to changes nothing,
      and a run of deltas ends where a snapshot of the last state would, as
      long as no job field of a running job goes from a value to null; without
      that proviso it still ends there on everything but those three fields.

    The kiosk reads of each state what its ArduinoJson release lets it read
    (`AtAGlanceView.readBy`): all of it up to 6.17, no job from 6.18 on. Every
    result is the simulation above on the views the release reads, so it
    holds for both releases; from 6.18 on no job value is ever read, and the
    proviso is void.
-/

namespace Connect3DpKiosk

/-! ## The server's states -/

/-- The JSON of a string-or-null member. -/
def ofStringOrNull : Option CStr → JsonVariant
  | some s => .string s
  | none => .null

/-- The JSON of an integer-or-null member. -/
def ofIntOrNull : Option Int → JsonVariant
  | some n => .int n
  | none => .null

/-- A JSON integer, of any size. -/
def JsonVariant.asInteger? : JsonVariant → Option Int
  | .int n => some n
  | _ => none

/-- The job of a server state, as a well-formed state carries it: a
    non-empty `Name`, every other member a value or null. -/
structure ServerJob where
  /-- `Name`. -/
  name : CStr
  name_ne_nil : name.bytes ≠ []
  /-- `PercentageComplete`. -/
  percentageComplete : Option Int
  /-- `RemainingTime`. -/
  remainingTime : Option CStr
  /-- `TotalTime`. -/
  totalTime : Option CStr
  /-- `SubStage`. -/
  subStage : Option CStr
  deriving DecidableEq

/-- What the kiosk reads of an AtAGlance server state. -/
structure AtAGlanceView where
  /-- `Status`. -/
  status : Option CStr
  /-- `Nickname`. -/
  nickname : Option CStr
  /-- `Job`, absent when the state has no job. -/
  job : Option ServerJob
  deriving DecidableEq

/-- The `Job` of a state: an object with a non-empty string `Name`. -/
def jobViewOf (job : JsonObjectConst) : Option ServerJob :=
  match job["Name"].asString with
  | some name =>
    if h : name.bytes ≠ [] then
      some { name, name_ne_nil := h
             percentageComplete := job["PercentageComplete"].asInteger?
             remainingTime := job["RemainingTime"].asString
             totalTime := job["TotalTime"].asString
             subStage := job["SubStage"].asString }
    else none
  | none => none

/-- The view of an AtAGlance state object. -/
def viewOf (state : JsonObjectConst) : AtAGlanceView where
  status := state["Status"].asString
  nickname := state["Nickname"].asString
  job := jobViewOf state["Job"].asObject

/-- A string or null member; an absent member reads as null. -/
def stringOrNull (v : JsonVariant) : Bool := v.isNull || v.asString.isSome

/-- An integer or null member. -/
def intOrNull (v : JsonVariant) : Bool := v.isNull || v.asInteger?.isSome

/-- A well-formed AtAGlance state: `Status` a string, `Nickname` a string or
    null, and `Job` null (or absent) or an object with a non-empty string
    `Name`, an integer or null `PercentageComplete`, and strings or null for
    `RemainingTime`, `TotalTime` and `SubStage`. -/
def WellFormedState (state : JsonObjectConst) : Prop :=
  state["Status"].asString.isSome ∧ stringOrNull state["Nickname"] ∧
  (state["Job"].isNull ∨
    state["Job"].isObject ∧ (state["Job"]["Name"].asString.any fun n => n.bytes ≠ []) ∧
    intOrNull state["Job"]["PercentageComplete"] ∧ stringOrNull state["Job"]["RemainingTime"] ∧
    stringOrNull state["Job"]["TotalTime"] ∧ stringOrNull state["Job"]["SubStage"])

instance (state : JsonObjectConst) : Decidable (WellFormedState state) :=
  inferInstanceAs (Decidable (_ ∧ _))

/-! ## The documented delta

    A state without a job reads as a job whose every member is null. -/

namespace AtAGlanceView
variable (v : AtAGlanceView)

/-- The job's `Name`. -/
def name : Option CStr := v.job.map ServerJob.name
/-- The job's `PercentageComplete`. -/
def percentageComplete : Option Int := v.job.bind ServerJob.percentageComplete
/-- The job's `RemainingTime`. -/
def remainingTime : Option CStr := v.job.bind ServerJob.remainingTime
/-- The job's `TotalTime`. -/
def totalTime : Option CStr := v.job.bind ServerJob.totalTime
/-- The job's `SubStage`. -/
def subStage : Option CStr := v.job.bind ServerJob.subStage

end AtAGlanceView

/-- `CurrentJobChanges` between the jobs of two server states. -/
def jobDiff (a b : AtAGlanceView) : JsonObjectConst :=
  ⟨[("NameHasChanged", .bool (a.name ≠ b.name)), ("NameNew", ofStringOrNull b.name),
    ("PercentageCompleteHasChanged", .bool (a.percentageComplete ≠ b.percentageComplete)),
    ("PercentageCompleteNew", ofIntOrNull b.percentageComplete),
    ("RemainingTimeHasChanged", .bool (a.remainingTime ≠ b.remainingTime)),
    ("RemainingTimeNew", ofStringOrNull b.remainingTime),
    ("TotalTimeHasChanged", .bool (a.totalTime ≠ b.totalTime)),
    ("TotalTimeNew", ofStringOrNull b.totalTime),
    ("SubStageHasChanged", .bool (a.subStage ≠ b.subStage)),
    ("SubStageNew", ofStringOrNull b.subStage)]⟩

/-- The AtAGlanceChanges from server state `a` to server state `b`: each
    `<F>HasChanged` says whether `F` differs, each `<F>New` is `b`'s `F`. -/
def diff (a b : AtAGlanceView) : JsonObjectConst :=
  ⟨[("StatusHasChanged", .bool (a.status ≠ b.status)), ("StatusNew", ofStringOrNull b.status),
    ("NicknameHasChanged", .bool (a.nickname ≠ b.nickname)),
    ("NicknameNew", ofStringOrNull b.nickname),
    ("CurrentJobChanges", .object (jobDiff a b).members)]⟩

/-! ## What a view stands for -/

/-- The job record of a view, as a snapshot would fill it. -/
def AtAGlanceView.shownJob (v : AtAGlanceView) : PrintJobState where
  name := cstrOr v.name []
  percentageComplete := (ofIntOrNull v.percentageComplete).orInt 0
  remainingTime := cstrOr v.remainingTime []
  totalTime := cstrOr v.totalTime []
  subStage := cstrOr v.subStage []

/-- The kiosk state that shows server state `v`, on a kiosk in state `st`:
    the link flag is the kiosk's own, as is the status when `v` has none. -/
def AtAGlanceView.shownOn (v : AtAGlanceView) (st : MachineState) : MachineState :=
  { st with
    status := statusFrom (ofStringOrNull v.status) st.status
    nickname := cstrOr v.nickname []
    hasJob := v.job.isSome
    job := v.shownJob }

/-- What a kiosk built against release `lib` reads of a server state: all of
    it up to ArduinoJson 6.17; no job from 6.18 on, where the object test
    that guards `Job` and `CurrentJobChanges` always fails. -/
def AtAGlanceView.readBy (lib : ArduinoJson) (v : AtAGlanceView) : AtAGlanceView :=
  match lib with
  | .upTo6_17 => v
  | .from6_18 => { v with job := none }

section reading

@[simp] theorem AtAGlanceView.readBy_upTo6_17 (v : AtAGlanceView) : v.readBy .upTo6_17 = v := rfl
@[simp] theorem AtAGlanceView.readBy_from6_18_job (v : AtAGlanceView) : (v.readBy .from6_18).job = none := rfl
@[simp] theorem AtAGlanceView.readBy_status (lib : ArduinoJson) (v : AtAGlanceView) :
    (v.readBy lib).status = v.status := by
  cases lib <;> rfl
@[simp] theorem AtAGlanceView.readBy_nickname (lib : ArduinoJson) (v : AtAGlanceView) :
    (v.readBy lib).nickname = v.nickname := by
  cases lib <;> rfl

@[simp] theorem ofStringOrNull_none : ofStringOrNull none = .null := rfl
@[simp] theorem ofIntOrNull_none : ofIntOrNull none = .null := rfl

@[simp] theorem asString_ofStringOrNull (p : Option CStr) : (ofStringOrNull p).asString = p := by
  cases p <;> rfl

@[simp] theorem statusFrom_null (s : MachineStatus) : statusFrom .null s = s := rfl

@[simp] theorem statusFrom_ofStringOrNull_some (x : CStr) (s : MachineStatus) :
    statusFrom (ofStringOrNull (some x)) s = parseMachineStatus (some x) := rfl

@[simp] theorem orInt_ofIntOrNull_asInteger? (v : JsonVariant) (d : Int) :
    (ofIntOrNull v.asInteger?).orInt d = v.orInt d := by
  cases v <;> rfl

theorem statusFrom_ofStringOrNull_asString (v : JsonVariant) :
    statusFrom (ofStringOrNull v.asString) = statusFrom v := by
  funext s; cases h : v.asString <;> simp [statusFrom, h]

end reading

/-! ## The delta on documented changes -/

section delta
variable (a b : AtAGlanceView) (ms : MachineState) (job : PrintJobState)

theorem applyStatusNickname_diff :
    applyStatusNickname (diff a b) ms =
      { ms with
        status := if a.status = b.status then ms.status else statusFrom (ofStringOrNull b.status) ms.status
        nickname := if a.nickname = b.nickname then ms.nickname else cstrOr b.nickname [] } := by
  simp [applyStatusNickname, whenFlagged, diff]

theorem applyJobFieldChanges_jobDiff :
    applyJobFieldChanges (jobDiff a b) job =
      { job with
        percentageComplete := if a.percentageComplete = b.percentageComplete then job.percentageComplete
          else (ofIntOrNull b.percentageComplete).orInt job.percentageComplete
        remainingTime := if a.remainingTime = b.remainingTime then job.remainingTime
          else cstrOr b.remainingTime job.remainingTime
        totalTime := if a.totalTime = b.totalTime then job.totalTime else cstrOr b.totalTime job.totalTime
        subStage := if a.subStage = b.subStage then job.subStage else cstrOr b.subStage [] } := by
  simp [applyJobFieldChanges, whenFlagged, jobDiff]

theorem nameChange_jobDiff :
    nameChange (jobDiff a b) =
      if a.name = b.name then .keep else
        match b.job with
        | some j => .start j.name.bytes
        | none => .finish := by
  by_cases h : a.name = b.name
  · simp [nameChange, jobDiff, h]
  · have hf : (jobDiff a b)["NameHasChanged"].orBool false = true := by simpa [jobDiff] using h
    rw [if_neg h, nameChange, if_pos hf]
    rcases hb : b.job with _ | j <;> simp [jobDiff, AtAGlanceView.name, hb, ServerJob.name_ne_nil]

/-- The `CurrentJobChanges` part of a documented delta, by its name block. -/
theorem applyJobChanges_jobDiff :
    applyJobChanges (jobDiff a b) ms =
      if a.name = b.name then applyJobFields (jobDiff a b) ms else
        match b.job with
        | some j => applyJobFields (jobDiff a b) (ms.startJob j.name.bytes)
        | none => ms.clearJob := by
  unfold applyJobChanges
  rw [nameChange_jobDiff]
  split_ifs
  · rfl
  · cases b.job <;> rfl

/-- Between two states without a job, `CurrentJobChanges` flags nothing. -/
theorem applyJobChanges_jobDiff_of_none {a b : AtAGlanceView} (ha : a.job = none) (hb : b.job = none) :
    applyJobChanges (jobDiff a b) ms = ms := by
  simp [applyJobChanges_jobDiff, applyJobFields, applyJobFieldChanges_jobDiff, AtAGlanceView.name,
    AtAGlanceView.percentageComplete, AtAGlanceView.remainingTime, AtAGlanceView.totalTime,
    AtAGlanceView.subStage, ha, hb]

/-- **What a release applies of a documented delta.** The status and
    nickname blocks, then the `CurrentJobChanges` between the views the
    release reads: from 6.18 on, between two views without a job, which
    changes nothing. -/
theorem applyAtAGlanceChanges_diff (lib : ArduinoJson) :
    applyAtAGlanceChanges lib (diff a b) ms =
      applyJobChanges (jobDiff (a.readBy lib) (b.readBy lib))
        (applyStatusNickname (diff (a.readBy lib) (b.readBy lib)) ms) := by
  cases lib
  · rw [applyAtAGlanceChanges_eq]; rfl
  · rw [applyJobChanges_jobDiff_of_none _ rfl rfl, applyAtAGlanceChanges_from6_18]
    simp [applyStatusNickname_diff]

end delta

/-! ## A snapshot shows its state -/

/-- Without a job every job member reads as null, and the job record is
    empty. -/
theorem AtAGlanceView.shownJob_of_job_none {v : AtAGlanceView} (h : v.job = none) : v.shownJob = {} := by
  simp [shownJob, name, percentageComplete, remainingTime, totalTime, subStage, h]

theorem AtAGlanceView.isSome_job_of_name {v w : AtAGlanceView} (h : v.name = w.name) :
    v.job.isSome = w.job.isSome := by
  simpa [name] using congrArg Option.isSome h

/-- **Snapshots.** `_parseAtAGlanceState` of a well-formed state leaves the
    kiosk showing what its release reads of that state. -/
theorem parseAtAGlanceState_of_wellFormed {lib : ArduinoJson} {state : JsonObjectConst}
    (h : WellFormedState state) (st : MachineState) :
    parseAtAGlanceState lib state st = ((viewOf state).readBy lib).shownOn st := by
  cases lib
  case from6_18 =>
    simp [parseAtAGlanceState_eq, viewOf, AtAGlanceView.shownOn, AtAGlanceView.shownJob_of_job_none,
      statusFrom_ofStringOrNull_asString, MachineState.clearJob]
  obtain ⟨-, -, hjob | ⟨hobj, hname, -⟩⟩ := h
  · have hnull : state["Job"] = .null := by cases hv : state["Job"] <;> simp_all [JsonVariant.isNull]
    rw [parseAtAGlanceState_eq]
    simp [hnull, viewOf, jobViewOf, JsonVariant.asObject, JsonVariant.isObject, AtAGlanceView.shownOn,
      AtAGlanceView.shownJob_of_job_none, statusFrom_ofStringOrNull_asString, MachineState.clearJob]
  · rw [JsonVariant.getElem_eq_asObject] at hname
    rw [parseAtAGlanceState_eq]
    cases hn : state["Job"].asObject["Name"].asString with
    | none => simp [hn] at hname
    | some n =>
      simp only [hn, Option.any_some, decide_eq_true_eq] at hname
      simp [hobj, viewOf, jobViewOf, hn, hname, AtAGlanceView.shownOn, AtAGlanceView.shownJob, parseJob,
        AtAGlanceView.name, AtAGlanceView.percentageComplete, AtAGlanceView.remainingTime,
        AtAGlanceView.totalTime, AtAGlanceView.subStage, statusFrom_ofStringOrNull_asString]

/-- The view's state depends on the kiosk's only through the link flag,
    once the view has a status. -/
theorem AtAGlanceView.shownOn_congr {v : AtAGlanceView} (hs : v.status.isSome) {st st' : MachineState}
    (h : st.wsConnected = st'.wsConnected) : v.shownOn st = v.shownOn st' := by
  obtain ⟨s, hs⟩ := Option.isSome_iff_exists.1 hs
  simp [shownOn, hs, h]

/-! ## One flagged field

    A field of a documented delta ends on `b`'s reading when the kiosk
    started on `c`'s, where `c` agrees with `b` whenever the flag is unset
    (`a`'s value is `b`'s), and, where the code keeps the old value on a null,
    `c` has no readable value either. -/

section field

theorem cstrOr_flagged {p q r : Option CStr} (d : List UInt8) (heq : p = q → r = q)
    (hnull : q = none → r = none) :
    (if p = q then cstrOr r d else cstrOr q (cstrOr r d)) = cstrOr q d := by
  split_ifs with h
  · rw [heq h]
  · cases q <;> simp [hnull]

theorem statusFrom_flagged {p q r : Option CStr} (s : MachineStatus) (heq : p = q → r = q)
    (hnull : q = none → r = none) :
    (if p = q then statusFrom (ofStringOrNull r) s
      else statusFrom (ofStringOrNull q) (statusFrom (ofStringOrNull r) s)) =
      statusFrom (ofStringOrNull q) s := by
  split_ifs with h
  · rw [heq h]
  · cases q <;> simp [hnull]

theorem orInt_flagged {p q r : Option Int} (d : Int) (heq : p = q → r = q)
    (hnull : (ofIntOrNull q).asInt? = none → (ofIntOrNull r).asInt? = none) :
    (if p = q then (ofIntOrNull r).orInt d else (ofIntOrNull q).orInt ((ofIntOrNull r).orInt d)) =
      (ofIntOrNull q).orInt d := by
  split_ifs with h
  · rw [heq h]
  · cases hq : (ofIntOrNull q).asInt? <;> simp [JsonVariant.orInt, hq, hnull]

theorem cstrOr_flagged_const {p q r : Option CStr} (d : List UInt8) (heq : p = q → r = q) :
    (if p = q then cstrOr r d else cstrOr q d) = cstrOr q d := by
  split_ifs with h
  · rw [heq h]
  · rfl

end field

/-! ## Deltas between views -/

/-- A kiosk showing `c` tracks the delta from `a` to `b`: `c` agrees with `b`
    on each field the delta does not flag, and has nothing readable where `b`
    has a null that the delta's code skips: the status, and while `b` has a
    job, its percentage and times. -/
structure Tracks (a b c : AtAGlanceView) : Prop where
  status : a.status = b.status → c.status = b.status
  nickname : a.nickname = b.nickname → c.nickname = b.nickname
  name : a.name = b.name → c.name = b.name
  percentageComplete : a.percentageComplete = b.percentageComplete →
    c.percentageComplete = b.percentageComplete
  remainingTime : a.remainingTime = b.remainingTime → c.remainingTime = b.remainingTime
  totalTime : a.totalTime = b.totalTime → c.totalTime = b.totalTime
  subStage : a.subStage = b.subStage → c.subStage = b.subStage
  status_null : b.status = none → c.status = none
  percentageComplete_null : b.job.isSome →
    (ofIntOrNull b.percentageComplete).asInt? = none → (ofIntOrNull c.percentageComplete).asInt? = none
  remainingTime_null : b.job.isSome → b.remainingTime = none → c.remainingTime = none
  totalTime_null : b.job.isSome → b.totalTime = none → c.totalTime = none

/-- A kiosk that already shows `b` tracks every delta to `b`. -/
theorem Tracks.self (a b : AtAGlanceView) : Tracks a b b :=
  ⟨fun _ => rfl, fun _ => rfl, fun _ => rfl, fun _ => rfl, fun _ => rfl, fun _ => rfl, fun _ => rfl,
    id, fun _ => id, fun _ => id, fun _ => id⟩

section tracks
variable {a b c : AtAGlanceView} (h : Tracks a b c)
include h

/-- The four job fields after the name block, on a job that shows `c`. -/
theorem Tracks.applyJobFieldChanges (hb : b.job.isSome) (x : List UInt8) :
    applyJobFieldChanges (jobDiff a b) { c.shownJob with name := x } = { b.shownJob with name := x } := by
  rw [applyJobFieldChanges_jobDiff]
  simp only [AtAGlanceView.shownJob, PrintJobState.mk.injEq, true_and]
  exact ⟨orInt_flagged _ h.percentageComplete (h.percentageComplete_null hb),
    cstrOr_flagged _ h.remainingTime (h.remainingTime_null hb),
    cstrOr_flagged _ h.totalTime (h.totalTime_null hb), cstrOr_flagged_const _ h.subStage⟩

/-- The `CurrentJobChanges` part, on a kiosk whose job shows `c`. -/
theorem Tracks.applyJobChanges (ms : MachineState) (hh : ms.hasJob = c.job.isSome) (hj : ms.job = c.shownJob) :
    (applyJobChanges (jobDiff a b) ms).hasJob = b.job.isSome ∧
      (applyJobChanges (jobDiff a b) ms).job = b.shownJob := by
  rw [applyJobChanges_hasJob, applyJobChanges_job, nameChange_jobDiff]
  by_cases hn : a.name = b.name
  · have hc := h.name hn
    simp only [if_pos hn, hh, hj, AtAGlanceView.isSome_job_of_name hc, true_and]
    rcases hb : b.job with _ | j
    · simp [AtAGlanceView.shownJob_of_job_none hb,
        AtAGlanceView.shownJob_of_job_none (by simpa [AtAGlanceView.name, hb] using hc)]
    · have hx : c.shownJob.name = b.shownJob.name := by simp [AtAGlanceView.shownJob, hc]
      simp only [Option.isSome_some, if_true]
      exact (h.applyJobFieldChanges (by simp [hb]) c.shownJob.name).trans (by rw [hx])
  · rcases hb : b.job with _ | j
    · simp [hn, hb, AtAGlanceView.shownJob_of_job_none hb]
    · have hx : b.shownJob.name = j.name.bytes := by simp [AtAGlanceView.shownJob, AtAGlanceView.name, hb]
      simp only [if_neg hn, hj, Option.isSome_some, true_and]
      exact (h.applyJobFieldChanges (by simp [hb]) j.name.bytes).trans (by rw [← hx])

/-- The delta's blocks between `a` and `b` take a kiosk showing `c` to one
    showing `b`, when the kiosk tracks the delta. -/
theorem Tracks.applyDiff (st : MachineState) :
    Connect3DpKiosk.applyJobChanges (jobDiff a b) (applyStatusNickname (diff a b) (c.shownOn st)) =
      b.shownOn st := by
  obtain ⟨hh, hj⟩ := h.applyJobChanges (applyStatusNickname (diff a b) (c.shownOn st)) rfl rfl
  apply MachineState.ext
  · simp [AtAGlanceView.shownOn]
  · simpa [applyStatusNickname_diff, AtAGlanceView.shownOn] using statusFrom_flagged st.status h.status h.status_null
  · simpa [applyStatusNickname_diff, AtAGlanceView.shownOn] using cstrOr_flagged_const [] h.nickname
  · exact hh
  · exact hj

end tracks

/-- **Simulation.** The delta from `a` to `b` takes a kiosk showing `c` to
    one showing `b`, when the kiosk tracks the delta between the views its
    release reads. -/
theorem Tracks.applyAtAGlanceChanges {lib : ArduinoJson} {a b c : AtAGlanceView}
    (h : Tracks (a.readBy lib) (b.readBy lib) c) (st : MachineState) :
    applyAtAGlanceChanges lib (diff a b) (c.shownOn st) = (b.readBy lib).shownOn st := by
  rw [applyAtAGlanceChanges_diff]
  exact h.applyDiff st

/-! ## The subscribe race -/

/-- **The subscribe race is benign.** The subscribe response carrying `B`
    and a broadcast of the delta from any earlier state `A` to `B` leave the
    kiosk showing `B` in either order of arrival: the stale delta after the
    snapshot changes nothing, and the snapshot after the delta overwrites it. -/
theorem subscribeResponse_broadcast_race (lib : ArduinoJson) (A B : JsonObjectConst)
    (hB : WellFormedState B) (st : MachineState) :
    applyAtAGlanceChanges lib (diff (viewOf A) (viewOf B)) (parseAtAGlanceState lib B st) =
        parseAtAGlanceState lib B st ∧
      parseAtAGlanceState lib B (applyAtAGlanceChanges lib (diff (viewOf A) (viewOf B)) st) =
        parseAtAGlanceState lib B st := by
  rw [parseAtAGlanceState_of_wellFormed hB, parseAtAGlanceState_of_wellFormed hB]
  exact ⟨(Tracks.self _ _).applyAtAGlanceChanges st,
    AtAGlanceView.shownOn_congr (by simpa using hB.1) (by simp)⟩

/-- An idle printer, `Prusa`. -/
def idleState : JsonObjectConst :=
  ⟨[("Status", .string ⟨lit "Idle", by decide⟩), ("Nickname", .string ⟨lit "Prusa", by decide⟩),
    ("Job", .null)]⟩

/-- `Prusa` printing `benchy`, with the given `PercentageComplete`. -/
def benchyState (percentageComplete : JsonVariant) : JsonObjectConst :=
  ⟨[("Status", .string ⟨lit "Printing", by decide⟩), ("Nickname", .string ⟨lit "Prusa", by decide⟩),
    ("Job", .object [("Name", .string ⟨lit "benchy", by decide⟩),
      ("PercentageComplete", percentageComplete), ("RemainingTime", .string ⟨lit "00:30:00", by decide⟩)])]⟩

theorem subscribeResponse_broadcast_race_benchy :
    WellFormedState (benchyState (.int 50)) ∧
      (applyAtAGlanceChanges .upTo6_17 (diff (viewOf idleState) (viewOf (benchyState (.int 50))))
          (parseAtAGlanceState .upTo6_17 (benchyState (.int 50)) {}) =
            parseAtAGlanceState .upTo6_17 (benchyState (.int 50)) {} ∧
        parseAtAGlanceState .upTo6_17 (benchyState (.int 50))
            (applyAtAGlanceChanges .upTo6_17 (diff (viewOf idleState) (viewOf (benchyState (.int 50)))) {}) =
          parseAtAGlanceState .upTo6_17 (benchyState (.int 50)) {}) :=
  ⟨by decide, subscribeResponse_broadcast_race .upTo6_17 _ _ (by decide) _⟩

/-! ## The fields a delta sets exactly

    A null `PercentageCompleteNew`, `RemainingTimeNew` or `TotalTimeNew`
    keeps the old value where a snapshot writes `0` or `""`, so along a run
    of deltas these three fields can hold a value the server no longer has.
    Everything else a delta sets exactly, and the three never feed into it. -/

/-- The job record with the three fields a null delta keeps reset. -/
def PrintJobState.withoutStale (job : PrintJobState) : PrintJobState :=
  { job with percentageComplete := 0, remainingTime := [], totalTime := [] }

/-- The kiosk state with the three job fields a null delta keeps reset. -/
def MachineState.withoutStale (ms : MachineState) : MachineState :=
  { ms with job := ms.job.withoutStale }

section withoutStale
variable (lib : ArduinoJson) (changes jc : JsonObjectConst) (ms : MachineState)

@[simp] theorem MachineState.withoutStale_hasJob : ms.withoutStale.hasJob = ms.hasJob := rfl

theorem applyJobFields_withoutStale :
    (applyJobFields jc ms).withoutStale = (applyJobFields jc ms.withoutStale).withoutStale := by
  simp only [applyJobFields, MachineState.withoutStale_hasJob]
  split <;> rfl

theorem applyJobChanges_withoutStale :
    (applyJobChanges jc ms).withoutStale = (applyJobChanges jc ms.withoutStale).withoutStale := by
  unfold applyJobChanges
  split
  · exact applyJobFields_withoutStale jc ms
  · exact applyJobFields_withoutStale jc _
  · rfl

/-- **The stale fields feed nothing.** What a delta leaves outside the three
    fields depends only on what the state held outside them. -/
theorem applyAtAGlanceChanges_withoutStale :
    (applyAtAGlanceChanges lib changes ms).withoutStale =
      (applyAtAGlanceChanges lib changes ms.withoutStale).withoutStale := by
  rw [applyAtAGlanceChanges_eq, applyAtAGlanceChanges_eq]
  split
  · exact applyJobChanges_withoutStale _ (applyStatusNickname changes ms)
  · rfl

end withoutStale

/-- `a`, with `b`'s values for the three fields a null delta keeps. -/
def AtAGlanceView.withStaleOf (a b : AtAGlanceView) : AtAGlanceView :=
  { a with
    job := a.job.map fun j => { j with
      percentageComplete := b.percentageComplete, remainingTime := b.remainingTime,
      totalTime := b.totalTime } }

section stale
variable {a b : AtAGlanceView}

theorem AtAGlanceView.withStaleOf_shownOn (st : MachineState) :
    ((a.withStaleOf b).shownOn st).withoutStale = (a.shownOn st).withoutStale := by
  cases ha : a.job <;> simp [withStaleOf, shownOn, shownJob, MachineState.withoutStale,
    PrintJobState.withoutStale, name, subStage, ha]

/-- A kiosk that shows `a` but for the stale fields, which it has from `b`,
    tracks the delta from `a` to `b`. -/
theorem Tracks.withStaleOf (hs : b.status = none → a.status = none) : Tracks a b (a.withStaleOf b) := by
  cases ha : a.job <;> refine ⟨id, id, ?_, ?_, ?_, ?_, ?_, hs, ?_, ?_, ?_⟩ <;>
    simp [AtAGlanceView.withStaleOf, AtAGlanceView.name, AtAGlanceView.percentageComplete,
      AtAGlanceView.remainingTime, AtAGlanceView.totalTime, AtAGlanceView.subStage, JsonVariant.asInt?, ha]

/-- **One delta, exactly.** Outside the stale fields, the delta from `a` to
    `b` takes a kiosk showing what its release reads of `a` to one showing
    what it reads of `b`. -/
theorem applyAtAGlanceChanges_diff_withoutStale {lib : ArduinoJson} (hs : b.status = none → a.status = none)
    {ms st : MachineState} (h : ms.withoutStale = ((a.readBy lib).shownOn st).withoutStale) :
    (applyAtAGlanceChanges lib (diff a b) ms).withoutStale = ((b.readBy lib).shownOn st).withoutStale :=
  calc (applyAtAGlanceChanges lib (diff a b) ms).withoutStale
      = (applyAtAGlanceChanges lib (diff a b)
          (((a.readBy lib).withStaleOf (b.readBy lib)).shownOn st).withoutStale).withoutStale := by
        rw [applyAtAGlanceChanges_withoutStale, h, AtAGlanceView.withStaleOf_shownOn]
    _ = (applyAtAGlanceChanges lib (diff a b)
          (((a.readBy lib).withStaleOf (b.readBy lib)).shownOn st)).withoutStale :=
        (applyAtAGlanceChanges_withoutStale _ _ _).symm
    _ = ((b.readBy lib).shownOn st).withoutStale := by
        rw [(Tracks.withStaleOf (by simpa using hs)).applyAtAGlanceChanges]

end stale

/-- From `a` to `b`, no field that a null delta keeps goes from a value to
    null while a job runs on: a `PercentageComplete` that reads as an `int`
    keeps reading as one, and `RemainingTime` and `TotalTime` stay strings. -/
def KeepsValues (a b : AtAGlanceView) : Prop :=
  a.job.isSome → b.job.isSome →
    ((ofIntOrNull b.percentageComplete).asInt? = none → (ofIntOrNull a.percentageComplete).asInt? = none) ∧
      (b.remainingTime = none → a.remainingTime = none) ∧ (b.totalTime = none → a.totalTime = none)

instance (a b : AtAGlanceView) : Decidable (KeepsValues a b) := inferInstanceAs (Decidable (_ → _))

/-- A kiosk showing `a` tracks the delta to a `b` that keeps its values. -/
theorem Tracks.of_keepsValues {a b : AtAGlanceView} (hs : b.status = none → a.status = none)
    (h : KeepsValues a b) : Tracks a b a := by
  rcases ha : a.job with _ | j
  · have hp : a.percentageComplete = none := by simp [AtAGlanceView.percentageComplete, ha]
    refine ⟨id, id, id, id, id, id, id, hs, fun _ _ => by rw [hp]; rfl, fun _ _ => ?_, fun _ _ => ?_⟩ <;>
      simp [AtAGlanceView.remainingTime, AtAGlanceView.totalTime, ha]
  · have hk := h (by simp [ha])
    exact ⟨id, id, id, id, id, id, id, hs, fun hb => (hk hb).1, fun hb => (hk hb).2.1, fun hb => (hk hb).2.2⟩

/-- From 6.18 on no job is read, so none of its values goes to null. -/
theorem keepsValues_readBy_from6_18 (a b : AtAGlanceView) :
    KeepsValues (a.readBy .from6_18) (b.readBy .from6_18) :=
  fun h => absurd h (by simp)

/-- Read by a release, a run of states keeps its values when it does so as
    the server sent it, and always from 6.18 on. -/
theorem chain'_keepsValues_readBy {lib : ArduinoJson} {As : List JsonObjectConst}
    (h : lib = .from6_18 ∨ As.Chain' fun A B => KeepsValues (viewOf A) (viewOf B)) :
    As.Chain' fun A B => KeepsValues ((viewOf A).readBy lib) ((viewOf B).readBy lib) := by
  cases lib
  · exact h.resolve_left nofun
  · exact (List.pairwise_of_forall fun _ _ => keepsValues_readBy_from6_18 _ _).chain'

/-! ## Runs of deltas -/

/-- The kiosk after the deltas between consecutive server states, from the
    state `prev` on, built against release `lib`. -/
def applyDeltas (lib : ArduinoJson) : JsonObjectConst → List JsonObjectConst → MachineState → MachineState
  | _, [], ms => ms
  | prev, next :: rest, ms =>
    applyDeltas lib next rest (applyAtAGlanceChanges lib (diff (viewOf prev) (viewOf next)) ms)

section runs
variable (lib : ArduinoJson) (st : MachineState)

theorem applyDeltas_withoutStale (A : JsonObjectConst) (As : List JsonObjectConst)
    (hs : ∀ B ∈ As, (viewOf B).status.isSome) {ms : MachineState}
    (h : ms.withoutStale = (((viewOf A).readBy lib).shownOn st).withoutStale) :
    (applyDeltas lib A As ms).withoutStale =
      (((viewOf (As.getLast?.getD A)).readBy lib).shownOn st).withoutStale := by
  induction As generalizing A ms with
  | nil => exact h
  | cons B As ih =>
    have hB : (viewOf B).status ≠ none := Option.isSome_iff_ne_none.1 (hs B (List.mem_cons_self _ _))
    simpa [List.getLast?_cons] using ih B (fun C hC => hs C (List.mem_cons_of_mem _ hC))
      (applyAtAGlanceChanges_diff_withoutStale (fun h => absurd h hB) h)

theorem applyDeltas_shownOn (A : JsonObjectConst) (As : List JsonObjectConst)
    (hs : ∀ B ∈ As, (viewOf B).status.isSome)
    (hk : (A :: As).Chain' fun A B => KeepsValues ((viewOf A).readBy lib) ((viewOf B).readBy lib)) :
    applyDeltas lib A As (((viewOf A).readBy lib).shownOn st) =
      ((viewOf (As.getLast?.getD A)).readBy lib).shownOn st := by
  induction As generalizing A with
  | nil => rfl
  | cons B As ih =>
    have hB : (viewOf B).status ≠ none := Option.isSome_iff_ne_none.1 (hs B (List.mem_cons_self _ _))
    rw [List.chain'_cons] at hk
    simpa [applyDeltas, (Tracks.of_keepsValues (by simpa using fun h => absurd h hB) hk.1).applyAtAGlanceChanges,
      List.getLast?_cons] using ih B (fun C hC => hs C (List.mem_cons_of_mem _ hC)) hk.2

end runs

theorem getLast?_getD_mem {α : Type} (A : α) (As : List α) : As.getLast?.getD A ∈ A :: As := by
  cases h : As.getLast? with
  | none => exact List.mem_cons_self _ _
  | some B => exact List.mem_cons_of_mem _ (List.mem_of_getLast?_eq_some h)

/-- Up to 6.17, a percentage that goes to null mid-job: the delta keeps `50`,
    a snapshot of the same server state shows `0`. -/
example : (applyDeltas .upTo6_17 (benchyState (.int 50)) [benchyState .null]
      (parseAtAGlanceState .upTo6_17 (benchyState (.int 50)) {})).job.percentageComplete = 50 ∧
    (parseAtAGlanceState .upTo6_17 (benchyState .null) {}).job.percentageComplete = 0 := by
  decide

end Connect3DpKiosk
