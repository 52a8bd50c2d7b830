import Connect3DpKiosk.Display

/-! # The kiosk across connections

    Between a `ConnectionClosed` and the next payload only connection events
    reach the firmware, and none of them writes the status. A job reaches
    the kiosk only through a snapshot's `Job` object or a delta's non-empty
    `NameNew`. And built against ArduinoJson 6.18 or later, no payload
    reaches it at all.

    * From a `ConnectionClosed` until the next payload, reopened link or not,
      the display shows `Disconnected`, no job and no Mark-as-Idle button.
    * When the server names every job it sends in a snapshot, the job panel
      never shows an empty name, whatever deltas arrive.
    * Built against ArduinoJson 6.18 or later, the display never shows
      anything the server sent: the status bar reads `Disconnected` for
      ever, even while the link label reads `Connected`.

    The first two hold for both releases of ArduinoJson 6.
-/

namespace Connect3DpKiosk

/-! ## Section 1: Between a close and the next payload -/

section closed
variable {lib : ArduinoJson} {deserializeJson : List UInt8 → Option JsonVariant} {machineId : CStr}

/-- A connection event leaves `Disconnected` in place. -/
theorem onEvent_status_disconnected {k : Kiosk} (h : k.machineState.status = .disconnected)
    (e : WebsocketsEvent) : (onEvent machineId e k).machineState.status = .disconnected := by
  cases e <;> simp [onEvent, h]

theorem run_events_status_disconnected : ∀ (events : List WebsocketsEvent) {k : Kiosk},
    k.machineState.status = .disconnected →
    (run lib deserializeJson machineId k (events.map .event)).machineState.status = .disconnected
  | [], _, h => h
  | e :: events, _, h => run_events_status_disconnected events (onEvent_status_disconnected h e)

end closed

/-- **A reopened link shows nothing stale.** After a `ConnectionClosed`,
    from any kiosk state, whatever connection events follow before the next
    payload (a `ConnectionOpened` included), a refresh shows the status
    `Disconnected`, and neither the job panel nor the Mark-as-Idle button:
    the job the kiosk held before the close stays hidden until the server
    answers. -/
theorem run_close_events_refresh (lib : ArduinoJson) (deserializeJson : List UInt8 → Option JsonVariant)
    (machineId : CStr) (k : Kiosk) (events : List WebsocketsEvent) (scr : Screen) :
    let ms := (run lib deserializeJson machineId k (.event .connectionClosed :: events.map .event)).machineState
    (refresh machineId ms scr).statusText = "Disconnected" ∧ (refresh machineId ms scr).jobHidden = true ∧
      (refresh machineId ms scr).markIdleHidden = true := by
  have hs : (run lib deserializeJson machineId (onEvent machineId .connectionClosed k)
      (events.map .event)).machineState.status = .disconnected :=
    run_events_status_disconnected events rfl
  simp [refresh, showJob, showMarkIdle, machineStatusLabel, step, hs]

/-! ## Section 2: The job shown has a name -/

/-- A job on the kiosk has a name. -/
def JobNamed (ms : MachineState) : Prop := ms.hasJob = true → ms.job.name ≠ []

/-- Every subscribe response the payload carries names its job: a `Job`
    object has a `Name` that reads as a non-empty string. -/
def NamesJob (deserializeJson : List UInt8 → Option JsonVariant) (payload : List UInt8) : Prop :=
  ∀ doc state, deserializeJson payload = some doc → IsSubscribeResponse doc state →
    state["Job"].isObject = true → state["Job"]["Name"].asString.any fun n => n.bytes ≠ []

/-- A name block starts a job only under a non-empty name. -/
theorem nameChange_start_ne_nil {jc : JsonObjectConst} {name : List UInt8}
    (h : nameChange jc = .start name) : name ≠ [] := by
  unfold nameChange at h
  split at h
  · split at h
    · split at h
      · cases h; assumption
      · cases h
    · cases h
  · cases h

section named
variable {lib : ArduinoJson} {ms : MachineState}

theorem JobNamed.applyJobChanges (h : JobNamed ms) (jc : JsonObjectConst) :
    JobNamed (applyJobChanges jc ms) := by
  rw [JobNamed, applyJobChanges_hasJob, applyJobChanges_job]
  split
  · split <;> simpa using h
  · rename_i hn
    exact fun _ => by simpa using nameChange_start_ne_nil hn
  · nofun

theorem JobNamed.applyAtAGlanceChanges (h : JobNamed ms) (changes : JsonObjectConst) :
    JobNamed (Connect3DpKiosk.applyAtAGlanceChanges lib changes ms) := by
  have h' : JobNamed (applyStatusNickname changes ms) := h
  rw [applyAtAGlanceChanges_eq]
  split
  · exact h'.applyJobChanges _
  · exact h'

theorem jobNamed_parseAtAGlanceState {state : JsonObjectConst}
    (hn : state["Job"].isObject = true → state["Job"]["Name"].asString.any fun n => n.bytes ≠ []) :
    JobNamed (parseAtAGlanceState lib state ms) := by
  intro hj
  rw [parseAtAGlanceState_hasJob] at hj
  have hname := hn (JsonVariant.isObject_of_isJsonObject hj)
  rw [JsonVariant.getElem_eq_asObject] at hname
  cases hs : state["Job"].asObject["Name"].asString with
  | none => simp [hs] at hname
  | some n => simpa [parseAtAGlanceState_job, hj, parseJob, hs] using hname

theorem JobNamed.onMessage {deserializeJson : List UInt8 → Option JsonVariant} {machineId : CStr}
    (h : JobNamed ms) {payload : List UInt8} (hp : NamesJob deserializeJson payload) :
    JobNamed (onMessage lib deserializeJson machineId payload ms) := by
  rcases @onMessage_cases lib deserializeJson machineId payload ms with
    e | ⟨doc, state, hd, hsr, e⟩ | ⟨_, changes, -, -, e⟩ <;> rw [e]
  · exact h
  · exact jobNamed_parseAtAGlanceState (hp doc state hd hsr)
  · exact h.applyAtAGlanceChanges changes

end named

theorem JobNamed.run {lib : ArduinoJson} {deserializeJson : List UInt8 → Option JsonVariant} {machineId : CStr} :
    ∀ (inputs : List Input) {k : Kiosk}, JobNamed k.machineState →
    (∀ payload, .message payload ∈ inputs → NamesJob deserializeJson payload) →
    JobNamed (run lib deserializeJson machineId k inputs).machineState
  | [], _, h, _ => h
  | .event e :: inputs, k, h, hp =>
    JobNamed.run inputs (k := onEvent machineId e k) (by cases e <;> exact h)
      fun p hm => hp p (List.mem_cons_of_mem _ hm)
  | .message payload :: inputs, _, h, hp =>
    JobNamed.run inputs (h.onMessage (hp payload (List.mem_cons_self _ _)))
      fun p hm => hp p (List.mem_cons_of_mem _ hm)

/-- The job panel shows the job of a state that has one. -/
theorem refresh_jobName {machineId : CStr} {ms : MachineState} {scr : Screen}
    (h : (refresh machineId ms scr).jobHidden = false) :
    ms.hasJob = true ∧ (refresh machineId ms scr).jobName = ms.job.name := by
  by_cases hj : showJob ms
  · exact ⟨by simp_all [showJob], by simp [refresh, hj]⟩
  · simp [refresh, hj] at h

/-- **The job panel never shows an empty name.** Over every run from boot
    in which every subscribe response names the job it carries, whatever
    broadcasts arrive (a null or empty `NameNew` included), a refresh that
    shows the job panel shows a non-empty job name. -/
theorem run_jobPanel_named (lib : ArduinoJson) (deserializeJson : List UInt8 → Option JsonVariant)
    (machineId : CStr) (inputs : List Input)
    (hp : ∀ payload, .message payload ∈ inputs → NamesJob deserializeJson payload) (scr : Screen) :
    let ms := (run lib deserializeJson machineId {} inputs).machineState
    (refresh machineId ms scr).jobHidden = false → (refresh machineId ms scr).jobName ≠ [] := by
  intro ms hv
  obtain ⟨hj, hn⟩ := refresh_jobName hv
  rw [hn]
  exact JobNamed.run inputs (fun h => absurd h Bool.false_ne_true) hp hj

/-- `racePayloads` names the one job it sends in a snapshot. -/
theorem namesJob_racePayloads (payload : List UInt8) : NamesJob racePayloads payload := by
  intro doc state hd hsr
  obtain ⟨⟨topic, ht, htb⟩, -, -, hst⟩ := hsr
  unfold racePayloads at hd
  split_ifs at hd <;> cases hd
  · obtain ⟨members⟩ := state
    obtain rfl : members = (benchyState (.int 75)).members := by simpa using hst.symm
    decide
  all_goals
    simp [stateBroadcast] at ht
    subst ht
    exact absurd htb (by decide)

theorem run_jobPanel_named_benchy :
    (∀ payload, Input.message payload ∈
        ([.event .connectionOpened, .message (lit "1"), .message (lit "0")] : List Input) →
        NamesJob racePayloads payload) ∧
      (refresh C3DP_MACHINE_ID (run .upTo6_17 racePayloads C3DP_MACHINE_ID {}
          [.event .connectionOpened, .message (lit "1"), .message (lit "0")]).machineState
          (uiInit false C3DP_MACHINE_ID)).jobHidden = false ∧
      (refresh C3DP_MACHINE_ID (run .upTo6_17 racePayloads C3DP_MACHINE_ID {}
          [.event .connectionOpened, .message (lit "1"), .message (lit "0")]).machineState
          (uiInit false C3DP_MACHINE_ID)).jobName ≠ [] :=
  have hp : ∀ payload, Input.message payload ∈
      ([.event .connectionOpened, .message (lit "1"), .message (lit "0")] : List Input) →
      NamesJob racePayloads payload := fun payload _ => namesJob_racePayloads payload
  have hv : (refresh C3DP_MACHINE_ID (run .upTo6_17 racePayloads C3DP_MACHINE_ID {}
      [.event .connectionOpened, .message (lit "1"), .message (lit "0")]).machineState
      (uiInit false C3DP_MACHINE_ID)).jobHidden = false := by decide
  ⟨hp, hv, run_jobPanel_named _ _ _ _ hp _ hv⟩

/-! ## Section 3: Built against ArduinoJson 6.18 -/

/-- **Built against ArduinoJson 6.18 or later, the kiosk shows nothing the
    server sends.** Over every run from boot, whatever the payloads,
    `g_machineState` is `MachineState{}` but for `wsConnected`, which the
    last connection event set. So a refresh shows the link as the events
    left it, the status `Disconnected`, the machine id in place of a
    nickname, and neither the job panel nor the Mark-as-Idle button. -/
theorem run_from6_18_refresh (deserializeJson : List UInt8 → Option JsonVariant) (machineId : CStr)
    (inputs : List Input) (scr : Screen) :
    let ms := (run .from6_18 deserializeJson machineId {} inputs).machineState
    ms = { wsConnected := linkAfterInputs false inputs } ∧
      (refresh machineId ms scr).connText =
        (if linkAfterInputs false inputs then lit " Connected" else lit " No server") ∧
      (refresh machineId ms scr).statusText = "Disconnected" ∧
      (refresh machineId ms scr).nicknameText = machineId.bytes ∧
      (refresh machineId ms scr).jobHidden = true ∧ (refresh machineId ms scr).markIdleHidden = true := by
  have hms : (run .from6_18 deserializeJson machineId {} inputs).machineState =
      { wsConnected := linkAfterInputs false inputs } := run_from6_18 inputs rfl
  exact ⟨hms, by simp [hms, refresh, showJob, showMarkIdle, machineStatusLabel]⟩

end Connect3DpKiosk
