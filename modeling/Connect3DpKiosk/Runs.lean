import Connect3DpKiosk.WsHandler

/-! # Every run of the kiosk

    What holds of every state the firmware can reach from boot, over any
    interleaving of connection events with payloads of any content:

    * `g_machineState` keeps its invariant, no job means the empty job;
    * `WsHandler::connected` and `g_machineState.wsConnected` agree;
    * one subscribe request is sent per opened connection, and nothing else;
    * when the transport delivers payloads only while the link is open,
      a state with the link down shows `Disconnected`;
    * built against ArduinoJson 6.18 or later, `g_machineState` is the boot
      state but for `wsConnected`, which the connection events set.

    Each is a step lemma per callback and an induction over the inputs. All
    but the last hold for both releases of ArduinoJson 6.
-/

namespace Connect3DpKiosk

section runs
variable {lib : ArduinoJson} {deserializeJson : List UInt8 → Option JsonVariant} {machineId : CStr}

/-! ## One message -/

/-- A message writes `g_machineState` through a snapshot or a delta, or not
    at all. -/
theorem onMessage_writes (lib : ArduinoJson) (deserializeJson : List UInt8 → Option JsonVariant)
    (machineId : CStr) (payload : List UInt8) (ms : MachineState) :
    onMessage lib deserializeJson machineId payload ms = ms ∨
    (∃ state, onMessage lib deserializeJson machineId payload ms = parseAtAGlanceState lib state ms) ∨
    (∃ changes, onMessage lib deserializeJson machineId payload ms = applyAtAGlanceChanges lib changes ms) := by
  rcases onMessage_cases with h | ⟨_, state, -, -, h⟩ | ⟨_, changes, -, -, h⟩
  · exact .inl h
  · exact .inr (.inl ⟨state, h⟩)
  · exact .inr (.inr ⟨changes, h⟩)

@[simp] theorem onMessage_wsConnected (payload : List UInt8) (ms : MachineState) :
    (onMessage lib deserializeJson machineId payload ms).wsConnected = ms.wsConnected := by
  rcases onMessage_writes lib deserializeJson machineId payload ms with h | ⟨_, h⟩ | ⟨_, h⟩ <;> simp [h]

theorem JobConsistent.onMessage {ms : MachineState} (h : JobConsistent ms) (payload : List UInt8) :
    JobConsistent (onMessage lib deserializeJson machineId payload ms) := by
  rcases onMessage_writes lib deserializeJson machineId payload ms with e | ⟨_, e⟩ | ⟨_, e⟩ <;> rw [e]
  · exact h
  · exact jobConsistent_parseAtAGlanceState _
  · exact h.applyAtAGlanceChanges _

/-! ## The job invariant -/

theorem JobConsistent.step {k : Kiosk} (h : JobConsistent k.machineState) (x : Input) :
    JobConsistent (step lib deserializeJson machineId k x).machineState := by
  cases x with
  | event e => cases e <;> exact h
  | message payload => exact h.onMessage payload

theorem JobConsistent.run {k : Kiosk} (h : JobConsistent k.machineState) :
    ∀ inputs, JobConsistent (run lib deserializeJson machineId k inputs).machineState
  | [] => h
  | x :: inputs => (h.step x).run inputs

/-! ## The handler's flag and the frames it sends -/

theorem step_connected {k : Kiosk} (h : k.connected = k.machineState.wsConnected) (x : Input) :
    (step lib deserializeJson machineId k x).connected =
      (step lib deserializeJson machineId k x).machineState.wsConnected := by
  cases x with
  | event e => cases e <;> simp [step, onEvent, h]
  | message payload => simp [step, h]

theorem run_connected {k : Kiosk} (h : k.connected = k.machineState.wsConnected) :
    ∀ inputs, (run lib deserializeJson machineId k inputs).connected =
      (run lib deserializeJson machineId k inputs).machineState.wsConnected
  | [] => h
  | x :: inputs => run_connected (step_connected h x) inputs

theorem step_sent (k : Kiosk) (x : Input) :
    (step lib deserializeJson machineId k x).sent =
      k.sent ++ if x = .event .connectionOpened then [subscribeRequest machineId] else [] := by
  cases x with
  | event e => cases e <;> simp [step, onEvent]
  | message payload => simp [step]

theorem run_sent (k : Kiosk) : ∀ inputs,
    (run lib deserializeJson machineId k inputs).sent =
      k.sent ++ List.replicate (inputs.count (.event .connectionOpened)) (subscribeRequest machineId)
  | [] => by simp
  | x :: inputs => by
    rw [run_cons, run_sent _ inputs, step_sent, List.count_cons]
    by_cases hx : x = .event .connectionOpened
    · simp only [hx, if_true, beq_self_eq_true, List.append_assoc, List.replicate_succ']
      rw [← List.replicate_succ', List.replicate_succ]
      rfl
    · simp [hx]

/-! ## A link that is down shows `Disconnected` -/

/-- The transport's link after a connection event. -/
def linkAfter (linkOpen : Bool) : WebsocketsEvent → Bool
  | .connectionOpened => true
  | .connectionClosed => false
  | _ => linkOpen

/-- The transport hands `_onMessage` a payload only while the link is open,
    after a `ConnectionOpened` and before the next `ConnectionClosed`;
    `linkOpen` is the link before the first input. -/
def DeliveredWhileOpen : Bool → List Input → Prop
  | _, [] => True
  | linkOpen, .event e :: rest => DeliveredWhileOpen (linkAfter linkOpen e) rest
  | linkOpen, .message _ :: rest => linkOpen = true ∧ DeliveredWhileOpen linkOpen rest

/-- `wsConnected` is the transport's link, and a down link shows
    `Disconnected`. -/
def LinkShown (linkOpen : Bool) (ms : MachineState) : Prop :=
  ms.wsConnected = linkOpen ∧ (linkOpen = false → ms.status = .disconnected)

theorem LinkShown.onEvent {linkOpen : Bool} {k : Kiosk} (h : LinkShown linkOpen k.machineState)
    (e : WebsocketsEvent) : LinkShown (linkAfter linkOpen e) (onEvent machineId e k).machineState := by
  cases e <;> simp_all [LinkShown, Connect3DpKiosk.onEvent, linkAfter]

theorem LinkShown.onMessage {ms : MachineState} (h : LinkShown true ms) (payload : List UInt8) :
    LinkShown true (onMessage lib deserializeJson machineId payload ms) :=
  ⟨(onMessage_wsConnected payload ms).trans h.1, nofun⟩

theorem LinkShown.run : ∀ {linkOpen : Bool} {k : Kiosk} (inputs : List Input),
    LinkShown linkOpen k.machineState → DeliveredWhileOpen linkOpen inputs →
    ∃ linkOpen', LinkShown linkOpen' (run lib deserializeJson machineId k inputs).machineState
  | linkOpen, _, [], h, _ => ⟨linkOpen, h⟩
  | _, _, .event e :: inputs, h, hd => LinkShown.run inputs (h.onEvent e) hd
  | _, _, .message payload :: inputs, h, ⟨rfl, hd⟩ => LinkShown.run inputs (h.onMessage payload) hd

/-! ## Built against ArduinoJson 6.18 -/

/-- The link the connection events among `inputs` leave, from `linkOpen`. -/
def linkAfterInputs : Bool → List Input → Bool
  | linkOpen, [] => linkOpen
  | linkOpen, .event e :: rest => linkAfterInputs (linkAfter linkOpen e) rest
  | linkOpen, .message _ :: rest => linkAfterInputs linkOpen rest

/-- From 6.18 on, a callback keeps `g_machineState` at the boot state but
    for the link, which a connection event sets. -/
theorem step_from6_18 {k : Kiosk} {linkOpen : Bool} (h : k.machineState = { wsConnected := linkOpen })
    (x : Input) :
    (step .from6_18 deserializeJson machineId k x).machineState =
      { wsConnected := linkAfterInputs linkOpen [x] } := by
  cases x with
  | event e => cases e <;> simp [step, onEvent, h, linkAfterInputs, linkAfter]
  | message payload => simp [step, h, linkAfterInputs]

theorem run_from6_18 : ∀ (inputs : List Input) {k : Kiosk} {linkOpen : Bool},
    k.machineState = { wsConnected := linkOpen } →
    (run .from6_18 deserializeJson machineId k inputs).machineState =
      { wsConnected := linkAfterInputs linkOpen inputs }
  | [], _, _, h => h
  | .event e :: inputs, _, _, h => run_from6_18 inputs (step_from6_18 h (.event e))
  | .message p :: inputs, _, _, h => run_from6_18 inputs (step_from6_18 h (.message p))

end runs

/-- From boot, when the transport delivers payloads only while the link is
    open, every state reached shows some link. -/
theorem run_linkShown (lib : ArduinoJson) (deserializeJson : List UInt8 → Option JsonVariant)
    (machineId : CStr) (inputs : List Input) (h : DeliveredWhileOpen false inputs) :
    ∃ linkOpen, LinkShown linkOpen (run lib deserializeJson machineId {} inputs).machineState :=
  LinkShown.run inputs ⟨rfl, fun _ => rfl⟩ h

/-- **No job means the empty job, in every reachable state.** Over every run
    from boot, whatever the payloads (unparseable, on any topic, of any
    shape) and however they interleave with connection events, `hasJob =
    false` implies `job = PrintJobState{}`. -/
theorem run_jobConsistent (lib : ArduinoJson) (deserializeJson : List UInt8 → Option JsonVariant)
    (machineId : CStr) (inputs : List Input) :
    JobConsistent (run lib deserializeJson machineId {} inputs).machineState :=
  JobConsistent.run (fun _ => rfl) inputs

/-- **`WsHandler::connected` mirrors `g_machineState.wsConnected`** in every
    state reachable from boot. -/
theorem run_connected_eq_wsConnected (lib : ArduinoJson) (deserializeJson : List UInt8 → Option JsonVariant)
    (machineId : CStr) (inputs : List Input) :
    (run lib deserializeJson machineId {} inputs).connected =
      (run lib deserializeJson machineId {} inputs).machineState.wsConnected :=
  run_connected rfl inputs

/-- **One subscribe request per opened connection.** Over every run from
    boot, the frames sent are the subscribe request for `machineId`, once
    for each `ConnectionOpened`, and nothing else. -/
theorem run_sent_subscribe_per_open (lib : ArduinoJson) (deserializeJson : List UInt8 → Option JsonVariant)
    (machineId : CStr) (inputs : List Input) :
    (run lib deserializeJson machineId {} inputs).sent =
      List.replicate (inputs.count (.event .connectionOpened)) (subscribeRequest machineId) := by
  simpa using @run_sent lib deserializeJson machineId {} inputs

end Connect3DpKiosk
