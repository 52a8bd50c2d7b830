import Connect3DpKiosk.ServerSync

/-! # The WebSocket handler

    `class WsHandler` of `ws_handler.h` and the firmware state around it:
    `WsHandler::connected`, the global `g_machineState`, and the frames the
    handler gives `client.send`. The transport delivers two kinds of
    callbacks during `client.poll()`: connection events, handled by the
    `onEvent` lambda `begin()` registers, and text payloads, handled by
    `_onMessage`. A run of the kiosk is any sequence of them.

    ArduinoJson's `deserializeJson` into the 4096-byte document is a
    parameter, `deserializeJson`: every result below holds for every
    parser, so for every payload the wire can carry. So are the machine id,
    `C3DP_MACHINE_ID` of `config.h`, and the ArduinoJson release.

    The release decides what `_onMessage` does at all. Up to 6.17 a
    subscribe response applies its snapshot and a broadcast for this machine
    its delta. From 6.18 on, `dataVar.is<JsonObject>()` fails for every
    document, `_onMessage` returns there, and no payload ever changes
    `g_machineState` (`onMessage_from6_18`).
-/

namespace Connect3DpKiosk

/-! ## Messages -/

/-- `C3DP_MACHINE_ID` as `config.h` ships it. -/
def C3DP_MACHINE_ID : CStr := ⟨lit "your-machine-id", by decide⟩

/-- The topic of a state broadcast as `snprintf` leaves it in `expectedTopic`,
    a buffer of `sizeof(C3DP_MACHINE_ID) + 14` bytes. -/
def expectedTopic (machineId : CStr) : List UInt8 :=
  snprintf (sizeofLit machineId + 14) (lit "machine/" ++ machineId.bytes ++ lit "/state")

/-- The buffer holds `"machine/" + id + "/state"` and its NUL, whatever the
    id: `8 + (sizeof - 1) + 6 + 1 = sizeof + 14`. -/
theorem expectedTopic_eq (machineId : CStr) :
    expectedTopic machineId = lit "machine/" ++ machineId.bytes ++ lit "/state" := by
  have h₁ : (lit "machine/").length = 8 := by decide
  have h₂ : (lit "/state").length = 6 := by decide
  apply snprintf_of_lt
  simp only [List.length_append, h₁, h₂, sizeofLit]
  omega

/-- The frame `_sendSubscribe()` sends:
    `{"Action": "machine/subscribe", "Data": {"MachineID": id, "DetailOfState": "AtAGlance"}}`. -/
def subscribeRequest (machineId : CStr) : JsonVariant :=
  .object [("Action", .string ⟨lit "machine/subscribe", by decide⟩),
    ("Data", .object [("MachineID", .string machineId),
      ("DetailOfState", .string ⟨lit "AtAGlance", by decide⟩)])]

section handler
variable (lib : ArduinoJson) (deserializeJson : List UInt8 → Option JsonVariant) (machineId : CStr)

/-- The subscribe-response branch of `_onMessage`, from the `FailureReason`
    test on. -/
def onSubscribeResponse (data : JsonObjectConst) (ms : MachineState) : MachineState :=
  if data["FailureReason"].asString.any (fun failure => failure.bytes ≠ []) then ms
  else
    let stateVar := data["AtAGlanceState"]
    if !stateVar.isNull && stateVar.isJsonObject lib then parseAtAGlanceState lib stateVar.asObject ms
    else ms

/-- The state-broadcast branch of `_onMessage`, from the topic test on. -/
def onStateBroadcast (topic : CStr) (data : JsonObjectConst) (ms : MachineState) : MachineState :=
  if topic.bytes ≠ expectedTopic machineId then ms
  else
    let changesVar := data["AtAGlanceChanges"]
    if !changesVar.isNull && changesVar.isJsonObject lib then
      applyAtAGlanceChanges lib changesVar.asObject ms
    else ms

/-- `WsHandler::_onMessage(payload)`, on `g_machineState = ms`, built
    against release `lib`. -/
def onMessage (payload : List UInt8) (ms : MachineState) : MachineState :=
  match deserializeJson payload with
  | none => ms
  | some doc =>
    match doc["Topic"].asString with
    | none => ms
    | some topic =>
      let dataVar := doc["Data"]
      if dataVar.isNull || !dataVar.isJsonObject lib then ms
      else if topic.bytes = lit "machine/subscribe" then onSubscribeResponse lib dataVar.asObject ms
      else onStateBroadcast lib machineId topic dataVar.asObject ms

/-- **From ArduinoJson 6.18 on, no payload reaches `g_machineState`.**
    `dataVar.is<JsonObject>()` fails on every document, so `_onMessage`
    returns before either branch, whatever the payload. -/
@[simp] theorem onMessage_from6_18 (payload : List UInt8) (ms : MachineState) :
    onMessage .from6_18 deserializeJson machineId payload ms = ms := by
  unfold onMessage
  split
  · rfl
  · split <;> simp

/-! ## Which messages change the state -/

/-- Case (a) of `_onMessage`: a subscribe response carrying a state. `Topic`
    is `"machine/subscribe"`, `Data` is an object whose `FailureReason` is
    absent, empty or not a string, and whose `AtAGlanceState` is `state`. -/
def IsSubscribeResponse (doc : JsonVariant) (state : JsonObjectConst) : Prop :=
  (∃ topic, doc["Topic"] = .string topic ∧ topic.bytes = lit "machine/subscribe") ∧
  doc["Data"].isObject = true ∧
  (∀ failure, doc["Data"]["FailureReason"] = .string failure → failure.bytes = []) ∧
  doc["Data"]["AtAGlanceState"] = .object state.members

/-- Case (b): a state broadcast for this machine. `Topic` is exactly
    `"machine/" + machineId + "/state"`, `Data` is an object whose
    `AtAGlanceChanges` is `changes`. -/
def IsStateBroadcast (doc : JsonVariant) (changes : JsonObjectConst) : Prop :=
  (∃ topic, doc["Topic"] = .string topic ∧
    topic.bytes = lit "machine/" ++ machineId.bytes ++ lit "/state") ∧
  doc["Data"].isObject = true ∧
  doc["Data"]["AtAGlanceChanges"] = .object changes.members

variable {lib deserializeJson machineId} {payload : List UInt8} {ms : MachineState} {doc : JsonVariant}

/-- `_onMessage` past its three early returns: a document with a string
    `Topic` and a `Data` the release takes for an object. -/
theorem onMessage_of_doc {topic : CStr} (hd : deserializeJson payload = some doc)
    (ht : doc["Topic"] = .string topic) (hdata : doc["Data"].isJsonObject lib = true) :
    onMessage lib deserializeJson machineId payload ms =
      if topic.bytes = lit "machine/subscribe" then onSubscribeResponse lib doc["Data"].asObject ms
      else onStateBroadcast lib machineId topic doc["Data"].asObject ms := by
  simp only [onMessage, hd, ht, JsonVariant.asString_string]
  rw [JsonVariant.isNull_or_not_isJsonObject, hdata]
  rfl

/-- Every message either leaves the state alone, applies the state of a
    subscribe response, or applies the delta of a state broadcast, whatever
    the release. -/
theorem onMessage_cases :
    onMessage lib deserializeJson machineId payload ms = ms ∨
    (∃ doc state, deserializeJson payload = some doc ∧ IsSubscribeResponse doc state ∧
      onMessage lib deserializeJson machineId payload ms = parseAtAGlanceState lib state ms) ∨
    (∃ doc changes, deserializeJson payload = some doc ∧ IsStateBroadcast machineId doc changes ∧
      onMessage lib deserializeJson machineId payload ms = applyAtAGlanceChanges lib changes ms) := by
  cases hd : deserializeJson payload with
  | none => exact .inl (by simp [onMessage, hd])
  | some doc =>
  cases ht : doc["Topic"].asString with
  | none => exact .inl (by simp [onMessage, hd, ht])
  | some topic =>
  rw [JsonVariant.asString_eq_some_iff] at ht
  by_cases hdata : doc["Data"].isJsonObject lib = true
  case neg => exact .inl (by simp [onMessage, hd, ht, hdata])
  rw [onMessage_of_doc hd ht hdata]
  have hobj := JsonVariant.isObject_of_isJsonObject hdata
  have member : ∀ key : String, doc["Data"].asObject[key].isJsonObject lib = true →
      doc["Data"][key] = .object doc["Data"].asObject[key].asObject.members :=
    fun key h => (JsonVariant.getElem_eq_asObject _ key).trans
      (JsonVariant.eq_object_of_isObject (JsonVariant.isObject_of_isJsonObject h))
  by_cases htopic : topic.bytes = lit "machine/subscribe"
  · rw [if_pos htopic]
    unfold onSubscribeResponse
    by_cases hf : doc["Data"].asObject["FailureReason"].asString.any (fun f => f.bytes ≠ []) = true
    · rw [if_pos hf]; exact .inl rfl
    rw [if_neg hf]
    simp only [JsonVariant.notNull_and_isJsonObject]
    by_cases hs : doc["Data"].asObject["AtAGlanceState"].isJsonObject lib = true
    · rw [if_pos hs]
      refine .inr (.inl ⟨doc, _, rfl, ⟨⟨topic, ht, htopic⟩, hobj, fun f hf' => ?_, member _ hs⟩, rfl⟩)
      rw [JsonVariant.getElem_eq_asObject] at hf'
      simpa [hf'] using hf
    · rw [if_neg hs]; exact .inl rfl
  · rw [if_neg htopic]
    unfold onStateBroadcast
    by_cases hb : topic.bytes = expectedTopic machineId
    · rw [if_neg (not_not.2 hb)]
      simp only [JsonVariant.notNull_and_isJsonObject]
      by_cases hc : doc["Data"].asObject["AtAGlanceChanges"].isJsonObject lib = true
      · rw [if_pos hc]
        exact .inr (.inr ⟨doc, _, rfl,
          ⟨⟨topic, ht, expectedTopic_eq machineId ▸ hb⟩, hobj, member _ hc⟩, rfl⟩)
      · rw [if_neg hc]; exact .inl rfl
    · rw [if_pos hb]; exact .inl rfl

end handler

/-- The broadcast of the delta from server state `a` to `b` for the
    default machine. -/
def stateBroadcast (a b : JsonObjectConst) : JsonVariant :=
  .object [("Topic", .string ⟨lit "machine/your-machine-id/state", by decide⟩),
    ("Data", .object [("AtAGlanceChanges", .object (diff (viewOf a) (viewOf b)).members)])]

/-- A server's messages to a subscriber: `Prusa` starts `benchy`, reaches
    75 %, answers the subscription there and goes back to idle. -/
def racePayloads (payload : List UInt8) : Option JsonVariant :=
  if payload = lit "0" then
    some (.object [("Topic", .string ⟨lit "machine/subscribe", by decide⟩),
      ("Data", .object [("AtAGlanceState", .object (benchyState (.int 75)).members)])])
  else if payload = lit "1" then some (stateBroadcast idleState (benchyState (.int 50)))
  else if payload = lit "2" then some (stateBroadcast (benchyState (.int 50)) (benchyState (.int 75)))
  else if payload = lit "3" then some (stateBroadcast (benchyState (.int 75)) idleState)
  else none

/-- Built against 6.18, the subscribe response that carries `benchy` at 75 %
    leaves the boot state as it was, where `_parseAtAGlanceState` of its
    state would show `Printing`. -/
theorem onMessage_drops_subscribe_response :
    (∃ doc, racePayloads (lit "0") = some doc ∧ IsSubscribeResponse doc (benchyState (.int 75))) ∧
      onMessage .from6_18 racePayloads C3DP_MACHINE_ID (lit "0") {} = {} ∧
      (parseAtAGlanceState .from6_18 (benchyState (.int 75)) {}).status = .printing :=
  ⟨⟨_, rfl, ⟨⟨_, rfl, by decide⟩, rfl, fun _ h => by simp at h, rfl⟩⟩, onMessage_from6_18 _ _ _ _, rfl⟩

/-! ## Connection events and runs -/

/-- `WebsocketsEvent` of ArduinoWebsockets. -/
inductive WebsocketsEvent where
  | connectionOpened
  | connectionClosed
  | gotPing
  | gotPong
  deriving DecidableEq, Repr

/-- The firmware state the handler reads and writes. -/
structure Kiosk where
  /-- `WsHandler::connected`. -/
  connected : Bool := false
  /-- The global `g_machineState`. -/
  machineState : MachineState := {}
  /-- The frames given to `client.send`, oldest first. -/
  sent : List JsonVariant := []

/-- The `onEvent` callback `WsHandler::begin()` registers. -/
def onEvent (machineId : CStr) (event : WebsocketsEvent) (k : Kiosk) : Kiosk :=
  match event with
  | .connectionOpened =>
    { k with connected := true,
             machineState := { k.machineState with wsConnected := true },
             sent := k.sent ++ [subscribeRequest machineId] }
  | .connectionClosed =>
    { k with connected := false,
             machineState := { k.machineState with wsConnected := false, status := .disconnected } }
  | .gotPing | .gotPong => k

/-- What the transport hands the firmware during `client.poll()`. -/
inductive Input where
  /-- A connection event, for the `onEvent` callback. -/
  | event (e : WebsocketsEvent)
  /-- A text frame, for the `onMessage` callback and `_onMessage`. -/
  | message (payload : List UInt8)
  deriving DecidableEq

section run
variable (lib : ArduinoJson) (deserializeJson : List UInt8 → Option JsonVariant) (machineId : CStr)

/-- One callback. -/
def step (k : Kiosk) : Input → Kiosk
  | .event e => onEvent machineId e k
  | .message payload =>
    { k with machineState := onMessage lib deserializeJson machineId payload k.machineState }

/-- A run from `k`: the callbacks in the order the transport makes them. -/
def run (k : Kiosk) (inputs : List Input) : Kiosk := inputs.foldl (step lib deserializeJson machineId) k

@[simp] theorem run_nil (k : Kiosk) : run lib deserializeJson machineId k [] = k := rfl

@[simp] theorem run_cons (k : Kiosk) (x : Input) (inputs : List Input) :
    run lib deserializeJson machineId k (x :: inputs) =
      run lib deserializeJson machineId (step lib deserializeJson machineId k x) inputs := rfl

end run

end Connect3DpKiosk
