import Connect3DpKiosk.Runs

/-! # The display

    `ui_init` and `ui_update` of `ui_manager.h`. `ui_init` builds the LVGL
    widgets; `ui_update(ms)` redraws them from `g_machineState`. LVGL keeps
    each widget's text until it is set again, and `ui_update` sets the job
    panel's labels only while it shows the panel, so the widgets are a state
    that each refresh steps: a hidden panel still holds the last job it
    showed. A `C3DP_DEV_MODE` build adds the overlay `s_lblDevStats`, which
    only `ui_update_dev_stats` writes. The progress bar keeps the value LVGL
    clamped into its range and, since `ui_update` sets it with `LV_ANIM_ON`,
    the value its indicator slides from.

    Over every run of the kiosk, a refresh with the link down shows
    `No server` and `Disconnected`, with neither the job panel nor the
    Mark-as-Idle button.

    Left out: widget geometry, fonts and the colours of static widgets; the
    Wi-Fi glyph `LV_SYMBOL_WIFI` before the link label's text; the frames of
    the bar's animation. The button's callback calls
    `wsHandler.sendMarkAsIdle()`, which `ws_handler.h` does not define, so
    pressing it is not modelled.
-/

namespace Connect3DpKiosk

/-! ## The widgets -/

/-- `_statusColor(s)`, as the value given to `lv_color_hex`. -/
def statusColor : MachineStatus → Nat
  | .idle => 0x27AE60
  | .printing => 0x2980B9
  | .paused => 0xF39C12
  | .printed => 0x8E44AD
  | .canceled => 0xE74C3C
  | .connecting => 0x95A5A6
  | _ => 0x555555

/-- `s_barProgress` as LVGL 8 holds it: the bar's value, and the value its
    indicator is drawn sliding from since the last change (the value itself
    when that change was not animated). -/
structure LvBar where
  value : Int
  animStart : Int
  deriving DecidableEq

/-- `lv_bar_set_value(bar, value, anim)` on the bar of range `0..100` that
    `ui_init` sets up: a value equal to the bar's changes nothing; any other
    is clamped into the range (`LV_CLAMP`), and a change made with
    `LV_ANIM_ON` animates from the old value. -/
def lvBarSetValue (bar : LvBar) (value : Int) (anim : Bool) : LvBar :=
  if bar.value = value then bar
  else
    let value := min (max value 0) 100
    if bar.value = value then bar
    else { value, animStart := if anim then bar.value else value }

/-- What `ui_update` writes, as LVGL holds it between calls. -/
structure Screen where
  /-- The text of `s_lblConnStatus` after the Wi-Fi glyph. -/
  connText : List UInt8
  /-- The colour of `s_lblConnStatus`. -/
  connColor : Nat
  /-- `s_lblStatus`. -/
  statusText : String
  /-- The colour of `s_statusBar`. -/
  statusColor : Nat
  /-- `s_lblDevStats` in a `C3DP_DEV_MODE` build, `none` in any other. -/
  devStats : Option (List UInt8)
  /-- `s_lblNickname`. -/
  nicknameText : List UInt8
  /-- `LV_OBJ_FLAG_HIDDEN` on `s_btnMarkIdle`. -/
  markIdleHidden : Bool
  /-- `LV_OBJ_FLAG_HIDDEN` on `s_containerJob`. -/
  jobHidden : Bool
  /-- `s_lblJobName`. -/
  jobName : List UInt8
  /-- `s_barProgress`. -/
  bar : LvBar
  /-- `s_lblPercent`. -/
  percentText : List UInt8
  /-- `s_lblRemaining`. -/
  remainingText : List UInt8
  deriving DecidableEq

/-- The widgets as `ui_init` leaves them, in a build with `C3DP_DEV_MODE`
    defined when `devMode`. -/
def uiInit (devMode : Bool) (machineId : CStr) : Screen where
  connText := lit " --"
  connColor := 0x7F8C8D
  statusText := "Disconnected"
  statusColor := statusColor .disconnected
  devStats := if devMode then some (lit "Heap: --  Loop: --") else none
  nicknameText := machineId.bytes
  markIdleHidden := true
  jobHidden := true
  jobName := []
  bar := lvBarSetValue ⟨0, 0⟩ 0 false
  percentText := lit "0%"
  remainingText := []

/-- `%u` of an `unsigned int`: the decimal digits. -/
def formatNat (n : Nat) : List UInt8 := (Nat.toDigits 10 n).map fun c => c.toNat.toUInt8

/-- `%d` of an `int`: a `-` when negative, then the decimal digits. -/
def formatInt (n : Int) : List UInt8 := (if n < 0 then lit "-" else []) ++ formatNat n.natAbs

/-- `snprintf(pctBuf, sizeof(pctBuf), "%d%%", pct)` into `char pctBuf[8]`. -/
def percentLabel (pct : Int) : List UInt8 := snprintf 8 (formatInt pct ++ lit "%")

/-- The text of `s_lblRemaining`: `Remaining: <rem>`, then `  /  <total>`
    when there is a total, or nothing without a remaining time. -/
def remainingLabel (remainingTime totalTime : List UInt8) : List UInt8 :=
  if remainingTime.length > 0 then
    lit "Remaining: " ++ remainingTime ++ (if totalTime.length > 0 then lit "  /  " ++ totalTime else [])
  else []

/-- `showMarkIdle`: only a finished or canceled print offers the button. -/
def showMarkIdle (status : MachineStatus) : Bool := status == .printed || status == .canceled

/-- `showJob`: a job, while printing, paused or just printed. -/
def showJob (ms : MachineState) : Bool :=
  ms.hasJob && (ms.status == .printing || ms.status == .paused || ms.status == .printed)

/-- The body of `ui_update(ms)`, after `if (!s_scrMain) return;`. -/
def refresh (machineId : CStr) (ms : MachineState) (scr : Screen) : Screen :=
  let scr := { scr with
    connText := if ms.wsConnected then lit " Connected" else lit " No server"
    connColor := if ms.wsConnected then 0x2ECC71 else 0xE74C3C
    statusText := machineStatusLabel ms.status
    statusColor := statusColor ms.status
    nicknameText := if ms.nickname.length > 0 then ms.nickname else machineId.bytes
    markIdleHidden := !showMarkIdle ms.status }
  if showJob ms then
    { scr with
      jobHidden := false
      jobName := ms.job.name
      bar := lvBarSetValue scr.bar ms.job.percentageComplete true
      percentText := percentLabel ms.job.percentageComplete
      remainingText := remainingLabel ms.job.remainingTime ms.job.totalTime }
  else { scr with jobHidden := true }

/-- `ui_update(ms)`: nothing before `ui_init` has built the screen. -/
def uiUpdate (machineId : CStr) (ms : MachineState) (screen : Option Screen) : Option Screen :=
  screen.map (refresh machineId ms)

/-- `snprintf(buf, sizeof(buf), "Heap: %uK/%uK  Loop: %ums", freeHeap / 1024,
    totalHeap / 1024, loopMs)` into `char buf[40]`, the text
    `ui_update_dev_stats` gives `s_lblDevStats`. -/
def devStatsLabel (freeHeap totalHeap loopMs : UInt32) : List UInt8 :=
  snprintf 40 (lit "Heap: " ++ formatNat (freeHeap.toNat / 1024) ++ lit "K/" ++
    formatNat (totalHeap.toNat / 1024) ++ lit "K  Loop: " ++ formatNat loopMs.toNat ++ lit "ms")

/-- `ui_update_dev_stats(freeHeap, totalHeap, loopMs)`: the overlay label
    gets the new text; nothing before `ui_init` has built it, nor in a build
    without `C3DP_DEV_MODE`. -/
def uiUpdateDevStats (freeHeap totalHeap loopMs : UInt32) (screen : Option Screen) : Option Screen :=
  screen.map fun scr => { scr with devStats := scr.devStats.map fun _ => devStatsLabel freeHeap totalHeap loopMs }

/-! ## A down link -/

/-- A refresh with the link down and the status `Disconnected` shows
    `No server` and `Disconnected`, and hides the job panel and the
    Mark-as-Idle button. -/
theorem refresh_of_linkDown {machineId : CStr} {ms : MachineState} (scr : Screen)
    (hw : ms.wsConnected = false) (hs : ms.status = .disconnected) :
    (refresh machineId ms scr).connText = lit " No server" ∧
      (refresh machineId ms scr).statusText = "Disconnected" ∧
      (refresh machineId ms scr).jobHidden = true ∧ (refresh machineId ms scr).markIdleHidden = true := by
  simp [refresh, showJob, showMarkIdle, hw, hs, machineStatusLabel]

/-- **A down link shows no job.** Over every run from boot in which the
    transport delivers payloads only while the link is open, a refresh from
    a state with the link down shows `No server` and `Disconnected`, and
    neither the job panel nor the Mark-as-Idle button. -/
theorem run_linkDown_refresh (lib : ArduinoJson) (deserializeJson : List UInt8 → Option JsonVariant)
    (machineId : CStr) (inputs : List Input) (h : DeliveredWhileOpen false inputs) (scr : Screen) :
    let ms := (run lib deserializeJson machineId {} inputs).machineState
    ms.wsConnected = false →
      (refresh machineId ms scr).connText = lit " No server" ∧
      (refresh machineId ms scr).statusText = "Disconnected" ∧
      (refresh machineId ms scr).jobHidden = true ∧ (refresh machineId ms scr).markIdleHidden = true := by
  obtain ⟨linkOpen, hw, hs⟩ := run_linkShown lib deserializeJson machineId inputs h
  exact fun hoff => refresh_of_linkDown scr hoff (hs (hw.symm.trans hoff))

/-- The link opens, the subscribe response for `benchy` at 75 % arrives, the
    link closes: the refresh shows the link down. -/
theorem run_linkDown_refresh_after_close :
    let inputs : List Input := [.event .connectionOpened, .message (lit "0"), .event .connectionClosed]
    let ms := (run .upTo6_17 racePayloads C3DP_MACHINE_ID {} inputs).machineState
    DeliveredWhileOpen false inputs ∧ ms.wsConnected = false ∧
      ((refresh C3DP_MACHINE_ID ms (uiInit false C3DP_MACHINE_ID)).connText = lit " No server" ∧
        (refresh C3DP_MACHINE_ID ms (uiInit false C3DP_MACHINE_ID)).statusText = "Disconnected" ∧
        (refresh C3DP_MACHINE_ID ms (uiInit false C3DP_MACHINE_ID)).jobHidden = true ∧
        (refresh C3DP_MACHINE_ID ms (uiInit false C3DP_MACHINE_ID)).markIdleHidden = true) :=
  have hd : DeliveredWhileOpen false [.event .connectionOpened, .message (lit "0"), .event .connectionClosed] := by
    simp [DeliveredWhileOpen, linkAfter]
  ⟨hd, rfl, run_linkDown_refresh _ _ _ _ hd _ rfl⟩

end Connect3DpKiosk
