import Mathlib.Data.Nat.Digits
import Connect3DpKiosk.Display

/-! # The PC simulator

    `simulator/main.cpp` shows the kiosk's screen on a PC: `ui_init()`, then
    `ui_update` of each entry of `demo_states[]` in turn, switching on the
    pass of the main loop where `SDL_GetTicks() - lastSwitch >=
    STATE_DWELL_MS`. `SDL_GetTicks()` counts milliseconds in a `uint32_t`,
    so it wraps after about 49.7 days, and the subtraction wraps with it.

    The loop as it is meant (`DemoSpec`) counts real milliseconds and
    switches once 3 s have passed since the last switch. The code's loop
    (`DemoLoop`) simulates it over every run whose passes are less than
    `2^32 - 3000` ms apart: at each pass both show the same demo state on
    the same screen, however often the tick count has wrapped.

    The simulator defines no `C3DP_DEV_MODE`, so its screen has no overlay.

    Left out: SDL and LVGL themselves (window, renderer, the flush and mouse
    callbacks, `lv_timer_handler`, `SDL_Delay`) and the quit events.
-/

namespace Connect3DpKiosk

/-! ## Section 1: Model -/

/-- `demo_states[]`: every status the simulator shows, with a job while
    printing, paused and printed. -/
def demoStates : List MachineState :=
  [{ wsConnected := false, status := .disconnected, nickname := lit "", hasJob := false, job := {} },
   { wsConnected := false, status := .connecting, nickname := lit "My Printer", hasJob := false, job := {} },
   { wsConnected := true, status := .idle, nickname := lit "My Printer", hasJob := false, job := {} },
   { wsConnected := true, status := .printing, nickname := lit "My Printer", hasJob := true,
     job := { name := lit "benchy.3mf", percentageComplete := 45, remainingTime := lit "00:45:00",
              totalTime := lit "01:30:00", subStage := lit "" } },
   { wsConnected := true, status := .paused, nickname := lit "My Printer", hasJob := true,
     job := { name := lit "benchy.3mf", percentageComplete := 32, remainingTime := lit "01:01:00",
              totalTime := lit "01:30:00", subStage := lit "" } },
   { wsConnected := true, status := .printed, nickname := lit "My Printer", hasJob := true,
     job := { name := lit "benchy.3mf", percentageComplete := 100, remainingTime := lit "00:00:00",
              totalTime := lit "01:30:00", subStage := lit "" } },
   { wsConnected := true, status := .canceled, nickname := lit "My Printer", hasJob := false, job := {} }]

/-- `DEMO_STATE_COUNT`. -/
def DEMO_STATE_COUNT : Nat := demoStates.length

/-- `STATE_DWELL_MS`. -/
def STATE_DWELL_MS : UInt32 := 3000

/-- `ui_update(demo_states[i])`. -/
def showDemo (i : Nat) (scr : Screen) : Screen := refresh C3DP_MACHINE_ID (demoStates.getD i {}) scr

/-- The main loop's state: `stateIdx`, `lastSwitch` and the widgets. -/
structure DemoLoop where
  stateIdx : Nat
  lastSwitch : UInt32
  screen : Screen

/-- `ui_init(); ui_update(demo_states[0]);`, then `stateIdx = 0` and
    `lastSwitch = SDL_GetTicks()`. -/
def demoStart (now : UInt32) : DemoLoop where
  stateIdx := 0
  lastSwitch := now
  screen := showDemo 0 (uiInit false C3DP_MACHINE_ID)

/-- The timer block of one pass of the main loop, at `SDL_GetTicks() = now`. -/
def demoTick (s : DemoLoop) (now : UInt32) : DemoLoop :=
  if STATE_DWELL_MS ≤ now - s.lastSwitch then
    let stateIdx := (s.stateIdx + 1) % DEMO_STATE_COUNT
    { stateIdx, lastSwitch := now, screen := showDemo stateIdx s.screen }
  else s

/-- The passes of the main loop at the tick counts `nows`. -/
def demoRun (s : DemoLoop) (nows : List UInt32) : DemoLoop := nows.foldl demoTick s

/-! ## Section 2: The loop on real time -/

/-- The loop as it is meant, on real milliseconds since start. -/
structure DemoSpec where
  stateIdx : Nat
  switchedAt : Nat
  screen : Screen

/-- The meant loop at real time `t`, just after showing the first state. -/
def DemoSpec.start (t : Nat) : DemoSpec := ⟨0, t, showDemo 0 (uiInit false C3DP_MACHINE_ID)⟩

/-- Switch to the next demo state once 3 s have passed since the last switch. -/
def DemoSpec.tick (r : DemoSpec) (t : Nat) : DemoSpec :=
  if 3000 ≤ t - r.switchedAt then
    let stateIdx := (r.stateIdx + 1) % DEMO_STATE_COUNT
    ⟨stateIdx, t, showDemo stateIdx r.screen⟩
  else r

/-- The meant loop's passes at the real times `ts`. -/
def DemoSpec.run (r : DemoSpec) (ts : List Nat) : DemoSpec := ts.foldl DemoSpec.tick r

/-- The real times of the loop's passes after one at `t`: in order, each
    less than `2^32 - 3000` ms after the one before. -/
def PassTimes : Nat → List Nat → Prop
  | _, [] => True
  | t, t' :: ts => t ≤ t' ∧ t' - t < 2 ^ 32 - 3000 ∧ PassTimes t' ts

/-! ## Section 3: Wrapping ticks -/

/-- The tick difference is the real difference, wrapped. -/
theorem ticks_sub_toNat {a b : Nat} (h : a ≤ b) :
    (UInt32.ofNat b - UInt32.ofNat a).toNat = (b - a) % 2 ^ 32 := by
  simp only [UInt32.toNat, UInt32.sub_def, BitVec.toNat_sub, UInt32.ofNat, BitVec.toNat_ofNat]
  omega

/-- Within `2^32` ms of the last switch, the wrapped test is the real one. -/
theorem dwell_iff {a b : Nat} (h : a ≤ b) (hw : b - a < 2 ^ 32) :
    STATE_DWELL_MS ≤ UInt32.ofNat b - UInt32.ofNat a ↔ 3000 ≤ b - a := by
  have hs := ticks_sub_toNat h
  rw [Nat.mod_eq_of_lt hw] at hs
  rw [STATE_DWELL_MS, UInt32.le_def, BitVec.le_def]
  exact iff_of_eq (congrArg (3000 ≤ ·) hs)

/-! ## Section 4: The code's loop simulates the meant one -/

/-- After a pass at real time `t`, the code's loop shows what the meant
    loop shows, its `lastSwitch` is the tick count of the meant loop's last
    switch, and that switch is less than 3 s old. -/
structure DemoLoop.Simulates (s : DemoLoop) (r : DemoSpec) (t : Nat) : Prop where
  stateIdx : s.stateIdx = r.stateIdx
  lastSwitch : s.lastSwitch = UInt32.ofNat r.switchedAt
  screen : s.screen = r.screen
  switchedAt_le : r.switchedAt ≤ t
  recent : t - r.switchedAt < 3000

theorem DemoLoop.Simulates.start (t : Nat) : (demoStart (UInt32.ofNat t)).Simulates (DemoSpec.start t) t :=
  ⟨rfl, rfl, rfl, le_rfl, by simp [DemoSpec.start]⟩

/-- **Step.** A pass less than `2^32 - 3000` ms after the last keeps the
    simulation. -/
theorem DemoLoop.Simulates.tick {s : DemoLoop} {r : DemoSpec} {t t' : Nat} (h : s.Simulates r t)
    (ht : t ≤ t') (hgap : t' - t < 2 ^ 32 - 3000) :
    (demoTick s (UInt32.ofNat t')).Simulates (r.tick t') t' := by
  have hle := h.switchedAt_le
  have hd := dwell_iff (a := r.switchedAt) (b := t') (by omega) (by have := h.recent; omega)
  unfold demoTick DemoSpec.tick
  rw [h.lastSwitch]
  by_cases hsw : 3000 ≤ t' - r.switchedAt
  · rw [if_pos (hd.2 hsw), if_pos hsw]
    exact ⟨by rw [h.stateIdx], rfl, by rw [h.stateIdx, h.screen], le_rfl, by dsimp only; omega⟩
  · rw [if_neg (mt hd.1 hsw), if_neg hsw]
    exact ⟨h.stateIdx, h.lastSwitch, h.screen, by omega, by omega⟩

theorem DemoLoop.Simulates.run : ∀ {s : DemoLoop} {r : DemoSpec} {t : Nat} (ts : List Nat),
    s.Simulates r t → PassTimes t ts →
    (demoRun s (ts.map UInt32.ofNat)).Simulates (r.run ts) (ts.getLast?.getD t)
  | _, _, _, [], h, _ => h
  | _, _, _, _ :: ts, h, ⟨ht, hgap, hp⟩ => by
    simpa [demoRun, DemoSpec.run, List.getLast?_cons] using DemoLoop.Simulates.run ts (h.tick ht hgap) hp

/-- **The simulator keeps real time across the tick wrap.** Over every run
    of the main loop whose passes follow each other by less than
    `2^32 - 3000` ms, the code's loop, testing the wrapped `uint32_t`
    difference of `SDL_GetTicks()`, shows at each pass the demo state and
    screen of the loop that switches once 3 s of real time have passed
    since the last switch, however often the tick count has wrapped. -/
theorem demoRun_simulates (t₀ : Nat) (ts : List Nat) (h : PassTimes t₀ ts) :
    (demoRun (demoStart (UInt32.ofNat t₀)) (ts.map UInt32.ofNat)).stateIdx =
        ((DemoSpec.start t₀).run ts).stateIdx ∧
      (demoRun (demoStart (UInt32.ofNat t₀)) (ts.map UInt32.ofNat)).screen =
        ((DemoSpec.start t₀).run ts).screen := by
  have hs := (DemoLoop.Simulates.start t₀).run ts h
  exact ⟨hs.stateIdx, hs.screen⟩

/-- Started 1 s before the tick count wraps: 2 s later nothing changes,
    3.5 s later the second demo state is up. -/
theorem demoRun_simulates_wrap :
    PassTimes (2 ^ 32 - 1000) [2 ^ 32 + 1000, 2 ^ 32 + 2500] ∧
      ((demoRun (demoStart (UInt32.ofNat (2 ^ 32 - 1000))) ([2 ^ 32 + 1000, 2 ^ 32 + 2500].map UInt32.ofNat)).stateIdx =
          ((DemoSpec.start (2 ^ 32 - 1000)).run [2 ^ 32 + 1000, 2 ^ 32 + 2500]).stateIdx ∧
        (demoRun (demoStart (UInt32.ofNat (2 ^ 32 - 1000))) ([2 ^ 32 + 1000, 2 ^ 32 + 2500].map UInt32.ofNat)).screen =
          ((DemoSpec.start (2 ^ 32 - 1000)).run [2 ^ 32 + 1000, 2 ^ 32 + 2500]).screen) :=
  have hp : PassTimes (2 ^ 32 - 1000) [2 ^ 32 + 1000, 2 ^ 32 + 2500] :=
    ⟨by decide, by decide, by decide, by decide, trivial⟩
  ⟨hp, demoRun_simulates _ _ hp⟩

/-- A pass `2^32 + 1000` ms after the start reads 1000 ticks: the code
    keeps the first state where the meant loop has switched. -/
example : (demoRun (demoStart 0) [UInt32.ofNat (2 ^ 32 + 1000)]).stateIdx = 0 ∧
    ((DemoSpec.start 0).run [2 ^ 32 + 1000]).stateIdx = 1 := by
  decide

end Connect3DpKiosk
