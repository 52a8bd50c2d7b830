import Connect3DpKiosk.CString

/-! # Machine state

    `machine_state.h`: the status enumeration, the job and machine records
    the reconciler writes and the display reads, and the two pure helpers,
    `parseMachineStatus` and `machineStatusLabel`.

    The Arduino `String` fields are byte strings. `percentageComplete` is an
    `int`; every value the reconciler stores in it passed `is<int>()`, so it
    is kept as an `Int` without a width of its own.
-/

namespace Connect3DpKiosk

/-! ## Records -/

/-- `enum class MachineStatus`, one variant per display state. -/
inductive MachineStatus where
  | unknown
  | disconnected
  | connecting
  | idle
  | printing
  | printed
  | paused
  | canceled
  deriving DecidableEq, Repr

/-- `PrintJobState`: the job fields of the AtAGlance view. `PrintJobState{}`
    is the empty job, with every field at its default. -/
@[ext] structure PrintJobState where
  name : List UInt8 := []
  percentageComplete : Int := 0
  /-- A .NET `TimeSpan` as the server writes it, kept as raw text. -/
  remainingTime : List UInt8 := []
  totalTime : List UInt8 := []
  subStage : List UInt8 := []
  deriving DecidableEq, Repr

/-- `MachineState`: the one record `g_machineState` the handler writes and
    the display reads. `MachineState{}` is the boot state. -/
@[ext] structure MachineState where
  wsConnected : Bool := false
  status : MachineStatus := .disconnected
  nickname : List UInt8 := []
  hasJob : Bool := false
  /-- Meaningful only while `hasJob`. -/
  job : PrintJobState := {}
  deriving DecidableEq, Repr

/-! ## `parseMachineStatus` -/

/-- The keywords `parseMachineStatus` tries with `strstr`, in its order. -/
def statusKeywords : List (String × MachineStatus) :=
  [("Printing", .printing), ("Paused", .paused), ("Printed", .printed),
   ("Canceled", .canceled), ("Idle", .idle), ("Connecting", .connecting),
   ("Disconnected", .disconnected)]

/-- The chain `if (strstr(s, kw)) return st; ... return Unknown;` over a
    keyword table, where `found kw` answers `strstr(s, kw) != NULL`. -/
def firstMatch (found : List UInt8 → Bool) : List (String × MachineStatus) → MachineStatus
  | [] => .unknown
  | (kw, st) :: rest => if found (lit kw) then st else firstMatch found rest

/-- `parseMachineStatus(s)`: a server status string, possibly a combination
    of `[Flags]` such as `"Printing, Paused"`, to the one status shown. -/
def parseMachineStatus : Option CStr → MachineStatus
  | none => .unknown
  | some s => if s.bytes = [] then .unknown else firstMatch (strstr s) statusKeywords

/-- `machineStatusLabel(s)`: the text of the status bar. -/
def machineStatusLabel : MachineStatus → String
  | .disconnected => "Disconnected"
  | .connecting => "Connecting..."
  | .idle => "Idle"
  | .printing => "Printing"
  | .printed => "Print Complete"
  | .paused => "Paused"
  | .canceled => "Canceled"
  | .unknown => "Unknown"

end Connect3DpKiosk
