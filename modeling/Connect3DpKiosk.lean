import Connect3DpKiosk.CString
import Connect3DpKiosk.Json
import Connect3DpKiosk.MachineState
import Connect3DpKiosk.StatusClassifier
import Connect3DpKiosk.Reconciler
import Connect3DpKiosk.ReconcilerLaws
import Connect3DpKiosk.ServerSync
import Connect3DpKiosk.WsHandler
import Connect3DpKiosk.Runs
import Connect3DpKiosk.Display
import Connect3DpKiosk.Delivery
import Connect3DpKiosk.Lifecycle
import Connect3DpKiosk.Simulator
