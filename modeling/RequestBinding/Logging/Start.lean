import RequestBinding.Logging.Writer
import RequestBinding.Settings.Basic

/-!
# Starting to log

## Main definitions

* `Settings.startLogging` - installs the writer that settings ask for
-/

namespace RequestBinding.Settings

/-- The event that reports the start of the service. -/
def startEvent (s : Settings) : Event :=
  ⟨.info, "ariadne", "telemetry initialized",
    [("service", .text s.api.serviceName), ("mount_path", .text s.api.mountPath)]⟩

/-- Installs the writer that settings ask for and reports the start of the service, which is
written by whatever writer is installed then. -/
def startLogging (s : Settings) (current : Option Logger) :
    Traced (Except LoggingError (Option Logger)) :=
  match Logger.install current s.logging.writer with
  | .ok l => .logged (.ok l) s.startEvent
  | .error e => .pure (.error e)

end RequestBinding.Settings
