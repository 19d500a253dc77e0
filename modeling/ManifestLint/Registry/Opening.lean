import ManifestLint.Registry.Basic
import ManifestLint.Settings.Basic

/-!
# Opening a registry

The registry of a program is opened with its settings.  The address of the host has to be set, since
slashes are taken off its end.
-/

namespace ManifestLint

/-- The registry that settings ask for. -/
def Registry.ofSettings (settings : Settings) : Except Json.ShapeError Registry :=
  match settings.apiUrl with
  | some apiUrl =>
    .ok (.new (.new apiUrl settings.timeout settings.token) settings.cooldown settings.token)
  | none => .error (.lacks .null "rstrip")

end ManifestLint
