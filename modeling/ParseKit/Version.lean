import ParseKit.Run

/-!
The version of the installed toolkit.
-/

namespace ParseKit

namespace Version

def distribution : Text := "pcomb".toList

def released : Text := "0.1.0".toList

/-- The version: that of the installed distribution, else that of the environment, else unknown. -/
def current (installed : Text → Option Text) (environment : Option Text) : Run Text :=
  match installed distribution with
  | some version => pure version
  | none => do
    Run.tell <| .record
      { logger := "pcomb._version".toList
        level := .debug
        message := "Distribution '".toList ++ distribution ++ "' is not installed".toList }
    return environment.getD "unknown".toList

end Version

end ParseKit
