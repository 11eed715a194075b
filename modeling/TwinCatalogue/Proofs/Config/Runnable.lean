import TwinCatalogue.Proofs.Http.BaseAddress
import TwinCatalogue.Proofs.Retry.Guards

/-! Of the configurations that are read, with whatever the file gives and the standard values for the
rest, those are loaded that the engine can run with. It then takes their numbers as they are: none of
its guards changes any. -/

namespace TwinCatalogue.Config

variable {c : Config}

/-- A floor alone can be too high, for the ceiling that is not given. -/
example : load "onboard.json" (some "\x7b\"retry\": \x7b\"backoff_floor_ms\": 10001\x7d\x7d") =
    .error (.invalid
      "retry.backoff_floor_ms (10001) exceeds retry.backoff_ceiling_ms (10000)") := by
  decide +kernel

end TwinCatalogue.Config
