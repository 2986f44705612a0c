import CallProfile.Call

namespace CallProfile

inductive ProfileError where
  | unmatched (id : CallId) (reason : String)
  | alreadyStarted
  | alreadyFinalized
  | notRunning
  | unsupportedCounter (counter device : String)
  | incompatibleMetric (clash : MetricClash)
  | collector (name reason : String)
  | exportFailed (reason : String)
deriving DecidableEq

def ProfileError.message : ProfileError → String
  | unmatched id reason => "unmatched call end for call " ++ id.text ++ ": " ++ reason
  | alreadyStarted => "profiling session already started"
  | alreadyFinalized => "profiling session already finalized"
  | notRunning => "profiling session is not running"
  | unsupportedCounter counter device =>
    "counter `" ++ counter ++ "` is not available on device " ++ device
  | incompatibleMetric clash => clash.message
  | collector name reason => "collector `" ++ name ++ "` failed: " ++ reason
  | exportFailed reason => "export failed: " ++ reason

end CallProfile
