import CallProfile.Counter.Backend
import CallProfile.Device.Parse
import CallProfile.FileStore
import CallProfile.Json.Fault
import CallProfile.ProfileError

namespace CallProfile

inductive ConfigError where
  | unreadable
  | blankName
  | invalidDevice (text : String) (error : Device.ParseError)
  | repeatedDevice (device : Device)
  | noCounters (device : Device)
  | repeatedCounter (counter : String) (device : Device)
  | noCollector
deriving DecidableEq

def ConfigError.message : ConfigError → String
  | unreadable => "Failed to parse session config"
  | blankName => "Session name must not be empty"
  | invalidDevice text error => "Invalid device `" ++ text ++ "`: " ++ error.message
  | repeatedDevice device => "Device " ++ device.text ++ " configured more than once"
  | noCounters device => "No counters listed for device " ++ device.text
  | repeatedCounter counter device =>
    "Counter `" ++ counter ++ "` listed twice for device " ++ device.text
  | noCollector => "At least one collector must be enabled"

inductive Attempt where
  | readConfig (path : String)
  | checkConfigFile (path : String)
  | checkConfig
  | buildCollectors
  | openReport (path : String)
  | parseReport (path : String)
  | createFile (path : String)
  | renderCsv
  | writeFile (path : String)
  | mergeReport (path : String)
  | parseDevice (text : String)
  | readCounters (device : Device)
deriving DecidableEq

def Attempt.message : Attempt → String
  | readConfig path => "Failed to read config file: " ++ path
  | checkConfigFile path => "Invalid config file: " ++ path
  | checkConfig => "Invalid session configuration"
  | buildCollectors => "Failed to build collectors"
  | openReport path => "Failed to open report: " ++ path
  | parseReport path => "Failed to parse report: " ++ path
  | createFile path => "Failed to create output file: " ++ path
  | renderCsv => "Failed to render report as CSV"
  | writeFile path => "Failed to write output file: " ++ path
  | mergeReport path => "Cannot merge " ++ path
  | parseDevice text => "Invalid device `" ++ text ++ "`"
  | readCounters device => "Failed to read counters on " ++ device.text

inductive Cause where
  | file (error : FileError)
  | json (fault : Json.Fault)
  | config (error : ConfigError)
  | device (error : Device.ParseError)
  | counter (error : CounterError)
  | profile (error : ProfileError)
deriving DecidableEq

def Cause.message : Cause → String
  | file error => error.message
  | json fault => fault.message
  | config error => error.message
  | device error => error.message
  | counter error => error.message
  | profile error => error.message

structure Failure where
  attempts : List Attempt
  cause : Cause
deriving DecidableEq

namespace Failure

def message (failure : Failure) : String :=
  ": ".intercalate (failure.attempts.map Attempt.message ++ [failure.cause.message])

def during (attempt : Attempt) (failure : Failure) : Failure :=
  { failure with attempts := attempt :: failure.attempts }

end Failure

def attempting {α ε : Type} (attempts : List Attempt) (cause : ε → Cause) (result : Except ε α) :
    Except Failure α :=
  result.mapError fun error => ⟨attempts, cause error⟩

end CallProfile
