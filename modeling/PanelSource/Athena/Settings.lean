import PanelSource.Json.Value
import PanelSource.Settings.Environment
import PanelSource.Settings.Summary
import PanelSource.Text.Blank

/- Settings for the SQL service.

   Specification: SPEC_FULL, section 11. -/
namespace PanelSource

structure AthenaSettings where
  /-- The region of requests that name none. -/
  region : String := "us-east-1"
  /-- The workgroup of ad-hoc statements that name none. -/
  workGroup : String := "primary"
  /-- Where results of ad-hoc statements go; empty leaves it to the workgroup. -/
  outputLocation : String := ""
  /-- The row limit of targets that set none. -/
  maxRows : Int := 1000
  /-- How often a started statement is checked before it is given up. -/
  waitAttempts : Nat := 30
  waitIntervalMillis : Nat := 1000
  /-- Entries that each cache has room for. -/
  cacheCapacity : Nat := 1024
  /-- How long lists of executions are kept. -/
  executionCacheSeconds : Nat := 24 * 60 * 60
  /-- How long scan limits of workgroups are kept. -/
  workGroupCacheSeconds : Nat := 5 * 60
  endpoint : Option String := none
  /-- A profile of the shared credentials files. -/
  credentialsProfile : Option String := none
  /-- A role taken on top of the credentials. -/
  role : Option String := none
  deriving DecidableEq, Repr, Inhabited

namespace AthenaSettings

def ofEnvironment (env : Environment) (profile : String) : AthenaSettings :=
  let standard : AthenaSettings := {}
  let natural := env.profiledNatural profile
  let u64 := Number.uint64Max
  let capacity := natural "ATHENA_CACHE_CAPACITY" u64 standard.cacheCapacity
  { region := ((env.profiled? profile "ATHENA_REGION").or
      (env.profiled? profile "AWS_REGION")).getD standard.region
    workGroup := env.profiledText profile "ATHENA_WORKGROUP" standard.workGroup
    outputLocation := env.profiledText profile "ATHENA_OUTPUT_LOCATION" ""
    maxRows := ((env.profiled? profile "ATHENA_MAX_ROWS").bind Number.int64?).getD standard.maxRows
    waitAttempts := natural "ATHENA_WAIT_ATTEMPTS" (Number.twoTo 32 - 1) standard.waitAttempts
    waitIntervalMillis := natural "ATHENA_WAIT_INTERVAL_MS" u64 standard.waitIntervalMillis
    cacheCapacity := if capacity = 0 then standard.cacheCapacity else capacity
    executionCacheSeconds :=
      natural "ATHENA_EXECUTION_CACHE_SECONDS" u64 standard.executionCacheSeconds
    workGroupCacheSeconds :=
      natural "ATHENA_WORKGROUP_CACHE_SECONDS" u64 standard.workGroupCacheSeconds
    endpoint := env.profiled? profile "ATHENA_ENDPOINT_URL"
    credentialsProfile := env.profiled? profile "ATHENA_AWS_PROFILE"
    role := env.profiled? profile "ATHENA_ASSUME_ROLE_ARN" }

/-- The region that a request means: the one it names, without blanks around it, or the default
    one if it names none or `default`. -/
def resolveRegion (s : AthenaSettings) (region : String) : String :=
  let name := Text.trim region
  if name = "" ∨ name = "default" then s.region else name

/-- One line; the role is a secret, so only whether there is one is told. -/
def summary (s : AthenaSettings) : SummaryLine :=
  { message := "Athena config"
    fields :=
      [("default_region", s.region),
       ("default_workgroup", s.workGroup),
       ("output_location",
        Text.quoted (if s.outputLocation.isEmpty then "(workgroup)" else s.outputLocation)),
       ("max_rows", String.ofList (Number.signedDecimal s.maxRows)),
       ("wait_attempts", String.ofList (Number.decimal s.waitAttempts)),
       ("endpoint", Text.quoted (s.endpoint.getD "(aws)")),
       ("aws_profile", Text.quoted (s.credentialsProfile.getD "(default chain)")),
       ("assume_role", if s.role.isSome then "true" else "false")] }

def toJson (s : AthenaSettings) : Json :=
  .object
    [("default_region", .string s.region),
     ("default_workgroup", .string s.workGroup),
     ("output_location", .string s.outputLocation),
     ("max_rows", .int s.maxRows),
     ("wait_attempts", .nat s.waitAttempts),
     ("wait_interval_ms", .nat s.waitIntervalMillis),
     ("cache_capacity", .nat s.cacheCapacity),
     ("execution_cache_secs", .nat s.executionCacheSeconds),
     ("workgroup_cache_secs", .nat s.workGroupCacheSeconds),
     ("endpoint_url", Json.ofOption .string s.endpoint),
     ("aws_profile", Json.ofOption .string s.credentialsProfile),
     ("assume_role_arn", Json.ofOption .string s.role)]

end AthenaSettings
end PanelSource
