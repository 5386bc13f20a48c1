import RuleFixtures.Address.Parts
import RuleFixtures.Config.Selection

/-!
What a run needs to know.

* `RunConfig.validate` accepts an absolute address with the scheme of the web and a host, and
  gives the configuration back unchanged.
-/

namespace RuleFixtures

/-- The configuration of a run. -/
structure RunConfig where
  url : String
  tokenFile : Option String := none
  caFile : Option String := none
  insecure : Bool := false
  /-- The time after which a request is given up, in seconds. -/
  timeout : Binary64 := .ofInt 30
  recordingRules : RuleSelection := .everything
  alertingRules : RuleSelection := .everything
  ruleFiles : List String := []
  deriving DecidableEq

namespace RunConfig

/-- The schemes that are accepted. -/
def allowedSchemes : List String := ["http", "https"]

/-- Checks the address before any request is sent. -/
def validate (config : RunConfig) : Except Fault RunConfig := do
  if config.url = "" then throw (.failure .missingUrl)
  let parts ← (AddressParts.read config.url).mapError .address
  if !allowedSchemes.contains parts.scheme then
    throw (.failure (.refusedScheme parts.scheme config.url))
  if parts.authority = "" then throw (.failure (.missingHost config.url))
  return config

end RunConfig

end RuleFixtures
