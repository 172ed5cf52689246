import EnergyAudit.Text.Basic

/-!
# The template of configurations

## Main definitions

* `configurationTemplate` — the text of a configuration to start from.
-/

namespace EnergyAudit

open EnergyAudit.Text

/-- The text of a configuration to start from, with a remark on each of its parts. -/
def configurationTemplate : String :=
  ofLines [
    "# ecocode configuration",
    "#",
    "# Searched for as ./ecocode.yaml, ./.ecocode.yaml, then in the user config",
    "# directory. Every key is optional.",
    "",
    "version: \"1\"",
    "",
    "analysis:",
    "  # Sources larger than this are rejected before parsing.",
    "  max_source_bytes: 524288",
    "  # Price per kWh used for the cost estimates.",
    "  electricity_rate_per_kwh: 8.0",
    "",
    "suggestion:",
    "  # Per-provider timeout. A provider that times out hands over to the next.",
    "  timeout_ms: 20000",
    "  provider_order: [primary, secondary]",
    "",
    "  providers:",
    "    primary:",
    "      name: openai",
    "      endpoint: \"https://api.openai.com/v1/chat/completions\"",
    "      model: gpt-4o-mini",
    "      api_key_env: OPENAI_API_KEY",
    "      temperature: 0.2",
    "",
    "    secondary:",
    "      name: local",
    "      endpoint: \"http://localhost:11434/v1/chat/completions\"",
    "      model: llama3",
    "      # Shared by all concurrent requests in this process.",
    "      max_requests_per_minute: 30"]

end EnergyAudit
