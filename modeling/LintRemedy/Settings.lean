import LintRemedy.Number.Numeral

/-!
This module contains the settings of the program and their reading from environment variables.
-/

namespace LintRemedy

structure Settings where
  provider : String := "claude-code"
  /-- The model, empty for the default one of the provider. -/
  model : String := ""
  oracleTimeLimit : Binary64 := .ofInt 60
  analyzerTimeLimit : Binary64 := .ofInt 300
  analyzerCommand : String := "npx eslint"
  /-- The number of skips after which a rule is no longer tried in a file. -/
  skipBudget : Int := 2
  /-- The number of lines that the oracle is shown on each side of a finding. -/
  contextWindow : Int := 10
  geminiKey : Option String := none
  groqKey : Option String := none
  openRouterKey : Option String := none
  /-- The number of finished runs that the service keeps. -/
  keptRuns : Int := 50
  logDirectory : String := "logs"
  logsToFile : Bool := false
  host : String := "127.0.0.1"
  tcpPort : Int := 8000
deriving DecidableEq, Repr

namespace Settings

def standard : Settings := {}

abbrev Variables := List (String × String)

def value? (env : Variables) (name : String) : Option String :=
  (env.find? (·.1 = name)).map (·.2)

def text (env : Variables) (name default : String) : String :=
  (value? env name).getD default

def number {α : Type} (read : String → Except NumeralFault α) (env : Variables)
    (name : String) (default : α) : Except NumeralFault α :=
  match value? env name with
  | none => .ok default
  | some s => read s

/-- The settings that the variables give. The first number that cannot be read is the fault. -/
def ofVariables (env : Variables) : Except NumeralFault Settings := do
  let binary := number Numeral.toBinary64 env
  let whole := number Numeral.toInt env
  let oracleTimeLimit ← binary "ORACLE_TIMEOUT_SECONDS" standard.oracleTimeLimit
  let analyzerTimeLimit ← binary "ANALYZER_TIMEOUT_SECONDS" standard.analyzerTimeLimit
  let skipBudget ← whole "MAX_SKIP_ATTEMPTS" standard.skipBudget
  let contextWindow ← whole "CONTEXT_WINDOW_LINES" standard.contextWindow
  let keptRuns ← whole "MAX_FINISHED_RUNS" standard.keptRuns
  let tcpPort ← whole "API_PORT" standard.tcpPort
  return {
    oracleTimeLimit, analyzerTimeLimit, skipBudget, contextWindow, keptRuns, tcpPort
    provider := text env "LINTPILOT_PROVIDER" standard.provider
    model := text env "LINTPILOT_MODEL" standard.model
    analyzerCommand := text env "ESLINT_COMMAND" standard.analyzerCommand
    geminiKey := value? env "GEMINI_API_KEY"
    groqKey := value? env "GROQ_API_KEY"
    openRouterKey := value? env "OPENROUTER_API_KEY"
    logDirectory := text env "LOG_DIR" standard.logDirectory
    logsToFile := Text.lowered (text env "LOG_TO_FILE" "false") = "true"
    host := text env "API_HOST" standard.host }

def variableNames : List String :=
  ["LINTPILOT_PROVIDER", "LINTPILOT_MODEL", "ORACLE_TIMEOUT_SECONDS", "ANALYZER_TIMEOUT_SECONDS",
    "ESLINT_COMMAND", "MAX_SKIP_ATTEMPTS", "CONTEXT_WINDOW_LINES", "GEMINI_API_KEY",
    "GROQ_API_KEY", "OPENROUTER_API_KEY", "MAX_FINISHED_RUNS", "LOG_DIR", "LOG_TO_FILE",
    "API_HOST", "API_PORT"]

/-- The keys of the hosted services by provider. -/
def keys (settings : Settings) : List (String × String) :=
  [("gemini", settings.geminiKey.getD ""), ("groq", settings.groqKey.getD ""),
    ("openrouter", settings.openRouterKey.getD "")]

end Settings
end LintRemedy
