/-!
This module contains the prompts that are sent to the oracle.
-/

namespace LintRemedy
namespace Prompt

/-- The standing instructions for a hosted service. An agent program has its own. -/
def system : String :=
  "You are an ESLint remediation assistant working on one rule at a time.\n"
    ++ "\n"
    ++ "HARD RULES:\n"
    ++ "1. Change only the code needed to resolve the reported rule violation.\n"
    ++ "2. Preserve indentation, comments and surrounding code exactly.\n"
    ++ "3. Never rename, refactor or reorganise unrelated code.\n"
    ++ "\n"
    ++ "RESPONSE FORMAT: respond with ONLY one JSON object matching the requested "
    ++ "fields. No prose, no markdown code fences."

def explain (rule source messages : String) : String :=
  "Rule ID: " ++ rule ++ "\n\nSample code:\n"
    ++ (if source = "" then "(no source available)" else source)
    ++ "\n\nESLint messages:\n" ++ messages
    ++ "\n\nExplain what this rule detects, why it matters, and how to fix it. "
    ++ "Rate the priority as low, medium or high."

def fix (rule file : String) (line : Int) (message context : String) : String :=
  "Fix this ESLint rule violation.\n\nRule: " ++ rule ++ "\nFile: " ++ file ++ "\nMessage: "
    ++ message ++ "\nReported line: " ++ toString line
    ++ "\n\nCode context (each line is prefixed with its line number and a tab):\n" ++ context
    ++ "\n\n## Instructions\n"
    ++ "1. Identify the exact range of lines that must change.\n"
    ++ "2. start_line and end_line are the inclusive range to replace.\n"
    ++ "3. fixed_code replaces that whole range; keep the original indentation "
    ++ "and do NOT include line-number prefixes."

/-- Asks for a config in which a rule is disabled. -/
def disable (rule config : String) : String :=
  "Disable an ESLint rule in this flat config file.\n\nRule to disable: " ++ rule
    ++ "\n\nCurrent config file:\n" ++ config
    ++ "\n\nFollow the existing rules structure and add '" ++ rule ++ "': 'off' in the "
    ++ "appropriate place. modified_config must be the COMPLETE new file; "
    ++ "diff_description summarises the change in one line."

def question (question context : String) : String :=
  context ++ "\n\nUser question: " ++ question
    ++ "\n\nAnswer concisely. Include code_suggestion only if code helps."

end Prompt
end LintRemedy
