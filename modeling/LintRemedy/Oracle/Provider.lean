import LintRemedy.Fault

/-!
This module contains the providers of oracles: how each is reached, and the models it offers.
-/

namespace LintRemedy

inductive Transport where
  /-- An agent program that takes the schema of a payload beside the prompt. -/
  | schemaAgent
  /-- An agent program that takes a prompt only. -/
  | plainAgent
  /-- A hosted service that generates content. -/
  | contentService
  /-- A hosted service that completes chats. -/
  | chatService
deriving DecidableEq, Repr

structure Provider where
  name : String
  transport : Transport
  defaultModel : String
  models : List (String × String)
  /-- The address of a hosted service. -/
  baseUrl : String := ""
  program : String := ""
deriving DecidableEq, Repr

namespace Provider

def all : List Provider :=
  [{ name := "claude-code"
     transport := .schemaAgent
     program := "claude"
     defaultModel := "haiku"
     models := [("haiku", "Claude Haiku (default, fast)"), ("sonnet", "Claude Sonnet (balanced)"),
       ("opus", "Claude Opus (powerful)")] },
   { name := "cursor-cli"
     transport := .plainAgent
     program := "cursor"
     defaultModel := "claude-4.5-sonnet"
     models := [("claude-4.5-sonnet", "Claude 4.5 Sonnet (default)"),
       ("claude-4-opus", "Claude 4 Opus"), ("gpt-4.1", "GPT-4.1"), ("gpt-4o", "GPT-4o"),
       ("o3", "OpenAI o3"), ("o4-mini", "OpenAI o4-mini"), ("gemini-2.5-pro", "Gemini 2.5 Pro"),
       ("gemini-2.5-flash", "Gemini 2.5 Flash")] },
   { name := "gemini"
     transport := .contentService
     baseUrl := "https://generativelanguage.googleapis.com/v1beta"
     defaultModel := "gemini-2.0-flash"
     models := [("gemini-2.0-flash", "Gemini 2.0 Flash (default)"),
       ("gemini-2.5-flash", "Gemini 2.5 Flash"), ("gemini-2.5-pro", "Gemini 2.5 Pro")] },
   { name := "groq"
     transport := .chatService
     baseUrl := "https://api.groq.com/openai/v1"
     defaultModel := "llama-3.3-70b-versatile"
     models := [("llama-3.3-70b-versatile", "Llama 3.3 70B (default)"),
       ("llama-3.1-8b-instant", "Llama 3.1 8B Instant")] },
   { name := "openrouter"
     transport := .chatService
     baseUrl := "https://openrouter.ai/api/v1"
     defaultModel := "stepfun/step-3.5-flash:free"
     models := [("stepfun/step-3.5-flash:free", "StepFun 3.5 Flash (default, free)")] }]

def names : List String :=
  all.map (·.name)

def find? (name : String) : Option Provider :=
  all.find? (·.name = name)

def ofName (name : String) : Except Fault Provider :=
  match find? name with
  | some provider => .ok provider
  | none => .error (.unknownProvider name names)

def isAgent (provider : Provider) : Bool :=
  provider.transport = .schemaAgent ∨ provider.transport = .plainAgent

def model (provider : Provider) (asked : Option String) : String :=
  match asked with
  | some name => if name = "" then provider.defaultModel else name
  | none => provider.defaultModel

/-- The model that is asked for, or the default one of the provider of a name. -/
def modelOf (name : String) (asked : Option String) : Except Fault String :=
  match asked.filter (· ≠ "") with
  | some model => .ok model
  | none => (·.defaultModel) <$> ofName name

end Provider
end LintRemedy
