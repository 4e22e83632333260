import Renaming.Model.Kind
import Renaming.Text.Window

/-!
# Prompts

The texts sent to the language model. Code is cut to its first `excerptLimit` characters.
-/

namespace Renaming.Prompt

def excerptLimit : Nat := 3000

def guidelines : String :=
  "Guidelines:\n" ++
  "1. Follow C# naming conventions\n" ++
  "2. Be descriptive but concise\n" ++
  "3. Consider the entity's purpose\n" ++
  "4. Use PascalCase for classes, methods, properties\n" ++
  "5. Use camelCase for parameters and local variables"

/-- The paragraph for what else is known, none if that is blank. -/
def contextPart (context : String) : String :=
  let context := Text.trim context
  if context.isEmpty then "" else "\n\nAdditional context: " ++ context

/-- Asks for a better name for one element. -/
def rename (excerpt name : String) (kind : Kind) (context : String) : String :=
  "You are a C# code refactoring assistant. Suggest a better name for this " ++ kind.tag ++
  ".\n\nCurrent name: " ++ name ++
  "\n\nCode context:\n```csharp\n" ++ Text.truncate excerpt excerptLimit ++ "\n```" ++
  contextPart context ++
  "\n\n" ++ guidelines ++
  "\n\nRespond ONLY with the new name, nothing else.\n\nNew name:"

/-- The shape of the answer to an analysis, as the language model is told it. -/
def answerShape : String :=
  "\x7b\n" ++
  "  \"analysis\": \"brief analysis text\",\n" ++
  "  \"suggestions\": [\n" ++
  "    \x7b\n" ++
  "      \"oldName\": \"string\",\n" ++
  "      \"newName\": \"string\",\n" ++
  "      \"entityType\": \"class|method|property|field|parameter|variable\",\n" ++
  "      \"reason\": \"string\",\n" ++
  "      \"confidence\": 0.0\n" ++
  "    \x7d\n" ++
  "  ],\n" ++
  "  \"overallScore\": 0.0,\n" ++
  "  \"keyIssues\": [\"string\"]\n" ++
  "\x7d"

/-- Asks for a review of all names in a module. -/
def analysis (source : String) : String :=
  "Analyze this C# code and suggest improvements for naming and structure.\n\nCode:\n```csharp\n" ++
  Text.truncate source excerptLimit ++
  "\n```\n\nProvide response as JSON with this structure:\n" ++ answerShape ++
  "\n\nOnly respond with valid JSON, no other text."

end Renaming.Prompt
