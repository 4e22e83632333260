/-!
# Arguments

A command line is read level by level: a command has options, operands and commands of its own, and
what follows the name of a command belongs to that command. An option is complete once something
else starts, so that a mistake in what comes next may be found first.
-/

namespace Renaming.Command

/-- What arguments ask for instead of a command, or why they are none. -/
inductive Usage where
  | help
  | version
  /-- There is nothing at all where a command is needed. -/
  | empty
  | missingCommand
  | unknownCommand
  | unknownArgument
  | missingArgument
  /-- An option has no value, or a path no text. -/
  | missingValue
  | invalidValue (why : String)
  /-- An option is given twice. -/
  | repeated
  /-- A value is given to an option that takes none. -/
  | surplusValue
deriving DecidableEq, Repr, Inhabited

/-- Help and the version are what was asked for; all else is a mistake. -/
def Usage.exitCode : Usage → Nat
  | help | version => 0
  | _ => 2

/-! ## Grammars -/

inductive Effect where
  /-- Takes a value, unless there is something wrong with it. -/
  | value (refusal? : String → Option Usage)
  | flag
  | help
  | version

/-- An option or an operand. -/
structure Rule where
  name : String
  letter : Option Char
  effect : Effect
  /-- The value from outside the command line. -/
  fallback : Option String

inductive Grammar where
  | level (options operands : List Rule) (commands : List (String × Grammar))

namespace Grammar

def options : Grammar → List Rule
  | level options _ _ => options

def operands : Grammar → List Rule
  | level _ operands _ => operands

def commands : Grammar → List (String × Grammar)
  | level _ _ commands => commands

def hasCommands (g : Grammar) : Bool := !g.commands.isEmpty

/-- Where there are commands there is one that explains them. -/
def isHelp (g : Grammar) (word : String) : Bool := g.hasCommands && word == "help"

/-- The answer to a request for help about a command. -/
def topic (g : Grammar) : List String → Usage
  | [] => .help
  | word :: words =>
    if g.isHelp word then if words.isEmpty then .help else .unknownCommand
    else match g.commands.lookup word with
      | some g => topic g words
      | none => .unknownCommand

end Grammar

/-! ## Levels -/

/-- What was read at one level. -/
structure Level where
  given : List (String × String)
  /-- The last option or operand, not checked yet, and its value if that was read. -/
  pending : Option (Rule × Option String)
  /-- How many operands were read. -/
  operands : Nat
  /-- Only operands follow. -/
  escaped : Bool

namespace Level

def empty : Level := ⟨[], none, 0, false⟩

/-- The next word is the value of an option. -/
def isAwaiting (l : Level) : Bool := l.pending.any fun (_, value) => value.isNone

def record (l : Level) (rule : Rule) (value : String) : Except Usage Level :=
  if l.given.any (·.1 == rule.name) then .error .repeated
  else match rule.effect with
    | .help => .error .help
    | .version => .error .version
    | .flag => .ok { l with given := l.given ++ [(rule.name, value)] }
    | .value refusal? =>
      match refusal? value with
      | some e => .error e
      | none => .ok { l with given := l.given ++ [(rule.name, value)] }

/-- Checks what is pending. -/
def settle (l : Level) : Except Usage Level :=
  match l.pending with
  | none => .ok l
  | some (_, none) => .error .missingValue
  | some (rule, some value) => { l with pending := none }.record rule value

/-- Starts an option, with its value if that is attached. -/
def start (l : Level) (rule : Rule) (value : Option String) : Except Usage Level := do
  let l ← l.settle
  match rule.effect, value with
  | .value _, none => return { l with pending := some (rule, none) }
  | .value _, some value => l.record rule value
  | _, _ => l.record rule "true"

/-- An option by its name, which a value may follow after `=`. -/
def named (g : Grammar) (l : Level) (word : List Char) : Except Usage Level :=
  let name := word.takeWhile (· != '=')
  let value := match word.drop name.length with
    | [] => none
    | _ :: value => some (String.ofList value)
  match g.options.find? (·.name == String.ofList name) with
  | none => .error .unknownArgument
  | some rule =>
    match rule.effect, value with
    | .value _, _ | _, none => l.start rule value
    | _, some _ => .error .surplusValue

/-- Options by their letters. The first that takes a value takes the rest of the word. -/
def lettered (g : Grammar) (l : Level) : List Char → Except Usage Level
  | [] => .ok l
  | letter :: rest =>
    match g.options.find? (·.letter == some letter) with
    | none => .error .unknownArgument
    | some rule =>
      match rule.effect, rest with
      | .value _, [] => l.start rule none
      | .value _, '=' :: value => l.start rule (some (String.ofList value))
      | .value _, value => l.start rule (some (String.ofList value))
      | _, rest => do lettered g (← l.start rule none) rest

def operand (g : Grammar) (l : Level) (word : String) : Except Usage Level :=
  match g.operands[l.operands]? with
  | some rule => do
    let l ← l.settle
    return { l with pending := some (rule, some word), operands := l.operands + 1 }
  | none =>
    if g.hasCommands && !(l.escaped && (g.isHelp word || (g.commands.lookup word).isSome)) then
      .error .unknownCommand
    else .error .unknownArgument

/-- A word that is no command. -/
def read (g : Grammar) (l : Level) (word : String) : Except Usage Level :=
  if l.escaped then l.operand g word
  else match word.toList with
    | ['-', '-'] => .ok { l with escaped := true }
    | '-' :: '-' :: name => l.named g name
    | '-' :: c :: letters => l.lettered g (c :: letters)
    | _ =>
      match l.pending with
      | some (rule, none) => .ok { l with pending := some (rule, some word) }
      | _ => l.operand g word

/-- Checks the level once all words were read. A fallback counts as something given. -/
def finish (g : Grammar) (l : Level) (hasCommand : Bool) : Except Usage Level := do
  let l ← l.settle
  if !hasCommand && g.hasCommands then
    if l.given.isEmpty && g.options.all (·.fallback.isNone) then throw .empty
    else throw .missingCommand
  else if l.operands < g.operands.length then throw .missingArgument
  else return l

end Level

/-! ## Command lines -/

/-- The commands of a command line, and what was given at each level from the outermost on. -/
structure Matched where
  commands : List String
  levels : List (List (String × String))
deriving DecidableEq, Repr, Inhabited

namespace Matched

/-- What was given for an option. The innermost level counts. -/
def get? (m : Matched) (name : String) : Option String := m.levels.reverse.findSome? (·.lookup name)

end Matched

/-- Reads the rest of a level and the levels inside it. -/
def matchFrom (g : Grammar) (l : Level) : List String → Except Usage Matched
  | [] => do return ⟨[], [(← l.finish g false).given]⟩
  | word :: words =>
    if !l.escaped && !l.isAwaiting && g.isHelp word then .error (g.topic words)
    else match if l.escaped || l.isAwaiting then none else g.commands.lookup word with
      | some inner => do
        let m ← matchFrom inner .empty words
        return ⟨word :: m.commands, (← l.finish g true).given :: m.levels⟩
      | none => do matchFrom g (← l.read g word) words

def matchArguments (g : Grammar) (words : List String) : Except Usage Matched :=
  matchFrom g .empty words

end Renaming.Command
