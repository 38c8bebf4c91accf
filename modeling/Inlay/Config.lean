import Inlay.Engine.Command
import Inlay.Indent
import Inlay.Quantity

/-!
# Configuration

A configuration says for some settings what they are to be. `Config.ofJson` reads one from a JSON
value and names the first key that does not hold what it should; keys it does not know are passed
over. `Config.merge` lays one over another, and `Config.resolve` fills in what is still open.
-/

namespace Inlay

def IndentPolicy.text : IndentPolicy → Text
  | reject => Inlay.text "reject"
  | expandTabs => Inlay.text "expand-tabs"

def IndentPolicy.all : List IndentPolicy := [reject, expandTabs]

def IndentPolicy.ofText? (t : Text) : Option IndentPolicy := all.find? (·.text = t)

structure IndentationConfig where
  policy : Option IndentPolicy
  tabWidth : Option Nat
  deriving DecidableEq, Repr

structure Config where
  lineLength : Option Nat
  statementLength : Option Nat
  concurrency : Option Nat
  timeout : Option Duration
  strict : Option Bool
  exclude : Option (List Text)
  engine : Option EngineConfig
  indentation : Option IndentationConfig
  deriving DecidableEq

inductive ConfigKey
  | lineLength
  | statementLength
  | concurrency
  | timeout
  | strict
  | exclude
  | engine
  | engineName
  | engineCommand
  | engineArgs
  | indentation
  | indentationPolicy
  | tabWidth
  deriving DecidableEq, Repr

namespace ConfigKey

def name : ConfigKey → String
  | lineLength => "lineLength"
  | statementLength => "inlineLineLength"
  | concurrency => "concurrency"
  | timeout => "timeout"
  | strict => "strict"
  | exclude => "exclude"
  | engine => "engine"
  | engineName => "name"
  | engineCommand => "command"
  | engineArgs => "args"
  | indentation => "indentation"
  | indentationPolicy => "policy"
  | tabWidth => "tabWidth"

def text (key : ConfigKey) : Text := Inlay.text key.name

def path : ConfigKey → Text
  | engineName => Inlay.text "engine.name"
  | engineCommand => Inlay.text "engine.command"
  | engineArgs => Inlay.text "engine.args"
  | indentationPolicy => Inlay.text "indentation.policy"
  | tabWidth => Inlay.text "indentation.tabWidth"
  | key => key.text

def expected : ConfigKey → Text
  | lineLength | statementLength | concurrency | tabWidth => Inlay.text "a positive integer"
  | timeout => Inlay.text "a duration such as \"10s\" or a number of milliseconds"
  | strict => Inlay.text "a boolean"
  | exclude => Inlay.text "an array of glob strings"
  | engine | indentation => Inlay.text "an object"
  | engineName => Inlay.text "\"black\" or \"ruff\""
  | engineCommand => Inlay.text "a string"
  | engineArgs => Inlay.text "an array of strings"
  | indentationPolicy => Inlay.text "\"reject\" or \"expand-tabs\""

end ConfigKey

inductive ConfigError
  | notObject
  | badKey (key : ConfigKey)
  | badDuration (error : DurationError)
  deriving DecidableEq, Repr

def ConfigError.message (source : Text) : ConfigError → Text
  | notObject => source ++ text ": configuration must be a JSON object"
  | badKey key => source ++ text ": \"" ++ key.path ++ text "\" must be " ++ key.expected
  | badDuration e => e.message

namespace Config

def empty : Config := ⟨none, none, none, none, none, none, none, none⟩

-- ---------------------------------------------------------------------------
-- Reading
-- ---------------------------------------------------------------------------

def readKey (read : Json → Option α) (members : Json.Members) (key : ConfigKey) :
    Except ConfigError (Option α) :=
  match Json.Members.get? key.text members with
  | none => .ok none
  | some value =>
    match read value with
    | some a => .ok (some a)
    | none => .error (.badKey key)

def readCount : Json → Option Nat
  | .number n => n.toPositive?
  | _ => none

def readBool : Json → Option Bool
  | .bool b => some b
  | _ => none

def readText : Json → Option Text
  | .string t => some t
  | _ => none

def readTexts : Json → Option (List Text)
  | .array items => items.mapM readText
  | _ => none

def readMembers : Json → Option Json.Members
  | .object members => some members
  | _ => none

def readDuration : Json → Option Duration
  | .number n => some (.millis n)
  | .string t => some (.written t)
  | _ => none

def checkDuration (timeout : Option Duration) : Except ConfigError Unit :=
  match timeout with
  | none => .ok ()
  | some d => (d.toMillis.mapError ConfigError.badDuration).map fun _ => ()

def readEngine (members : Json.Members) : Except ConfigError EngineConfig := do
  let name ← readKey (fun v => (readText v).bind EngineName.ofText?) members .engineName
  let command ← readKey readText members .engineCommand
  let args ← readKey readTexts members .engineArgs
  return ⟨name, command, args⟩

def readIndentation (members : Json.Members) : Except ConfigError IndentationConfig := do
  let policy ← readKey (fun v => (readText v).bind IndentPolicy.ofText?) members .indentationPolicy
  let tabWidth ← readKey readCount members .tabWidth
  return ⟨policy, tabWidth⟩

def ofMembers (members : Json.Members) : Except ConfigError Config := do
  let lineLength ← readKey readCount members .lineLength
  let statementLength ← readKey readCount members .statementLength
  let concurrency ← readKey readCount members .concurrency
  let timeout ← readKey readDuration members .timeout
  checkDuration timeout
  let strict ← readKey readBool members .strict
  let exclude ← readKey readTexts members .exclude
  let engine ← (← readKey readMembers members .engine).mapM readEngine
  let indentation ← (← readKey readMembers members .indentation).mapM readIndentation
  return { lineLength, statementLength, concurrency, timeout, strict, exclude, engine, indentation }

def ofJson (value : Json) : Except ConfigError Config :=
  match readMembers value with
  | some members => ofMembers members
  | none => .error .notObject

-- ---------------------------------------------------------------------------
-- Writing
-- ---------------------------------------------------------------------------

def member (key : ConfigKey) (write : α → Json) (value : Option α) : Json.Members :=
  (value.map fun a => (key.text, write a)).toList

def writeCount (n : Nat) : Json := .number (.ofNat n)

def writeTexts (ts : List Text) : Json := .array (ts.map .string)

def writeDuration : Duration → Json
  | .millis n => .number n
  | .written t => .string t

def writeEngine (e : EngineConfig) : Json :=
  .object (member .engineName (fun n => .string n.text) e.name ++
    member .engineCommand .string e.command ++ member .engineArgs writeTexts e.args)

def writeIndentation (i : IndentationConfig) : Json :=
  .object (member .indentationPolicy (fun p => .string p.text) i.policy ++
    member .tabWidth writeCount i.tabWidth)

def toJson (c : Config) : Json :=
  .object (member .lineLength writeCount c.lineLength ++
    member .statementLength writeCount c.statementLength ++
    member .concurrency writeCount c.concurrency ++ member .timeout writeDuration c.timeout ++
    member .strict .bool c.strict ++ member .exclude writeTexts c.exclude ++
    member .engine writeEngine c.engine ++ member .indentation writeIndentation c.indentation)

-- ---------------------------------------------------------------------------
-- Merging
-- ---------------------------------------------------------------------------

def mergeEngine (below above : EngineConfig) : EngineConfig :=
  ⟨above.name <|> below.name, above.command <|> below.command, above.args <|> below.args⟩

def mergeIndentation (below above : IndentationConfig) : IndentationConfig :=
  ⟨above.policy <|> below.policy, above.tabWidth <|> below.tabWidth⟩

def both (combine : α → α → α) : Option α → Option α → Option α
  | some a, some b => some (combine a b)
  | a, b => a <|> b

/-- Lays a configuration over another. What the one above sets counts, key by key also within
`engine` and `indentation`; patterns to exclude are those of both. -/
def merge (below above : Config) : Config where
  lineLength := above.lineLength <|> below.lineLength
  statementLength := above.statementLength <|> below.statementLength
  concurrency := above.concurrency <|> below.concurrency
  timeout := above.timeout <|> below.timeout
  strict := above.strict <|> below.strict
  exclude := both (· ++ ·) below.exclude above.exclude
  engine := both mergeEngine below.engine above.engine
  indentation := both mergeIndentation below.indentation above.indentation

end Config

-- ---------------------------------------------------------------------------
-- Resolved settings
-- ---------------------------------------------------------------------------

/-- An engine with every choice made but the executable, which the engine's own may be. -/
structure EngineChoice where
  name : EngineName
  command : Option Text
  args : List Text
  deriving DecidableEq, Repr

def EngineChoice.toConfig (e : EngineChoice) : EngineConfig := ⟨some e.name, e.command, some e.args⟩

structure ResolvedConfig where
  lineLength : Nat
  statementLength : Nat
  timeout : Number
  concurrency : Nat
  strict : Bool
  engine : EngineChoice
  indentation : Indentation
  exclude : List Text
  deriving DecidableEq

def ResolvedConfig.default : ResolvedConfig where
  lineLength := 88
  statementLength := 1000
  timeout := .ofNat 10000
  concurrency := defaultConcurrency
  strict := false
  engine := ⟨.black, none, []⟩
  indentation := ⟨.reject, 8⟩
  exclude := []

/-- Fills in what a configuration leaves open. A value in the environment decides the concurrency,
whatever it is. -/
def Config.resolve (environment : Option Text) (c : Config) :
    Except DurationError ResolvedConfig := do
  let base := ResolvedConfig.default
  let timeout ←
    match c.timeout with
    | some d => d.toMillis
    | none => .ok base.timeout
  let engine := c.engine.getD .empty
  let indentation := c.indentation.getD ⟨none, none⟩
  return {
    lineLength := c.lineLength.getD base.lineLength
    statementLength := c.statementLength.getD base.statementLength
    timeout
    concurrency :=
      if environment.isSome then concurrencyOfEnvironment environment
      else c.concurrency.getD base.concurrency
    strict := c.strict.getD base.strict
    engine := ⟨engine.name.getD base.engine.name, engine.command, engine.args.getD []⟩
    indentation := ⟨indentation.policy.getD base.indentation.policy,
      indentation.tabWidth.getD base.indentation.tabWidth⟩
    exclude := c.exclude.getD [] }

end Inlay
