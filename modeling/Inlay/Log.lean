import Inlay.Json.Printer
import Inlay.Paint

/-!
# Logging

Messages that the parts of a run write to the error stream beside what it reports. The environment
says from which level on they are written and whether they carry the time, the part they come from
and the data that belongs to them.
-/

namespace Inlay

inductive LogLevel
  | error
  | warn
  | info
  | http
  | verbose
  | debug
  | silly
  deriving DecidableEq, Repr

namespace LogLevel

def text : LogLevel → Text
  | error => Inlay.text "error"
  | warn => Inlay.text "warn"
  | info => Inlay.text "info"
  | http => Inlay.text "http"
  | verbose => Inlay.text "verbose"
  | debug => Inlay.text "debug"
  | silly => Inlay.text "silly"

def all : List LogLevel := [error, warn, info, http, verbose, debug, silly]

def ofText? (t : Text) : Option LogLevel := all.find? (·.text = t)

def rank (l : LogLevel) : Nat := all.idxOf l

def paint : LogLevel → Paint
  | error => .red
  | warn => .yellow
  | info => .green
  | http => .green
  | verbose => .cyan
  | debug => .blue
  | silly => .magenta

end LogLevel

structure LogEnvironment where
  level : Option Text
  testLevel : Option Text
  test : Bool
  debug : Bool
  deriving DecidableEq, Repr

structure LogMessage where
  level : Text
  content : Text
  data : Option Json.Members

structure Logger where
  service : Text
  /-- The name of the last level that is written; under a name of no level nothing is. -/
  level : Text
  silent : Bool
  detailed : Bool
  deriving DecidableEq, Repr

namespace Logger

def given (t : Option Text) : Option Text := t.filter (!·.isEmpty)

/-- A test writes nothing unless it asks for a level of its own. -/
def ofEnvironment (service : Text) (e : LogEnvironment) : Logger where
  service := service
  level :=
    (given e.level).getD <|
      if e.test then (given e.testLevel).getD LogLevel.error.text
      else if e.debug then LogLevel.debug.text
      else LogLevel.warn.text
  silent := e.test && (given e.testLevel).isNone
  detailed := e.debug

def hasPlace : Text → Bool
  | percent :: letter :: rest =>
    (percent = CodeUnit.ofChar '%' && (text "scdjifoO%").contains letter) ||
      hasPlace (letter :: rest)
  | _ => false

def data (m : LogMessage) : Json.Members :=
  if hasPlace m.content then [] else m.data.getD []

def isMeaningful : Json → Bool
  | .null => false
  | .bool b => b
  | .number n => n ≠ .ofNat 0
  | .string t => !t.isEmpty
  | _ => true

/-- The member of data that is no part of them: what they fall back on. -/
def ground : Text := text "__proto__"

def isException (m : LogMessage) : Bool :=
  let key := text "exception"
  let fallback := ((data m).lookup ground).bind (Json.get? key)
  match ((data m).lookup key).or fallback with
  | some (.bool b) => b
  | _ => false

def admits (l : Logger) (level : LogLevel) : Bool :=
  !l.silent && (LogLevel.ofText? l.level).any (level.rank ≤ LogLevel.rank ·)

def content (m : LogMessage) : Text :=
  match (Json.Members.get? (text "message") (data m)).filter isMeaningful with
  | some more => m.content ++ text " " ++ more.shown
  | none => m.content

def origin? (l : Logger) (m : LogMessage) : Option Text :=
  match Json.Members.get? (text "service") (data m) with
  | some service => if isMeaningful service then some service.shown else none
  | none => given (some l.service)

def shownData (m : LogMessage) : Json.Members :=
  let elsewhere := [text "level", text "message", text "timestamp", text "service", ground]
  (data m).filter fun member => !elsewhere.contains member.1

def line (l : Logger) (time : Text) (level : LogLevel) (m : LogMessage) : Text :=
  let name := level.paint.cover level.text
  let content := level.paint.cover (content m)
  if l.detailed then
    let origin := ((origin? l m).map fun part => text " [" ++ part ++ text "]").getD []
    let shown := shownData m
    time ++ text " [" ++ name ++ text "]" ++ origin ++ text " " ++ content ++
      if shown.isEmpty then [] else CodeUnit.lineFeed :: Json.pretty (.object shown)
  else name ++ text ": " ++ content

/-- Names that are known wherever names are looked up, without being levels. -/
def reserved : List Text :=
  ["constructor", "hasOwnProperty", "isPrototypeOf", "propertyIsEnumerable", "toLocaleString",
    "toString", "valueOf", "__defineGetter__", "__defineSetter__", "__lookupGetter__",
    "__lookupSetter__", "__proto__"].map text

def complaint (level : Text) : Text :=
  text "[winston] Unknown logger level: " ++ level ++ [CodeUnit.lineFeed]

def write (l : Logger) (time : Text) (m : LogMessage) : Option Text :=
  match LogLevel.ofText? m.level with
  | none => if reserved.contains m.level then none else some (complaint m.level)
  | some level =>
    if l.admits level && !isException m then
      some (l.line time level m ++ [CodeUnit.lineFeed])
    else none

end Logger

end Inlay
