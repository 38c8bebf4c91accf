import Inlay.Arguments

/-!
# Run settings

The command line over the configuration files.
-/

namespace Inlay

structure RunSettings where
  mode : OutputMode
  strict : Bool
  exclude : List Text
  lineLength : Nat
  statementLength : Nat
  timeout : Number
  concurrency : Nat
  indentation : Indentation
  engine : EngineChoice
  deriving DecidableEq

def Options.mode (o : Options) : OutputMode :=
  if o.check then .check else if o.write then .write else .stdout

/-- Settings of a run. An option of the command line counts before the configuration; the
executable and arguments configured for one engine do not carry over to another. -/
def RunSettings.ofOptions (o : Options) (c : ResolvedConfig) : RunSettings :=
  let sameEngine := o.engine.all (· = c.engine.name)
  { mode := o.mode
    strict := o.strict.getD c.strict
    exclude := c.exclude
    lineLength := o.lineLength.getD c.lineLength
    statementLength := o.statementLength.getD c.statementLength
    timeout := o.timeout.getD c.timeout
    concurrency := o.concurrency.getD c.concurrency
    indentation :=
      ⟨o.indentPolicy.getD c.indentation.policy, o.tabWidth.getD c.indentation.tabWidth⟩
    engine :=
      { name := o.engine.getD c.engine.name
        command := o.engineCommand <|> if sameEngine then c.engine.command else none
        args := if sameEngine then c.engine.args else [] } }

end Inlay
