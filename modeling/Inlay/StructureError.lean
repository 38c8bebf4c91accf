import Inlay.Indent

/-!
# Structure errors

Why the embedded regions of a document cannot be told apart from the text around them. An error
has a cause and a place, both numbers of which count from 1; `message` words the cause.
-/

namespace Inlay

inductive IntroducerFault
  | missingCode
  | missingName
  | missingStore
  | missingColon
  | unexpected (found : Text)
  | trailing (found : Text)
  | missingBlock
  deriving DecidableEq, Repr

def IntroducerFault.message : IntroducerFault → Text
  | missingCode => text "Expected Python code after \"$\""
  | missingName => text "Expected a name after \".\" in python block header"
  | missingStore => text "Expected a store name after \"in\" in python block header"
  | missingColon => text "Expected \":\" at the end of python block header"
  | unexpected found => text "Unexpected \"" ++ found ++ text "\" in python block header"
  | trailing found => text "Unexpected \"" ++ found ++ text "\" after \":\" in python block header"
  | missingBlock => text "Expected an indented block after python block header"

inductive IndentationFault
  | openDedent
  | offMargin (indent margin : Text)
  deriving DecidableEq, Repr

def IndentationFault.message : IndentationFault → Text
  | openDedent =>
    text "Python block dedents while a string, bracket or line continuation is still open"
  | offMargin indent margin =>
    text "Indentation " ++ Indent.describe indent ++ text " does not extend the block margin " ++
      Indent.describe margin

inductive StructureCause
  | introducer (fault : IntroducerFault)
  | indentation (fault : IndentationFault)
  deriving DecidableEq, Repr

structure StructureError where
  cause : StructureCause
  line : Nat
  column : Nat
  deriving DecidableEq, Repr

def StructureError.message (e : StructureError) : Text :=
  match e.cause with
  | .introducer fault => fault.message
  | .indentation fault => fault.message

end Inlay
