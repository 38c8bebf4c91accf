import Inlay.Config
import Inlay.Json.Parser

/-!
# Configuration files

A user may have a configuration file and a project may have one; the project's lies over the user's.
A file that is there but cannot be read, or is no configuration, counts as empty, and the log says
so. What was read once is kept for as long as its loader is.
-/

namespace Inlay

/-- A place for a configuration, and what a file there has in it, if there is one, or why it cannot
be read. -/
structure ConfigFile where
  path : Text
  content : Option (Except Text Text)

namespace ConfigFile

def config? (f : ConfigFile) : Option Config :=
  match f.content with
  | none => some .empty
  | some content => do
    let value ← Json.parse? (← content.toOption)
    (Config.ofJson value).toOption

def config (f : ConfigFile) : Config := f.config?.getD .empty

def warning? (f : ConfigFile) : Option Text :=
  if f.config?.isNone then some (text "Failed to load config from " ++ f.path) else none

end ConfigFile

structure ConfigFiles where
  user : ConfigFile
  project : ConfigFile

namespace ConfigFiles

def userName : Text := text ".config/rpyfmt.json"

def projectName : Text := text "rpyfmt.config.json"

def merged (files : ConfigFiles) : Config := Config.merge files.user.config files.project.config

def warnings (files : ConfigFiles) : List Text :=
  files.user.warning?.toList ++ files.project.warning?.toList

end ConfigFiles

/-- Reads the files when it is first asked. -/
structure ConfigLoader where
  kept : Option Config
  deriving DecidableEq

namespace ConfigLoader

def fresh : ConfigLoader := ⟨none⟩

def load (l : ConfigLoader) (files : ConfigFiles) : Config × ConfigLoader :=
  let config := l.kept.getD files.merged
  (config, ⟨some config⟩)

end ConfigLoader

end Inlay
