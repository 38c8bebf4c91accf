import Inlay.Files.Disk
import Inlay.Files.Glob

/-!
# Searching a disk

Which files below a directory a glob matches, told from their names alone. A program that collects
files may search by other means.
-/

namespace Inlay

def Disk.search (d : Disk) (glob directory : Text) (ignored : List Text) : List Text :=
  let wanted := (Glob.ofText? directory glob).toList
  let excluded := ignored.filterMap (Glob.ofText? directory)
  if Glob.blocks excluded then []
  else
    let depth := (Path.names directory).length
    d.files.filterMap fun (path, _) =>
      if Disk.below directory path then
        let names := (Path.names path).drop depth
        if wanted.any (·.accepts names) && !Glob.covers excluded names then some path else none
      else none

end Inlay
