import CodeSurvey.Analysis.Catalogue
import CodeSurvey.Run.Survey

namespace CodeSurvey

structure Disk where
  tree : FileTree
  folder : Place := []
  deriving Repr

namespace Disk

def folderPath (d : Disk) : String := "/" ++ Path.join d.folder

def place (d : Disk) (path : String) : Place :=
  Path.located d.folderPath path

def fullPath (d : Disk) (path : String) : String :=
  Path.absolute d.folderPath path

def surroundings (d : Disk) (separator : String) : Surroundings SourceTree :=
  { describe := fun path => ProjectFiles.metaAt d.tree true (d.place path)
    gather := fun path scope => ProjectFiles.gatherOne d.tree scope (d.place path)
    readerFor := Dialect.readerFor
    admits := fun reference target =>
      Gate.check Range.acceptsText d.tree (d.place reference) (d.place target)
    folder := d.folderPath
    separator }

end Disk

end CodeSurvey
