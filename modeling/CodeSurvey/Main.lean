import CodeSurvey.Command.Execute
import Std.Time

namespace CodeSurvey.Main

def foldersOf : Command → List String
  | .init settings _ => [Path.parent settings]
  | .run r => r.targets ++ r.references ++ [Path.parent r.settings]
  | .forget _ _ settings => [Path.parent settings]

def outermost (folders : List Place) : List Place :=
  (folders.filter fun p => !folders.any fun q => q != p && FileTree.isAtOrBelow q p).eraseDups

partial def entriesAt (e : IO.FS.DirEntry) : IO (List (Place × Entry)) := do
  let place := Path.located "/" e.path.toString
  if ← e.path.isDir then
    let inner ← (← e.path.readDir).toList.mapM entriesAt
    return (place, .folder) :: inner.flatten
  else return [(place, .file (← IO.FS.readBinFile e.path).toList)]

def addFolder (t : FileTree) (folder : Place) : IO FileTree := do
  try
    let path ← IO.FS.realPath ("/" ++ Path.join folder)
    let entries ← (← path.readDir).toList.mapM entriesAt
    return { entries := ((t.makeFolders folder).toOption.getD t).entries ++ entries.flatten }
  catch _ => return t

def changes : List (Place × Entry) → List (Place × Entry) → List (Place × Entry)
  | old :: olds, new :: news => if old = new then changes olds news else new :: changes olds news
  | [], news => news
  | _, [] => []

def writeEntry (e : Place × Entry) : IO Unit := do
  let path := "/" ++ Path.join e.1
  match e.2 with
  | .folder => IO.FS.createDirAll path
  | .file octets => IO.FS.writeBinFile path (ByteArray.mk octets.toArray)

def environment : IO Environment := do
  let names := [Settings.cacheVariable, Settings.levelVariable, Settings.formatVariable]
  let values ← names.mapM fun name => do return (← IO.getEnv name).map (name, ·)
  return values.filterMap id

def clock : IO (LogFormat → String) := do
  let here ← Std.Time.PlainDateTime.now
  let now ← Std.Time.Timestamp.now
  let everywhere := Std.Time.DateTime.ofTimestamp now Std.Time.TimeZone.ZoneRules.UTC
  return fun
    | .text => here.format "uuuu-MM-dd HH:mm:ss,SSS"
    | .json => everywhere.format "uuuu-MM-dd'T'HH:mm:ss.SSSSSS" ++ "+00:00"

def carryOut (c : Command) : IO UInt32 := do
  let folder := Path.located "/" (← IO.currentDir).toString
  let named := (foldersOf c).map (Path.located ("/" ++ Path.join folder))
  let tree ← (outermost (folder :: named)).foldlM addFolder {}
  let o := Command.execute { environment := ← environment, time := ← clock } { tree, folder } c
  (changes tree.entries o.disk.tree.entries).forM writeEntry
  o.output.forM fun line => IO.println line
  o.messages.forM fun line => IO.eprintln line
  if let some f := o.fault then IO.eprintln (Command.note ("failed: " ++ reprStr f))
  return UInt32.ofNat o.exit

end CodeSurvey.Main

def main (arguments : List String) : IO UInt32 := do
  match CodeSurvey.Command.ofArguments arguments with
  | some c => CodeSurvey.Main.carryOut c
  | none => do
      IO.eprintln CodeSurvey.Command.usage
      return 2
