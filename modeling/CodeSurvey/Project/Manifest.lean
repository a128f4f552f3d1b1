import CodeSurvey.FileTree
import CodeSurvey.Json.Reader
import CodeSurvey.Project.Meta

namespace CodeSurvey

abbrev Manifest := Fields

namespace Manifest

def fileName : String := "package.json"

def placeText (root : Place) : String :=
  "/" ++ Path.join (root ++ [fileName])

def placeReason (fault : PlaceFault) (place : String) : String :=
  match fault with
  | .isFolder => "[Errno 21] Is a directory: " ++ Text.quoted place
  | _ => "[Errno 20] Not a directory: " ++ Text.quoted place

def parse (place : String) (text : List Char) : Except Fault Manifest :=
  match Json.readChars text with
  | .ok (.obj fields) => .ok fields
  | .ok _ => .error (.manifest (.notObject place))
  | .error (.failed expected position) =>
      .error (.manifest (.unreadable place (Json.faultText text expected position)))
  | .error .numberTooLong => .error .invalid
  | .error .nestedTooDeep => .error .nestedTooDeep

def read (t : FileTree) (root : Place) : Except Fault Manifest :=
  let place := placeText root
  match t.octets (root ++ [fileName]) with
  | .error .missing => .error (.manifest (.notFound place))
  | .error fault => .error (.manifest (.unreadable place (placeReason fault place)))
  | .ok octets =>
      match Text.Utf8.decode octets with
      | .error fault => .error (.manifest (.unreadable place fault.text))
      | .ok cs => parse place (Text.unifyLines cs)

def describe (m : Manifest) (root : Place) (commit : Option String) : ProjectMeta :=
  { name := ((m.get? "name").getD (.str (root.getLastD ""))).display
    version := ((m.get? "version").getD (.str "0.0.0")).display
    path := some (.str ("/" ++ Path.join root))
    commit := commit.map .str }

end Manifest

end CodeSurvey
