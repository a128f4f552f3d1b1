import CodeSurvey.Json.Printer
import CodeSurvey.Json.Reader
import CodeSurvey.Report.Basic
import CodeSurvey.Store.Table

namespace CodeSurvey

inductive Store where
  | values (entries : Table Json)
  | texts (rows : Table String)
  deriving Repr

namespace Store

def payloadOf (text : String) : Except Fault (Option Json) :=
  match Json.read text with
  | .ok (.obj fields) => .ok (some (.obj fields))
  | .ok _ => .ok none
  | .error (.failed _ _) => .ok none
  | .error .numberTooLong => .error .invalid
  | .error .nestedTooDeep => .error .nestedTooDeep

def get (s : Store) (key : StoreKey) : Except Fault (Option Json) :=
  match s with
  | values entries => .ok ((Table.find? entries key).bind Json.present)
  | texts rows =>
      match Table.find? rows key with
      | some text => payloadOf text
      | none => .ok none

def put (s : Store) (key : StoreKey) (r : Report) : Store :=
  match s with
  | values entries => values (Table.put entries key r.toWrapped)
  | texts rows => texts (Table.put rows key r.toWrapped.text)

-- Either way the report becomes text first, so only what can be written is put.
def write (s : Store) (key : StoreKey) (r : Report) : Except Fault Store := do
  r.toWrapped.checkWritable
  return s.put key r

def erase (s : Store) (key : StoreKey) : Store :=
  match s with
  | values entries => values (Table.erase entries key)
  | texts rows => texts (Table.erase rows key)

def has (s : Store) (key : StoreKey) : Bool :=
  match s with
  | values entries => ((Table.find? entries key).bind Json.present).isSome
  | texts rows => Table.has rows key

def size : Store → Nat
  | values entries => entries.length
  | texts rows => rows.length

def keys : Store → List StoreKey
  | values entries => entries.map Prod.fst
  | texts rows => rows.map Prod.fst

def identifiers (s : Store) (analyzer : String) : List String :=
  (s.keys.filter (·.analyzer == analyzer)).map (·.identifier)

def rowLe (a b : StoreKey × String) : Bool :=
  a.1.analyzer < b.1.analyzer || (a.1.analyzer == b.1.analyzer && a.1.identifier ≤ b.1.identifier)

def rows : Store → Table String
  | values _ => []
  | texts rows => rows.mergeSort rowLe

end Store

end CodeSurvey
