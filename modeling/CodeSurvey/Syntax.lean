namespace CodeSurvey

structure Node where
  kind : String
  named : Bool := true
  role : Option String := none
  text : Option String := none
  children : List Node := []
  deriving Repr, Inhabited

namespace Node

mutual

def size : Node → Nat
  | ⟨_, _, _, _, children⟩ => 1 + sizes children

def sizes : List Node → Nat
  | [] => 0
  | n :: rest => size n + sizes rest

end

theorem sizes_append (ns ms : List Node) : sizes (ns ++ ms) = sizes ns + sizes ms := by
  induction ns with
  | nil => simp [sizes]
  | cons n ns ih => simp [sizes, ih, Nat.add_assoc]

theorem size_eq (n : Node) : n.size = 1 + sizes n.children := by
  cases n; rw [size]

def walkPending : List Node → List Node
  | [] => []
  | n :: rest => n :: walkPending (n.children ++ rest)
  termination_by pending => sizes pending
  decreasing_by
    rw [sizes_append, sizes, size_eq]
    omega

def walk (n : Node) : List Node := walkPending [n]

mutual

def preorder : Node → List Node
  | ⟨kind, named, role, text, children⟩ => ⟨kind, named, role, text, children⟩ :: preorders children

def preorders : List Node → List Node
  | [] => []
  | n :: rest => preorder n ++ preorders rest

end

def child? (n : Node) (role : String) : Option Node :=
  n.children.find? fun c => c.role == some role

def namedChildren (n : Node) : List Node :=
  n.children.filter (·.named)

def hasChild (n : Node) (kind : String) : Bool :=
  n.children.any fun c => c.kind == kind

def textOf (n : Option Node) : String :=
  (n.bind (·.text)).getD ""

def isQuote (c : Char) : Bool := c == '\'' || c == '"' || c.toNat == 96

def unquote (s : String) : String :=
  match s.toList with
  | q :: rest =>
      if isQuote q && rest.getLast? = some q then String.ofList rest.dropLast else s
  | [] => s

def valueOf (n : Option Node) : String := unquote (textOf n)

end Node

end CodeSurvey
