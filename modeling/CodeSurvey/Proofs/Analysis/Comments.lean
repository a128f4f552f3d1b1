import CodeSurvey.Analysis.Exports
import CodeSurvey.Analysis.Matches
import CodeSurvey.Proofs.Syntax.Commented

namespace CodeSurvey

open Node (IsComment WithComments Commented)
open Node.WithComments (found_cases bind_of_found map_of_found textOf_of_found valueOf_of_found)

variable {n m c root root' : Node} {ns ms : List Node} {path : String}

namespace Exports

theorem declaredNames_eq (h : n.WithComments m) : declaredNames m = declaredNames n := by
  rw [declaredNames, declaredNames, h.kind, h.itemNames (by decide),
    textOf_of_found (h.child? "name")]

theorem specifierName_eq (h : n.WithComments m) : specifierName m = specifierName n := by
  rw [specifierName, specifierName]
  rcases found_cases (h.child? "alias") with ⟨hn, hm⟩ | ⟨other, other', hn, hm, hother⟩
  · rw [hn, hm, Option.none_or, Option.none_or, textOf_of_found (h.child? "name")]
  · rw [hn, hm, Option.some_or, Option.some_or, textOf_of_found (.some hother)]

theorem clauseNames_eq (h : n.WithComments m) : clauseNames m = clauseNames n := by
  have hnames : (m.namedChildren.filter (·.kind == "export_specifier")).map specifierName
      = (n.namedChildren.filter (·.kind == "export_specifier")).map specifierName :=
    h.namedChildren.map_filter_kind (by decide) fun _ _ hnm => specifierName_eq hnm
  rw [clauseNames, clauseNames, h.kind, hnames]

theorem clauseNames_comment (h : c.IsComment) : clauseNames c = [] := by
  rw [clauseNames, h.kind]
  rfl

theorem specifiers_eq (h : n.WithComments m) : specifiers m = specifiers n := by
  have hnames : m.namedChildren.flatMap clauseNames = n.namedChildren.flatMap clauseNames :=
    h.namedChildren.flatMap_eq (fun _ hc => clauseNames_comment hc) fun _ _ hnm =>
      clauseNames_eq hnm
  rw [specifiers, specifiers, h.hasChild (by decide), h.hasChild (by decide), hnames]
  rcases found_cases (h.child? "declaration") with ⟨hn, hm⟩
    | ⟨declaration, declaration', hn, hm, hdeclaration⟩
  · rw [hn, hm]
  · rw [hn, hm]
    simp only [declaredNames_eq hdeclaration]

theorem entryOf_eq (h : n.WithComments m) : entryOf m = entryOf n := by
  have hsource : (m.child? "source").map (fun s => Node.valueOf (some s))
      = (n.child? "source").map fun s => Node.valueOf (some s) := by
    apply map_of_found _ (h.child? "source")
    intro n m hnm
    exact valueOf_of_found (.some hnm)
  rw [entryOf, entryOf, h.kind, specifiers_eq h, hsource]

theorem entryOf_comment (h : c.IsComment) : entryOf c = none := by
  rw [entryOf, h.kind]
  rfl

theorem collect_eq (h : root.WithComments root') : collect root' = collect root :=
  h.walk.filterMap_eq (fun _ hc => entryOf_comment hc) fun _ _ hnm => entryOf_eq hnm

end Exports

namespace Imports

theorem partSpecifiers_eq (h : n.WithComments m) : partSpecifiers m = partSpecifiers n := by
  rw [partSpecifiers, partSpecifiers, h.kind, h.itemNames (by decide)]

theorem partSpecifiers_comment (h : c.IsComment) : partSpecifiers c = [] := by
  rw [partSpecifiers, h.kind]
  rfl

theorem specifiers_eq (h : n.WithComments m) : specifiers m = specifiers n := by
  apply h.namedChildren.flatMap_filter_kind (by decide)
  intro n m hnm
  exact hnm.namedChildren.flatMap_eq (fun _ hc => partSpecifiers_comment hc) fun _ _ hpart =>
    partSpecifiers_eq hpart

def takesModule (call : Node) : Bool :=
  (call.child? "function").any fun f => f.kind == "import"
    || (f.kind == "identifier" && Node.textOf (some f) == "require")

def arguments (call : Node) : List Node :=
  ((call.child? "arguments").map (·.namedChildren)).getD []

def isRemark (n : Node) : Bool := n.kind == "comment"

def opensWithRemark (call : Node) : Bool := (arguments call).head?.any isRemark

def argumentBehind? (call : Node) : Option String :=
  ((arguments call).find? fun n => !isRemark n).bind fun first =>
    if first.kind == "string" then some (Node.valueOf (some first)) else none

def hidesSource (call : Node) : Bool :=
  call.kind == "call_expression" && takesModule call && opensWithRemark call
    && (argumentBehind? call).isSome

def callBehind (path : String) (call : Node) : Option Entry := do
  let function ← call.child? "function"
  let dynamic := function.kind == "import"
  if dynamic || (function.kind == "identifier" && Node.textOf (some function) == "require") then
    let source ← argumentBehind? call
    some (Entry.of path [if dynamic then "[dynamic]" else "[require]"] source)
  else none

def entryBehind (path : String) (n : Node) : Option Entry :=
  if n.kind == "call_expression" then callBehind path n else entryOf path n

theorem firstArgument?_eq_behind (call : Node) :
    firstArgument? call = if opensWithRemark call then none else argumentBehind? call := by
  rw [firstArgument?, opensWithRemark, argumentBehind?, arguments]
  cases (call.child? "arguments").map (·.namedChildren) with
  | none => rfl
  | some arguments =>
      cases arguments with
      | nil => rfl
      | cons first rest =>
          rw [Option.getD_some, List.head?_cons, Option.any_some]
          cases hremark : isRemark first with
          | true =>
              rw [isRemark, beq_iff_eq] at hremark
              simp [hremark]
          | false => simp [hremark]

theorem callImport_eq_behind (path : String) (call : Node) :
    callImport path call = if opensWithRemark call then none else callBehind path call := by
  rw [callImport, callBehind, firstArgument?_eq_behind]
  cases call.child? "function" with
  | none => cases opensWithRemark call <;> rfl
  | some function =>
      cases opensWithRemark call with
      | true => simp
      | false => simp

theorem isSome_callBehind (path : String) (call : Node) :
    (callBehind path call).isSome = (takesModule call && (argumentBehind? call).isSome) := by
  rw [callBehind, takesModule]
  cases call.child? "function" with
  | none => rfl
  | some function =>
      rw [Option.any_some, Option.bind_eq_bind, Option.bind_some]
      dsimp only
      split
      · next htakes =>
          rw [htakes, Bool.true_and]
          cases argumentBehind? call <;> rfl
      · next htakes =>
          rw [eq_false_of_ne_true htakes]
          rfl

theorem kind_of_hidesSource (h : hidesSource n = true) : n.kind = "call_expression" := by
  simp only [hidesSource, Bool.and_eq_true, beq_iff_eq] at h
  exact h.1.1.1

theorem isSome_entryBehind (h : hidesSource n = true) (path : String) :
    (entryBehind path n).isSome = true := by
  rw [entryBehind, kind_of_hidesSource h, if_pos (beq_self_eq_true _), isSome_callBehind]
  simp only [hidesSource, Bool.and_eq_true] at h ⊢
  exact ⟨h.1.1.2, h.2⟩

theorem entryOf_eq_behind (path : String) (n : Node) :
    entryOf path n = if hidesSource n then none else entryBehind path n := by
  rw [entryBehind]
  by_cases hcall : (n.kind == "call_expression") = true
  · have hother (kind : String) (hkind : kind ≠ "call_expression") : ¬(n.kind == kind) = true := by
      rw [beq_iff_eq.1 hcall, beq_iff_eq]
      exact hkind.symm
    rw [entryOf, if_neg (hother _ (by decide)), if_neg (hother _ (by decide)), if_pos hcall,
      if_pos hcall, callImport_eq_behind, hidesSource, hcall]
    cases hremark : opensWithRemark n with
    | false => simp
    | true =>
        rw [Bool.true_and, Bool.and_true, ← isSome_callBehind path]
        cases callBehind path n <;> rfl
  · rw [if_neg hcall, hidesSource, eq_false_of_ne_true hcall]
    rfl

theorem takesModule_eq (h : n.WithComments m) : takesModule m = takesModule n := by
  rw [takesModule, takesModule]
  rcases found_cases (h.child? "function") with ⟨hn, hm⟩ | ⟨function, function', hn, hm, hfunction⟩
  · rw [hn, hm]
  · rw [hn, hm, Option.any_some, Option.any_some, hfunction.kind, textOf_of_found (.some hfunction)]

theorem arguments_commented (h : n.WithComments m) : Commented (arguments n) (arguments m) := by
  rw [arguments, arguments]
  rcases found_cases (h.child? "arguments") with ⟨hn, hm⟩ | ⟨list, list', hn, hm, hlist⟩
  · rw [hn, hm]
    exact .nil
  · rw [hn, hm]
    exact hlist.namedChildren

theorem argumentBehind?_eq (h : n.WithComments m) : argumentBehind? m = argumentBehind? n := by
  have hfirst : Option.Rel Node.WithComments ((arguments n).find? fun a => !isRemark a)
      ((arguments m).find? fun a => !isRemark a) := by
    apply (arguments_commented h).find?
    · intro c hc
      rw [isRemark, hc.kind]
      rfl
    · intro n m hnm
      rw [isRemark, isRemark, hnm.kind]
  apply bind_of_found _ hfirst
  intro n m hnm
  rw [hnm.kind, valueOf_of_found (.some hnm)]

theorem callBehind_eq (h : n.WithComments m) (path : String) :
    callBehind path m = callBehind path n := by
  rw [callBehind, callBehind, argumentBehind?_eq h]
  apply bind_of_found _ (h.child? "function")
  intro n m hnm
  rw [hnm.kind, textOf_of_found (.some hnm)]

theorem entryBehind_eq (h : n.WithComments m) (path : String) :
    entryBehind path m = entryBehind path n := by
  have hsource :
      (m.child? "source").map (fun s => Entry.of path ["[re-export]"] (Node.valueOf (some s)))
      = (n.child? "source").map fun s => Entry.of path ["[re-export]"] (Node.valueOf (some s)) := by
    apply map_of_found _ (h.child? "source")
    intro n m hnm
    rw [valueOf_of_found (.some hnm)]
  rw [entryBehind, entryBehind, h.kind, callBehind_eq h]
  split
  · rfl
  · next hcall =>
      rw [entryOf, entryOf, h.kind, specifiers_eq h, valueOf_of_found (h.child? "source"), hsource,
        if_neg hcall, if_neg hcall]

theorem entryBehind_comment (h : c.IsComment) (path : String) : entryBehind path c = none := by
  rw [entryBehind, entryOf, h.kind]
  rfl

theorem isRemark_head_of_commented (h : Commented ns ms) (hn : ns.head?.any isRemark = true) :
    ms.head?.any isRemark = true := by
  cases h with
  | nil => exact hn
  | insert hc _ => simp [isRemark, hc.kind]
  | keep kind _ _ _ _ _ => simpa [isRemark, kind] using hn

theorem hidesSource_of_commented (h : n.WithComments m) (hn : hidesSource n = true) :
    hidesSource m = true := by
  simp only [hidesSource, Bool.and_eq_true] at hn ⊢
  rw [h.kind, takesModule_eq h, argumentBehind?_eq h]
  exact ⟨⟨hn.1.1, isRemark_head_of_commented (arguments_commented h) hn.1.2⟩, hn.2⟩

theorem entryOf_comment (h : c.IsComment) (path : String) : entryOf path c = none := by
  rw [entryOf, h.kind]
  rfl

theorem filterMap_entryOf_sublist (path : String) (h : Commented ns ms) :
    (ms.filterMap (entryOf path)).Sublist (ns.filterMap (entryOf path)) := by
  induction h with
  | nil => exact .slnil
  | insert hc _ ih =>
      rw [List.filterMap_cons_none (entryOf_comment hc path)]
      exact ih
  | @keep n m ns ms kind named role text children _ _ ih =>
      have hnode : n.WithComments m := ⟨kind, named, role, text, children⟩
      cases hm : hidesSource m with
      | true =>
          have hnone : entryOf path m = none := by rw [entryOf_eq_behind, hm, if_pos rfl]
          rw [List.filterMap_cons_none hnone]
          exact ih.trans ((List.sublist_cons_self n ns).filterMap _)
      | false =>
          have hn : hidesSource n = false := by
            rw [← Bool.not_eq_true]
            intro hn
            rw [hidesSource_of_commented hnode hn] at hm
            exact Bool.noConfusion hm
          have hsame : entryOf path m = entryOf path n := by
            rw [entryOf_eq_behind, entryOf_eq_behind, hm, hn, entryBehind_eq hnode]
          rw [List.filterMap_cons, List.filterMap_cons, hsame]
          cases entryOf path n with
          | none => exact ih
          | some e => exact ih.cons_cons e

theorem length_filterMap_entryOf (path : String) (ns : List Node) :
    (ns.filterMap (entryOf path)).length + ns.countP hidesSource
      = (ns.filterMap (entryBehind path)).length := by
  induction ns with
  | nil => rfl
  | cons n ns ih =>
      rw [List.filterMap_cons, List.filterMap_cons, List.countP_cons, entryOf_eq_behind]
      cases hn : hidesSource n with
      | true =>
          obtain ⟨e, he⟩ := Option.isSome_iff_exists.1 (isSome_entryBehind hn path)
          simp only [he, if_pos, List.length_cons]
          omega
      | false =>
          cases entryBehind path n with
          | none => simpa using ih
          | some e =>
              simp only [if_neg Bool.false_ne_true, List.length_cons]
              omega

theorem collect_sublist (h : root.WithComments root') (path : String) :
    (collect root' path).Sublist (collect root path) :=
  filterMap_entryOf_sublist path h.walk

theorem collect_eq_iff (h : root.WithComments root') (path : String) :
    collect root' path = collect root path
      ↔ root'.walk.countP hidesSource = root.walk.countP hidesSource := by
  have hbehind : root'.walk.filterMap (entryBehind path) = root.walk.filterMap (entryBehind path) :=
    h.walk.filterMap_eq (fun _ hc => entryBehind_comment hc path) fun _ _ hnm =>
      entryBehind_eq hnm path
  have hroot := length_filterMap_entryOf path root.walk
  have hroot' := length_filterMap_entryOf path root'.walk
  rw [hbehind, ← hroot] at hroot'
  constructor
  · intro hsame
    rw [collect, collect] at hsame
    rw [hsame] at hroot'
    omega
  · intro hcount
    apply (collect_sublist h path).eq_of_length
    rw [hcount] at hroot'
    exact Nat.add_right_cancel hroot'

theorem comments_only_hide_calls (h : root.WithComments root') :
    (∀ context, Exports.inFile root' context = Exports.inFile root context)
    ∧ (∀ path, (collect root' path).Sublist (collect root path))
    ∧ (∀ path, collect root' path = collect root path
        ↔ root'.walk.countP hidesSource = root.walk.countP hidesSource)
    ∧ (root'.walk.countP hidesSource = root.walk.countP hidesSource →
        ∀ context, inFile root' context = inFile root context
          ∧ Matches.inFile root' context = Matches.inFile root context) := by
  refine ⟨fun context => ?_, collect_sublist h, collect_eq_iff h, fun hcount context => ?_⟩
  · rw [Exports.inFile, Exports.inFile, Exports.collect_eq h]
  · have hsame := (collect_eq_iff h context.path).2 hcount
    rw [inFile, inFile, Matches.inFile, Matches.inFile, hsame]
    exact ⟨rfl, rfl⟩

section Example

def remark : Node := { kind := "comment", text := some "/* webpackChunkName: x */" }

def loading (arguments : List Node) : Node := {
  kind := "program"
  children := [{
    kind := "call_expression"
    children := [
      { kind := "import", role := some "function", text := some "import" },
      { kind := "arguments", role := some "arguments", children := arguments }] }] }

def moduleName : Node := { kind := "string", text := some "'m'" }

theorem isComment_remark : remark.IsComment := ⟨rfl, rfl, rfl, rfl⟩

theorem loading_withComments {before after : List Node} (h : Commented before after) :
    (loading before).WithComments (loading after) := by
  have hcallee : Commented [{ kind := "import", role := some "function", text := some "import" },
      { kind := "arguments", role := some "arguments", children := before }]
      [{ kind := "import", role := some "function", text := some "import" },
      { kind := "arguments", role := some "arguments", children := after }] :=
    .keep rfl rfl rfl rfl .nil (.keep rfl rfl rfl rfl h .nil)
  exact ⟨rfl, rfl, rfl, rfl, .keep rfl rfl rfl rfl hcallee .nil⟩

theorem comments_only_hide_calls_after_name :
    (loading [moduleName]).WithComments (loading [moduleName, remark])
    ∧ collect (loading [moduleName, remark]) "./a.js" = collect (loading [moduleName]) "./a.js"
    ∧ collect (loading [moduleName]) "./a.js" = [⟨["[dynamic]"], "m", "m"⟩] := by
  have hafter : (loading [moduleName]).WithComments (loading [moduleName, remark]) :=
    loading_withComments (.keep rfl rfl rfl rfl .nil (.insert isComment_remark .nil))
  obtain ⟨-, -, hcollect, -⟩ := comments_only_hide_calls hafter
  refine ⟨hafter, (hcollect "./a.js").2 ?_, ?_⟩
  · simp only [Node.walk, Node.walkPending, loading, moduleName, remark, List.nil_append,
      List.append_nil]
    decide +kernel
  · simp only [collect, Node.walk, Node.walkPending, loading, moduleName, List.nil_append,
      List.append_nil]
    decide +kernel

theorem comment_hides_call :
    (loading [moduleName]).WithComments (loading [remark, moduleName])
    ∧ collect (loading [remark, moduleName]) "./a.js"
    ≠ collect (loading [moduleName]) "./a.js" := by
  have hahead : (loading [moduleName]).WithComments (loading [remark, moduleName]) :=
    loading_withComments (.insert isComment_remark (.keep rfl rfl rfl rfl .nil .nil))
  refine ⟨hahead, fun hsame => ?_⟩
  have hcount := (collect_eq_iff hahead "./a.js").1 hsame
  simp only [Node.walk, Node.walkPending, loading, moduleName, remark, List.nil_append,
    List.append_nil] at hcount
  revert hcount
  decide +kernel

end Example

end Imports

end CodeSurvey
