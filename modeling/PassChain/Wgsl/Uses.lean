import PassChain.Wgsl.Syntax

/-!
Which names a declaration uses, and the order in which declarations are settled: as written,
except that what a declaration uses comes before it. Declarations that use each other have no
such order.
-/

namespace PassChain.Wgsl

mutual

/-- Names in an expression that are not bound locally, in the order they are met. -/
def Expr.uses (bound : List String) : Expr → List String
  | .number _ | .bool _ => []
  | .name id args => (if bound.contains id then [] else [id]) ++ usesOfAll bound args
  | .call id typeArgs args =>
    (if bound.contains id then [] else [id]) ++ usesOfAll bound typeArgs ++ usesOfAll bound args
  | .unary _ e => e.uses bound
  | .binary _ a b => a.uses bound ++ b.uses bound
  | .index e i => e.uses bound ++ i.uses bound
  | .member e _ => e.uses bound

def usesOfAll (bound : List String) : List Expr → List String
  | [] => []
  | e :: rest => e.uses bound ++ usesOfAll bound rest

end

/-- Names in an expression that may be absent. -/
def usesOf? (bound : List String) (e : Option Expr) : List String := (e.map (·.uses bound)).getD []

mutual

/-- Names in a statement. -/
def Stmt.uses (bound : List String) : Stmt → List String
  | .block body => usesOfBody bound body
  | .declare _ _ type value => usesOf? bound type ++ usesOf? bound value
  | .assign target value => usesOf? bound target ++ value.uses bound
  | .step e | .call e | .breakIf e => e.uses bound
  | .branch c accept reject => c.uses bound ++ usesOfBody bound accept ++ usesOfBody bound reject
  | .switch e cases => e.uses bound ++ usesOfCases bound cases
  | .loop body continuing => usesOfBody bound body ++ usesOfBody bound continuing
  | .returns value => usesOf? bound value
  | .breakLoop | .continueLoop | .discard => []

/-- Names in statements; a name declared by one of them is bound in those after it. -/
def usesOfBody (bound : List String) : List Stmt → List String
  | [] => []
  | s :: rest =>
    let bound' := match s with
      | .declare _ name _ _ => name :: bound
      | _ => bound
    s.uses bound ++ usesOfBody bound' rest

def usesOfCases (bound : List String) : List (List Expr × List Stmt) → List String
  | [] => []
  | (selectors, body) :: rest =>
    usesOfAll bound selectors ++ usesOfBody bound body ++ usesOfCases bound rest

end

/-- Names that a declaration uses, in the order they are met. -/
def Decl.uses (d : Decl) : List String :=
  match d.kind with
  | .struct members => members.flatMap fun m =>
      usesOf? [] m.size ++ usesOf? [] m.align ++ m.type.uses []
  | .alias type => type.uses []
  | .const type value => usesOf? [] type ++ value.uses []
  | .var v => usesOf? [] v.group ++ usesOf? [] v.binding ++ v.type.uses [] ++ usesOf? [] v.value
  | .fn f =>
    let params := f.params.flatMap fun p => p.type.uses []
    let result := usesOf? [] (f.result.map (·.1))
    usesOfAll [] f.workgroupSize ++ params ++ result ++ usesOfBody (f.params.map (·.name)) f.body

/-- Adds a declaration to those already settled, after everything it uses; `none` if it uses
itself in the end. `waiting` holds the declarations that wait for this one. -/
def settle (decls : List Decl) : Nat → List String → List Decl → Decl → Option (List Decl)
  | 0, _, _, _ => none
  | n + 1, waiting, settled, d =>
    if settled.any (·.name == d.name) then some settled
    else if waiting.contains d.name then none
    else do
      let used := d.uses.filterMap fun u => decls.find? (·.name == u)
      let settled ← used.foldlM (settle decls n (d.name :: waiting)) settled
      pure (settled ++ [d])

/-- The declarations, each after everything it uses. -/
def inOrder (decls : List Decl) : Option (List Decl) :=
  decls.foldlM (settle decls (decls.length + 1) []) []

end PassChain.Wgsl
