import PassChain.Wgsl.Token

/-!
Syntax trees of programs. A type is written like an expression, a name with arguments in angle
brackets, and is told apart only by where it stands.
-/

namespace PassChain.Wgsl

/-- An expression or a type. -/
inductive Expr where
  | number (n : Number)
  | bool (value : Bool)
  /-- a name, with its arguments in angle brackets -/
  | name (id : String) (args : List Expr)
  /-- a function or a type applied to values -/
  | call (id : String) (typeArgs args : List Expr)
  | unary (op : String) (e : Expr)
  | binary (op : String) (a b : Expr)
  | index (e position : Expr)
  | member (e : Expr) (field : String)
deriving Repr, Inhabited

/-- How a local name is declared. -/
inductive LocalKind where
  | constant
  | mutable
deriving DecidableEq, Repr

inductive Stmt where
  | block (body : List Stmt)
  | declare (kind : LocalKind) (name : String) (type : Option Expr) (value : Option Expr)
  /-- an assignment of any kind; without a target the value is only computed -/
  | assign (target : Option Expr) (value : Expr)
  /-- a step up or down by one -/
  | step (target : Expr)
  | call (e : Expr)
  | branch (condition : Expr) (accept reject : List Stmt)
  | switch (selector : Expr) (cases : List (List Expr × List Stmt))
  | loop (body continuing : List Stmt)
  | breakIf (condition : Expr)
  | breakLoop
  | continueLoop
  | returns (value : Option Expr)
  | discard
deriving Repr, Inhabited

/-- How a value passes between stages. -/
inductive IoBinding where
  | location (n : Expr)
  | builtin (name : String)
deriving Repr

/-- The stage an entry point belongs to. -/
inductive Stage where
  | vertex
  | fragment
  | compute
deriving DecidableEq, Repr

/-- A member of a structure, with its explicit size and alignment. -/
structure MemberDecl where
  name : String
  type : Expr
  size : Option Expr := none
  align : Option Expr := none
  io : Option IoBinding := none
deriving Repr

structure ParamDecl where
  name : String
  type : Expr
  io : Option IoBinding := none
deriving Repr

structure FunctionDecl where
  stage : Option Stage := none
  workgroupSize : List Expr := []
  params : List ParamDecl
  result : Option (Expr × Option IoBinding)
  body : List Stmt
deriving Repr

/-- Where a variable of a module lives. -/
inductive AddressSpace where
  /-- textures and samplers, which need no space written -/
  | handle
  | uniform
  | storage
  | privateData
  | workgroup
  | pushConstant
  | functionLocal
deriving DecidableEq, Repr

structure VariableDecl where
  space : AddressSpace
  group : Option Expr := none
  binding : Option Expr := none
  type : Expr
  value : Option Expr := none
deriving Repr

inductive DeclKind where
  | struct (members : List MemberDecl)
  | alias (type : Expr)
  | const (type : Option Expr) (value : Expr)
  | var (v : VariableDecl)
  | fn (f : FunctionDecl)
deriving Repr

/-- A declaration of a module. -/
structure Decl where
  name : String
  kind : DeclKind
deriving Repr

end PassChain.Wgsl
