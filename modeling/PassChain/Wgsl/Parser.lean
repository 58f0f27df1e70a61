import PassChain.Wgsl.Syntax
import PassChain.Wgsl.Words

/-!
Reading declarations from tokens. A reader takes tokens from the front and gives up where the
grammar does. Readers that call each other carry a bound on their depth, which the number of
tokens supplies.
-/

namespace PassChain.Wgsl

/-- Takes tokens from the front, or gives up. -/
abbrev Reader := StateT (List Token) Option

namespace Reader

def refuse {α : Type} : Reader α := fun _ => none

def sees (c : Char) : Reader Bool := fun ts =>
  match ts with
  | .mark d _ :: _ => some (c == d, ts)
  | _ => some (false, ts)

def skip (c : Char) : Reader Bool := fun ts =>
  match ts with
  | .mark d _ :: rest => if c == d then some (true, rest) else some (false, ts)
  | _ => some (false, ts)

def expect (c : Char) : Reader Unit := do
  unless ← skip c do refuse

/-- Operators of more than one character. A longer one wins over its beginning. -/
def longOperators : List String :=
  ["<<=", ">>=", "->", "==", "!=", "<=", ">=", "&&", "||", "++", "--", "+=", "-=", "*=", "/=",
    "%=", "&=", "|=", "^=", "<<", ">>"]

/-- What follows these characters, if they stand here without anything between them. -/
def afterGlued : List Char → List Token → Option (List Token)
  | [], ts => some ts
  | [c], .mark d _ :: ts => if c == d then some ts else none
  | c :: cs, .mark d true :: ts => if c == d then afterGlued cs ts else none
  | _, _ => none

/-- The operator at the front and what follows it. -/
def operatorAt (ts : List Token) : Option (String × List Token) :=
  let long := longOperators.findSome? fun op => (op, ·) <$> afterGlued op.toList ts
  match long, ts with
  | some found, _ => some found
  | none, .mark c _ :: rest => some (String.singleton c, rest)
  | none, _ => none

/-- Takes the operator at the front if it is one of these. -/
def skipOperator (ops : List String) : Reader (Option String) := fun ts =>
  match operatorAt ts with
  | some (op, rest) => if ops.contains op then some (some op, rest) else some (none, ts)
  | none => some (none, ts)

def expectOperator (op : String) : Reader Unit := do
  if (← skipOperator [op]).isNone then refuse

def peekWord : Reader (Option String) := fun ts =>
  match ts with
  | .word w :: _ => some (some w, ts)
  | _ => some (none, ts)

def word : Reader String := fun ts =>
  match ts with
  | .word w :: rest => some (w, rest)
  | _ => none

def skipWord (w : String) : Reader Bool := fun ts =>
  match ts with
  | .word v :: rest => if v == w then some (true, rest) else some (false, ts)
  | _ => some (false, ts)

/-- Takes a word that may be a declared name. -/
def ident : Reader String := do
  let w ← word
  if mayName w then pure w else refuse

end Reader

open Reader

/-- Binary operators, the loosest first. -/
def binaryLevels : List (List String) :=
  [["||"], ["&&"], ["|"], ["^"], ["&"], ["==", "!="], ["<", ">", "<=", ">="], ["<<", ">>"],
    ["+", "-"], ["*", "/", "%"]]

/-- Names of vector and matrix types without an element type. -/
def shapeNames : List String :=
  ["vec2", "vec3", "vec4", "mat2x2", "mat2x3", "mat2x4", "mat3x2", "mat3x3", "mat3x4", "mat4x2",
    "mat4x3", "mat4x4"]

/-- Names that may take arguments in angle brackets inside an expression. -/
def generators : List String := shapeNames ++ ["array", "bitcast"]

mutual

/-- A type: a name and perhaps arguments in angle brackets. -/
def readType : Nat → Reader Expr
  | 0 => refuse
  | n + 1 => do
    let w ← word
    if !mayName w && w != "binding_array" then refuse
    else if ← skip '<' then .name w <$> readTypeArgs n
    else pure (.name w [])

/-- The arguments of a type, up to the closing bracket. -/
def readTypeArgs : Nat → Reader (List Expr)
  | 0 => refuse
  | n + 1 => do
    if ← skip '>' then pure []
    else
      let arg ← match ← peekWord with
        | some _ => readType n
        | none => readUnary n
      if ← skip ',' then (arg :: ·) <$> readTypeArgs n
      else do
        expect '>'
        pure [arg]

/-- An expression whose operators bind at least as tightly as the first level given. -/
def readBinary : Nat → List (List String) → Reader Expr
  | 0, _ => refuse
  | n + 1, [] => readUnary n
  | n + 1, ops :: tighter => do
    let a ← readBinary n tighter
    readOperands n ops tighter a

/-- The operators of one level that follow a first operand, from left to right. -/
def readOperands : Nat → List String → List (List String) → Expr → Reader Expr
  | 0, _, _, _ => refuse
  | n + 1, ops, tighter, a => do
    match ← skipOperator ops with
    | none => pure a
    | some op =>
      let b ← readBinary n tighter
      readOperands n ops tighter (.binary op a b)

/-- An operand with the operators in front of it. -/
def readUnary : Nat → Reader Expr
  | 0 => refuse
  | n + 1 => do
    match ← skipOperator ["-", "!", "~", "*", "&"] with
    | some op => .unary op <$> readUnary n
    | none => do
      let e ← readPrimary n
      readPostfix n e

/-- Members and elements that are picked from an operand. -/
def readPostfix : Nat → Expr → Reader Expr
  | 0, _ => refuse
  | n + 1, e => do
    if ← skip '.' then
      let field ← ident
      readPostfix n (.member e field)
    else if ← skip '[' then
      let i ← readBinary n binaryLevels
      expect ']'
      readPostfix n (.index e i)
    else pure e

/-- A literal, a name, a call, or an expression in parentheses. -/
def readPrimary : Nat → Reader Expr
  | 0 => refuse
  | n + 1 => do
    if ← skip '(' then
      let e ← readBinary n binaryLevels
      expect ')'
      pure e
    else match ← peekWord with
      | none => fun ts =>
        match ts with
        | .number k :: rest => some (.number k, rest)
        | _ => none
      | some "true" => do discard word; pure (.bool true)
      | some "false" => do discard word; pure (.bool false)
      | some w => do
        discard ident
        let typeArgs ← if generators.contains w then
            if ← skip '<' then readTypeArgs n else pure []
          else pure []
        if ← skip '(' then .call w typeArgs <$> readArgs n
        else if typeArgs.isEmpty then pure (.name w [])
        else refuse

/-- The arguments of a call, up to the closing parenthesis. -/
def readArgs : Nat → Reader (List Expr)
  | 0 => refuse
  | n + 1 => do
    if ← skip ')' then pure []
    else
      let e ← readBinary n binaryLevels
      if ← skip ',' then (e :: ·) <$> readArgs n
      else do
        expect ')'
        pure [e]

end

def readExpr (n : Nat) : Reader Expr := readBinary n binaryLevels

/-- What follows a colon, if one stands here. -/
def readTypeMark (n : Nat) : Reader (Option Expr) := do
  if ← skip ':' then some <$> readType n else pure none

/-- What follows an equals sign, if one stands here. -/
def readInitial (n : Nat) : Reader (Option Expr) := do
  if (← skipOperator ["="]).isSome then some <$> readExpr n else pure none

/-- An assignment, a step or a call, without its semicolon. -/
def readSimple (n : Nat) : Reader Stmt := do
  if ← skipWord "_" then
    expectOperator "="
    .assign none <$> readExpr n
  else
    let target ← readUnary n
    match ← skipOperator ["=", "+=", "-=", "*=", "/=", "%=", "&=", "|=", "^=", "<<=", ">>=",
        "++", "--"] with
    | some "++" | some "--" => pure (.step target)
    | some _ => .assign (some target) <$> readExpr n
    | none => match target with
      | .call .. => pure (.call target)
      | _ => refuse

/-- A declaration of local names, without its semicolon, or a simple statement. -/
def readLocal (n : Nat) : Reader Stmt := do
  if ← skipWord "let" then
    let name ← ident
    let type ← readTypeMark n
    expectOperator "="
    .declare .constant name type <$> some <$> readExpr n
  else if ← skipWord "var" then
    let name ← ident
    let type ← readTypeMark n
    let value ← readInitial n
    if type.isNone && value.isNone then refuse else pure (.declare .mutable name type value)
  else readSimple n

mutual

def readStmts : Nat → Reader (List Stmt)
  | 0 => refuse
  | n + 1 => do
    if ← skip '\x7d' then pure []
    else if ← skip ';' then readStmts n
    else do
      let s ← readStmt n
      (s :: ·) <$> readStmts n

def readBlock : Nat → Reader (List Stmt)
  | 0 => refuse
  | n + 1 => do
    expect '\x7b'
    readStmts n

def readStmt : Nat → Reader Stmt
  | 0 => refuse
  | n + 1 => do
    if ← sees '\x7b' then .block <$> readBlock n
    else match ← peekWord with
      | some "if" => do discard word; readBranch n
      | some "switch" => do
        discard word
        let selector ← readExpr n
        expect '\x7b'
        .switch selector <$> readCases n
      | some "loop" => do
        discard word
        expect '\x7b'
        let (body, continuing) ← readLoopBody n
        pure (.loop body continuing)
      | some "while" => do
        discard word
        let condition ← readExpr n
        let body ← readBlock n
        pure (.loop (.branch condition [] [.breakLoop] :: body) [])
      | some "for" => do
        discard word
        expect '('
        let first ← if ← skip ';' then pure [] else do
          let s ← readLocal n
          expect ';'
          pure [s]
        let test ← if ← skip ';' then pure [] else do
          let e ← readExpr n
          expect ';'
          pure [Stmt.branch e [] [.breakLoop]]
        let update ← if ← skip ')' then pure [] else do
          let s ← readSimple n
          expect ')'
          pure [s]
        let body ← readBlock n
        pure (.block (first ++ [.loop (test ++ body) update]))
      | some "break" => do
        discard word
        let s ← if ← skipWord "if" then .breakIf <$> readExpr n else pure .breakLoop
        expect ';'
        pure s
      | some "continue" => do discard word; expect ';'; pure .continueLoop
      | some "discard" => do discard word; expect ';'; pure .discard
      | some "return" => do
        discard word
        if ← skip ';' then pure (.returns none)
        else
          let e ← readExpr n
          expect ';'
          pure (.returns (some e))
      | _ => do
        let s ← readLocal n
        expect ';'
        pure s

def readBranch : Nat → Reader Stmt
  | 0 => refuse
  | n + 1 => do
    let condition ← readExpr n
    let accept ← readBlock n
    let reject ← if ← skipWord "else" then
        if ← skipWord "if" then (fun s => [s]) <$> readBranch n else readBlock n
      else pure []
    pure (.branch condition accept reject)

/-- The cases of a switch, up to the closing brace. -/
def readCases : Nat → Reader (List (List Expr × List Stmt))
  | 0 => refuse
  | n + 1 => do
    if ← skip '\x7d' then pure []
    else
      let selectors ← if ← skipWord "default" then pure []
        else if ← skipWord "case" then readSelectors n
        else refuse
      discard (skip ':')
      let body ← readBlock n
      ((selectors, body) :: ·) <$> readCases n

/-- The selectors of one case. -/
def readSelectors : Nat → Reader (List Expr)
  | 0 => refuse
  | n + 1 => do
    if (← sees '\x7b') || (← sees ':') then pure []
    else
      let own ← if ← skipWord "default" then pure [] else (fun e => [e]) <$> readExpr n
      if ← skip ',' then (own ++ ·) <$> readSelectors n else pure own

/-- The body of a loop and its continuing part, up to the closing brace. -/
def readLoopBody : Nat → Reader (List Stmt × List Stmt)
  | 0 => refuse
  | n + 1 => do
    if ← skip '\x7d' then pure ([], [])
    else if ← skip ';' then readLoopBody n
    else if ← skipWord "continuing" then
      let continuing ← readBlock n
      expect '\x7d'
      pure ([], continuing)
    else
      let s ← readStmt n
      let (body, continuing) ← readLoopBody n
      pure (s :: body, continuing)

end

structure Attribute where
  name : String
  args : List Expr

/-- The attributes that stand here, none of them twice. -/
def readAttributes : Nat → Reader (List Attribute)
  | 0 => refuse
  | n + 1 => do
    if ← skip '@' then
      let name ← word
      let args ← if ← skip '(' then readArgs n else pure []
      let rest ← readAttributes n
      if rest.any (·.name == name) then refuse else pure (⟨name, args⟩ :: rest)
    else pure []

namespace Attribute

/-- The single argument of the attribute of this name. -/
def argument (name : String) (attributes : List Attribute) : Reader (Option Expr) :=
  match attributes.find? (·.name == name) with
  | none => pure none
  | some ⟨_, [e]⟩ => pure (some e)
  | some _ => refuse

/-- Refuses attributes other than these. -/
def only (names : List String) (attributes : List Attribute) : Reader Unit :=
  if attributes.all fun a => names.contains a.name then pure () else refuse

/-- How a value passes between stages, by its attributes. -/
def io (attributes : List Attribute) : Reader (Option IoBinding) := do
  let location ← argument "location" attributes
  let builtin ← argument "builtin" attributes
  match location, builtin with
  | some n, none => pure (some (.location n))
  | none, some (.name b []) =>
    if builtinValues.contains b then pure (some (.builtin b)) else refuse
  | none, none => pure none
  | _, _ => refuse

end Attribute

def ioAttributes : List String :=
  ["location", "builtin", "interpolate", "invariant", "second_blend_source"]

/-- The members of a structure, up to the closing brace. -/
def readMembers : Nat → Reader (List MemberDecl)
  | 0 => refuse
  | n + 1 => do
    if ← skip '\x7d' then pure []
    else
      let attributes ← readAttributes n
      Attribute.only ("size" :: "align" :: ioAttributes) attributes
      let size ← Attribute.argument "size" attributes
      let align ← Attribute.argument "align" attributes
      let io ← Attribute.io attributes
      let name ← ident
      expect ':'
      let type ← readType n
      let m : MemberDecl := { name, type, size, align, io }
      if ← skip ',' then (m :: ·) <$> readMembers n
      else do
        expect '\x7d'
        pure [m]

/-- The parameters of a function, up to the closing parenthesis. -/
def readParams : Nat → Reader (List ParamDecl)
  | 0 => refuse
  | n + 1 => do
    if ← skip ')' then pure []
    else
      let attributes ← readAttributes n
      Attribute.only ioAttributes attributes
      let io ← Attribute.io attributes
      let name ← ident
      expect ':'
      let type ← readType n
      let p : ParamDecl := { name, type, io }
      if ← skip ',' then (p :: ·) <$> readParams n
      else do
        expect ')'
        pure [p]

/-- What a program may do with a buffer or a storage texture. -/
def accessModes : List String := ["read", "write", "read_write"]

/-- The address space of a variable, in angle brackets. -/
def readSpace : Reader AddressSpace := do
  if !(← skip '<') then pure .handle
  else
    let space ← match ← word with
      | "uniform" => pure AddressSpace.uniform
      | "private" => pure .privateData
      | "workgroup" => pure .workgroup
      | "push_constant" => pure .pushConstant
      | "function" => pure .functionLocal
      | "storage" => do
        if ← skip ',' then
          unless accessModes.contains (← word) do refuse
        pure .storage
      | _ => refuse
    expect '>'
    pure space

def stageOf (attributes : List Attribute) : Reader (Option Stage) :=
  let named (s : String) := attributes.any (·.name == s)
  match named "vertex", named "fragment", named "compute" with
  | false, false, false => pure none
  | true, false, false => pure (some .vertex)
  | false, true, false => pure (some .fragment)
  | false, false, true => pure (some .compute)
  | _, _, _ => refuse

def readDecl (n : Nat) : Reader Decl := do
  let attributes ← readAttributes n
  Attribute.only ["group", "binding", "vertex", "fragment", "compute", "workgroup_size",
    "early_depth_test"] attributes
  match ← word with
  | "struct" =>
    let name ← ident
    expect '\x7b'
    let members ← readMembers n
    pure ⟨name, .struct members⟩
  | "alias" =>
    let name ← ident
    expectOperator "="
    let type ← readType n
    expect ';'
    pure ⟨name, .alias type⟩
  | "const" =>
    let name ← ident
    let type ← readTypeMark n
    expectOperator "="
    let value ← readExpr n
    expect ';'
    pure ⟨name, .const type value⟩
  | "var" =>
    let space ← readSpace
    let name ← ident
    expect ':'
    let type ← readType n
    let value ← readInitial n
    expect ';'
    let group ← Attribute.argument "group" attributes
    let binding ← Attribute.argument "binding" attributes
    pure ⟨name, .var { space, group, binding, type, value }⟩
  | "fn" =>
    let name ← ident
    expect '('
    let params ← readParams n
    let result ← if (← skipOperator ["->"]).isSome then do
        let resultAttributes ← readAttributes n
        Attribute.only ioAttributes resultAttributes
        let io ← Attribute.io resultAttributes
        let type ← readType n
        pure (some (type, io))
      else pure none
    let body ← readBlock n
    let stage ← stageOf attributes
    let workgroupSize := (attributes.find? (·.name == "workgroup_size")).map (·.args)
    if stage == some .compute && workgroupSize.isNone then refuse
    else pure ⟨name, .fn { stage, workgroupSize := workgroupSize.getD [], params, result, body }⟩
  | _ => refuse

def readDecls : Nat → Reader (List Decl)
  | 0 => refuse
  | n + 1 => do
    if (← get).isEmpty then pure []
    else if ← skip ';' then readDecls n
    else do
      let d ← readDecl n
      (d :: ·) <$> readDecls n

/-- The declarations of a program text, `none` if it is not one. A reader goes through all levels
of operators once for every token that it takes, hence the bound. -/
def parse (text : String) : Option (List Decl) := do
  let ts ← tokens text
  let (decls, _) ← (readDecls (16 * (ts.length + 1))).run ts
  pure decls

end PassChain.Wgsl
