import SyntaxOutline.Draft

/-!
# Sample trees

Three prepared trees stand in for what the front end of a compiler would hand over: shaped as a
parser builds them, and decorated as the later passes leave them. Each is written down as a script
of edits. In the scripts a node is added before the node that owns it, except in the outline, whose
root comes first and is attached to its children last.
-/

namespace SyntaxOutline

/-- **The sample trees.** -/
inductive Sample where
  /-- A recursive factorial function and a call of it, with types, labels and frame offsets. -/
  | factorial
  /-- A root with three children, the middle one with three of its own. -/
  | outline
  /-- Three nodes nested in a single chain. -/
  | nested
  deriving DecidableEq

namespace Sample

/-- All samples, in the order in which they are offered. -/
def all : List Sample := [factorial, outline, nested]

/-- The name under which a sample is asked for. -/
def name : Sample → String
  | factorial => "factorial"
  | outline => "outline"
  | nested => "nested"

/-- The sample of the given name. Capital ASCII letters may be taken for small ones. -/
def named? (ignoreCase : Bool) (name : String) : Option Sample :=
  all.find? fun sample => sample.name == if ignoreCase then name.toLower else name

open Draft

/-- The tree of a program that declares a function, declares a variable, and assigns to it what the
function makes of 5. The function is `int factorial(int n)`; if `n <= 1` it returns 1, else
`n * factorial(n - 1)`. The two type nodes that expressions are decorated with stand alone. -/
def factorialScript : Drafting Handle := do
  let returnType ← add .intType
  let functionName ← addIdent "factorial" none
  let formalType ← add .intType
  let formalName ← addIdent "n" (some 0)
  let formal ← addOver .decl [formalType, formalName]
  let formals ← addOver .formals [formal]
  -- the condition
  let conditionLeft ← addIdent "n" (some 0)
  let conditionRight ← add (.int "1")
  let condition ← addOver (.relOp "<=") [conditionLeft, conditionRight]
  -- the base case
  let one ← add (.int "1")
  let baseReturn ← addOver .returnStmt [one]
  let thenBlock ← addOver .block [baseReturn]
  -- the recursive case
  let factor ← addIdent "n" (some 0)
  let callee ← addIdent "factorial" none
  let minusLeft ← addIdent "n" (some 0)
  let minusRight ← add (.int "1")
  let minus ← addOver (.addOp "-") [minusLeft, minusRight]
  let arguments ← addOver .actualArgs [minus]
  let call ← addOver .call [callee, arguments]
  let product ← addOver (.multOp "*") [factor, call]
  let recursiveReturn ← addOver .returnStmt [product]
  let elseBlock ← addOver .block [recursiveReturn]
  let branch ← addOver .ifStmt [condition, thenBlock, elseBlock]
  let body ← addOver .block [branch]
  let function ← addOver .functionDecl [returnType, functionName, formals, body]
  -- the variable
  let variableType ← add .intType
  let variableName ← addIdent "i" (some 0)
  let variableDecl ← addOver .decl [variableType, variableName]
  -- the assignment
  let assigned ← addIdent "i" (some 0)
  let mainCallee ← addIdent "factorial" none
  let five ← add (.int "5")
  let mainArguments ← addOver .actualArgs [five]
  let mainCall ← addOver .call [mainCallee, mainArguments]
  let assign ← addOver .assign [assigned, mainCall]
  let block ← addOver .block [function, variableDecl, assign]
  let root ← addOver .program [block]
  -- types, and the declarations that names refer back to
  let intType ← add .intType
  let boolType ← add .boolType
  decorateEach [functionName, formalName, variableName] intType
  decorateEach [conditionRight, one, minusRight, five, minus, product, call, mainCall] intType
  decorateEach [condition] boolType
  decorateEach [conditionLeft, factor, minusLeft] formal
  decorateEach [callee, mainCallee] function
  decorateEach [assigned] variableDecl
  setLabel function "factorial"
  setLabel branch "L1"
  setLabel elseBlock "L2"
  return root

/-- The tree of a program with a declaration, a block of three statements, and a declaration. -/
def outlineScript : Drafting Handle := do
  let root ← add .program
  let first ← add .decl
  let second ← add .block
  let assign ← add .assign
  let call ← add .call
  let exit ← add .returnStmt
  let third ← add .decl
  [assign, call, exit].forM (attach second)
  [first, second, third].forM (attach root)
  return root

/-- The tree of a program with a block with a declaration. -/
def nestedScript : Drafting Handle := do
  let decl ← add .decl
  let block ← addOver .block [decl]
  addOver .program [block]

/-- The script of a sample, which answers with the root of its tree. -/
def script : Sample → Drafting Handle
  | factorial => factorialScript
  | outline => outlineScript
  | nested => nestedScript

/-- **Builds a sample** in a new arena with the given tag. -/
def build (tag : Nat) (sample : Sample) : EStateM.Result Fault Draft Handle :=
  sample.script ⟨.empty tag, [.building sample.name]⟩

end Sample

end SyntaxOutline
