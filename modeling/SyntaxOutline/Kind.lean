/-!
# Kinds of syntax nodes

A node of a syntax tree is of one of eighteen kinds. Thirteen are plain: the kind says all there is
to say. Five carry the **spelling** of a literal, identifier or operator as it stood in the program
text, and an identifier may carry besides the offset of its slot in the stack frame, once storage
has been laid out.

The table of names is a table of distinct words, but not a prefix code: `Int` begins `IntType`, and
`Decl` ends `FunctionDecl`. What keeps the base labels of different kinds apart is the separator,
which no name contains.
-/

namespace SyntaxOutline

/-- **The spelling** of a literal, an identifier or an operator. Any text is a spelling, the empty
one included. -/
structure Symbol where
  /-- The characters of the spelling. -/
  text : String
  deriving DecidableEq

namespace Symbol

instance : ToString Symbol := ⟨Symbol.text⟩

instance : Coe String Symbol := ⟨Symbol.mk⟩

@[simp] theorem toString_eq (s : Symbol) : toString s = s.text := rfl

end Symbol

/-- **The kind of a node**, with what the node carries by virtue of its kind. -/
inductive Kind where
  | program
  | block
  | functionDecl
  | call
  | decl
  | intType
  | boolType
  | formals
  | actualArgs
  | ifStmt
  | whileStmt
  | returnStmt
  | assign
  /-- An integer literal. -/
  | int (symbol : Symbol)
  /-- An identifier; the offset is missing until storage allocation has assigned a slot. -/
  | ident (symbol : Symbol) (frameOffset : Option Nat)
  /-- A relational operator. -/
  | relOp (symbol : Symbol)
  /-- An additive operator. -/
  | addOp (symbol : Symbol)
  /-- A multiplicative operator. -/
  | multOp (symbol : Symbol)
  deriving DecidableEq

namespace Kind

/-- The name under which a kind appears in outlines and messages. -/
def name : Kind → String
  | program => "Program"
  | block => "Block"
  | functionDecl => "FunctionDecl"
  | call => "Call"
  | decl => "Decl"
  | intType => "IntType"
  | boolType => "BoolType"
  | formals => "Formals"
  | actualArgs => "ActualArgs"
  | ifStmt => "If"
  | whileStmt => "While"
  | returnStmt => "Return"
  | assign => "Assign"
  | int _ => "Int"
  | ident _ _ => "Id"
  | relOp _ => "RelOp"
  | addOp _ => "AddOp"
  | multOp _ => "MultOp"

/-- The spelling a kind carries, if it is one of the five that do. -/
def payload : Kind → Option Symbol
  | int symbol | ident symbol _ | relOp symbol | addOp symbol | multOp symbol => some symbol
  | _ => none

/-- The offset of an identifier's slot in its frame, if it has been assigned one. -/
def frameOffset : Kind → Option Nat
  | ident _ offset => offset
  | _ => none

/-- The kind with its frame offset replaced, or withdrawn for `none`. Only an identifier has one to
replace. -/
def withFrameOffset? (offset : Option Nat) : Kind → Option Kind
  | ident symbol _ => some (ident symbol offset)
  | _ => none

/-- **The base label** of a kind: its name, and for a kind that carries a spelling a colon, a blank
and the spelling. -/
def baseLabel (kind : Kind) : String :=
  match kind.payload with
  | some symbol => kind.name ++ ": " ++ symbol.text
  | none => kind.name

/-- The kinds that carry nothing. -/
def plain : List Kind :=
  [program, block, functionDecl, call, decl, intType, boolType, formals, actualArgs, ifStmt,
    whileStmt, returnStmt, assign]

/-- The plain kind of the given name. -/
def plain? (name : String) : Option Kind :=
  plain.find? (·.name == name)

/-- The kind of the given name that carries the given spelling; an identifier has no offset yet. -/
def spelled? (name : String) (symbol : Symbol) : Option Kind :=
  [int symbol, ident symbol none, relOp symbol, addOp symbol, multOp symbol].find? (·.name == name)

/-! ## A frame offset is all that can change

An offset, where it can be replaced at all, leaves the rest of the kind as it was; in particular the
name, the spelling and the base label do not depend on it. -/

@[simp] theorem frameOffset_ident (symbol : Symbol) (offset : Option Nat) :
    (ident symbol offset).frameOffset = offset := rfl

@[simp] theorem withFrameOffset?_ident (symbol : Symbol) (old new : Option Nat) :
    (ident symbol old).withFrameOffset? new = some (ident symbol new) := rfl

theorem withFrameOffset?_eq_some_iff {offset : Option Nat} {kind changed : Kind} :
    kind.withFrameOffset? offset = some changed ↔
      ∃ symbol old, kind = ident symbol old ∧ changed = ident symbol offset := by
  cases kind <;> simp [withFrameOffset?, eq_comm]

theorem baseLabel_eq_of_withFrameOffset? {offset : Option Nat} {kind changed : Kind}
    (h : kind.withFrameOffset? offset = some changed) : changed.baseLabel = kind.baseLabel := by
  obtain ⟨symbol, old, rfl, rfl⟩ := withFrameOffset?_eq_some_iff.1 h
  rfl

/-- A plain kind is found under its own name. -/
theorem plain?_name {kind : Kind} (h : kind ∈ plain) : plain? kind.name = some kind := by
  simp only [plain, List.mem_cons, List.not_mem_nil, or_false] at h
  rcases h with rfl | rfl | rfl | rfl | rfl | rfl | rfl | rfl | rfl | rfl | rfl | rfl | rfl <;>
    decide

end Kind

end SyntaxOutline
