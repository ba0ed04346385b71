import SyntaxOutline.Handle
import SyntaxOutline.Kind

/-!
# Nodes

A node owns its children by their place in its list of children; its parent is a link back. A
**decoration** is a reference that owns nothing: any number of nodes may be decorated with the same
target, and the target need not stand in the same tree. The **label** is free text, and the empty
text stands for no label.
-/

namespace SyntaxOutline

/-- **A syntax node** as an arena stores it. -/
structure Node where
  /-- The number printed in front of the node's line. -/
  number : Nat
  kind : Kind
  /-- The children in the order in which they were attached. -/
  children : List Handle
  /-- The node that owns this one. -/
  parent : Option Handle
  /-- A node this one refers to without owning it. -/
  decoration : Option Handle
  /-- Free text, empty for no label. -/
  label : String
  deriving DecidableEq

namespace Node

/-- A node that stands alone: no links, no decoration, no label. -/
def detached (number : Nat) (kind : Kind) : Node where
  number := number
  kind := kind
  children := []
  parent := none
  decoration := none
  label := ""

@[simp] theorem number_detached (number : Nat) (kind : Kind) :
    (detached number kind).number = number := rfl

@[simp] theorem kind_detached (number : Nat) (kind : Kind) :
    (detached number kind).kind = kind := rfl

@[simp] theorem children_detached (number : Nat) (kind : Kind) :
    (detached number kind).children = [] := rfl

@[simp] theorem parent_detached (number : Nat) (kind : Kind) :
    (detached number kind).parent = none := rfl

@[simp] theorem decoration_detached (number : Nat) (kind : Kind) :
    (detached number kind).decoration = none := rfl

@[simp] theorem label_detached (number : Nat) (kind : Kind) :
    (detached number kind).label = "" := rfl

end Node

end SyntaxOutline
