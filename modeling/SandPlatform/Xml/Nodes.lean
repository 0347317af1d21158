import SandPlatform.Xml.Reading

/-!
# Nodes

The children of a node of tinyxml2 are a list that begins with its first child and goes
on by the next sibling of each.  Every node is kept here in front of its next siblings;
an element has its first child besides.  What stands for a string is a parameter: a part
of the text while it is parsed, and the value of that part afterwards.
-/

namespace SandPlatform.Xml

universe u v

/-- The nodes without children.  A text with `CData` is a kind of its own. -/
inductive LeafKind
  | text
  | cdata
  | comment
  | declaration
  | unknown
  deriving DecidableEq

/-- A node without children: its kind and its value. -/
structure Leaf (α : Type u) where
  kind : LeafKind
  value : α
  deriving DecidableEq

/-- A name and a value. -/
structure Attribute (α : Type u) where
  name : α
  value : α
  deriving DecidableEq

/-- The siblings from a node on, as `_next` and `_firstChild` lead to them. -/
inductive Nodes (α : Type u)
  | nil
  | leaf (node : Leaf α) (next : Nodes α)
  | element (name : α) (attributes : List (Attribute α)) (firstChild next : Nodes α)
  deriving DecidableEq

namespace Nodes

variable {α : Type u} {β : Type v}

/-- The nodes of the first list, with those of the second one as their next siblings. -/
def append : Nodes α → Nodes α → Nodes α
  | nil, others => others
  | leaf node next, others => leaf node (next.append others)
  | element name attributes firstChild next, others =>
      element name attributes firstChild (next.append others)

@[simp]
theorem append_nil (nodes : Nodes α) : nodes.append nil = nodes := by
  induction nodes with
  | nil => rfl
  | leaf node next ih => rw [append, ih]
  | element name attributes firstChild next _ ih => rw [append, ih]

theorem append_assoc (first second third : Nodes α) :
    (first.append second).append third = first.append (second.append third) := by
  induction first with
  | nil => rfl
  | leaf node next ih => rw [append, append, append, ih]
  | element name attributes firstChild next _ ih => rw [append, append, append, ih]

end Nodes

end SandPlatform.Xml
