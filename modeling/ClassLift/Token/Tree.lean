import ClassLift.Token.Store

set_option autoImplicit false

/-! # Token trees

The tree of a slot is what one sees on following the links from it: `Store.tree` follows the
children alone, `Store.fullTree` the comments as well. A shared token stands in the tree once
for every way that leads to it; each node keeps the identity of its token. An empty slot is
`absent`.

What reads a whole tree, to list, write or copy it, is defined on trees. It asks for a tree
without absent parts: `Tree.whole` looks at the children, `Tree.wholeWithComments` at the
comments as well.
-/

namespace ClassLift

/-- A token seen with everything below it. -/
inductive Tree where
  | absent
  | node (id : TokenId) (label : Label) (children comments : List Tree)
  deriving Inhabited

namespace Store

/-- The tree of a slot without comments, down to a depth of `depth` tokens. -/
def treeTo (s : Store) : Nat → Slot → Tree
  | 0, _ => .absent
  | _ + 1, none => .absent
  | depth + 1, some t =>
    .node t (s.cell t).label ((s.cell t).children.map (s.treeTo depth)) []

/-- The tree of a slot with all comments, down to a depth of `depth` tokens. -/
def fullTreeTo (s : Store) : Nat → Slot → Tree
  | 0, _ => .absent
  | _ + 1, none => .absent
  | depth + 1, some t =>
    .node t (s.cell t).label ((s.cell t).children.map (s.fullTreeTo depth))
      ((s.cell t).comments.map (s.fullTreeTo depth))

/-- The tree of a slot, without comments. No way through an acyclic store passes more tokens
than there are, so the number of tokens is depth enough. -/
def tree (s : Store) (slot : Slot) : Tree := s.treeTo s.size slot

/-- The tree of a slot, with all comments. -/
def fullTree (s : Store) (slot : Slot) : Tree := s.fullTreeTo s.size slot

end Store

namespace Tree

/-! ## Trees without absent parts -/

mutual

/-- Is there a token here and at every child below? -/
def whole : Tree → Bool
  | absent => false
  | node _ _ cs _ => allWhole cs

/-- Are all these trees whole? -/
def allWhole : List Tree → Bool
  | [] => true
  | t :: ts => whole t && allWhole ts

end

mutual

/-- Is there a token here and at every child and comment below? -/
def wholeWithComments : Tree → Bool
  | absent => false
  | node _ _ cs ks => allWholeWithComments cs && allWholeWithComments ks

/-- Are all these trees whole, with their comments? -/
def allWholeWithComments : List Tree → Bool
  | [] => true
  | t :: ts => wholeWithComments t && allWholeWithComments ts

end

end Tree

end ClassLift
