/-!
# The numbers of nodes

A node is known by its number.  Values and forests refer to nodes by it.
-/

namespace MarkupSpec

/-- The number of a node, in order of creation. -/
abbrev NodeId := Nat

end MarkupSpec
