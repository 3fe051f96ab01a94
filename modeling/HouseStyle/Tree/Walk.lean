/-!
Walking a graph of nodes with ids. The walk keeps a stack of nodes still to be looked at and the ids not
visited so far; a node whose id was visited before is passed over. The list of unvisited ids shrinks with
every visit, so the walk ends whatever the children are.
-/

set_option autoImplicit false
namespace HouseStyle

section
variable {α ι : Type} [DecidableEq ι]

/-- The nodes visited from the stack on, in order, when only the ids in `unvisited` may be visited. -/
def walkStack (children : α → List α) (id : α → ι) (unvisited : List ι) : List α → List α
  | [] => []
  | node :: stack =>
    if unvisited.contains (id node) then
      node :: walkStack children id (unvisited.erase (id node)) (children node ++ stack)
    else walkStack children id unvisited stack
termination_by stack => (unvisited.length, stack.length)
decreasing_by
  · next fresh =>
    have found : id node ∈ unvisited := by simpa using fresh
    have shorter := List.length_erase_of_mem found
    have some := List.length_pos_of_mem found
    exact Prod.Lex.left _ _ (by omega)
  · exact Prod.Lex.right _ (Nat.lt_succ_self _)

def walk (children : α → List α) (id : α → ι) (ids : List ι) (root : α) : List α :=
  walkStack children id ids [root]

end
end HouseStyle
