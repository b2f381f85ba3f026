/- Sets of code points, written as the points where membership changes.
   A property of a standard comes as long runs of code points; `flips` lists,
   in ascending order, the first code point of each run and of each gap, so a
   code point is a member exactly when an odd number of flips is at or below it. -/
namespace ScriptHost.Text

/-- A set of code points, given by its changes of membership in ascending order. -/
structure CodeSet where
  flips : List Nat

namespace CodeSet

/-- Whether a code point is a member, from the changes still ahead and the membership before
    them. -/
def member (n : Nat) : List Nat → Bool → Bool
  | [], inside => inside
  | flip :: rest, inside => if n < flip then inside else member n rest (!inside)

def contains (s : CodeSet) (c : Char) : Bool :=
  member c.toNat s.flips false

end CodeSet
end ScriptHost.Text
