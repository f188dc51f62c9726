/-!
# Text around a mark

A text cut at the last of its marks, which belongs to neither part.
-/

namespace EntitySql.Text

/-- The parts of a text before and after the last of a mark, if it has any. -/
def splitLast? (mark : Char) (s : List Char) : Option (List Char × List Char) :=
  match s.reverse.dropWhile (· != mark) with
  | [] => none
  | _ :: before => some (before.reverse, (s.reverse.takeWhile (· != mark)).reverse)

end EntitySql.Text
