/-
  Resource queries — like patterns.

  * `likeTest`: the test of a like criterion.  A pattern with the wildcard in it is a glob, in
    which the wildcard is the gap; any other pattern only has to stand somewhere in the text.
    Both leave case out of account: a glob by simple folding, the other by lower case.

  A glob stands for a regular expression.  The engine of regular expressions is taken to accept
  every one of them.  It does so up to its limit on the size of a compiled expression; beyond it,
  building the filter would end in the coercion error of a `like pattern`, which has no counterpart
  here.
-/
import ResourceQuery.Filter.Glob
import ResourceQuery.Text.LowerCase

namespace ResourceQuery

/-- A pattern without regard to case. -/
def Glob.fold (g : Glob) : Glob :=
  g.map fun
    | .char c => .char (Text.foldChar c)
    | .gap => .gap

/-- The test of a like criterion on a text.  A glob is one that the engine of regular expressions
    accepts, within its limit on size. -/
def likeTest (wildcard : Option Char) (pattern t : Text) : Bool :=
  match wildcard.filter pattern.contains with
  | some w => ((Glob.ofPattern w pattern).fold).accepts (Text.fold t)
  | none => Text.hasPart (Text.toLowerCase pattern) (Text.toLowerCase t)

end ResourceQuery
