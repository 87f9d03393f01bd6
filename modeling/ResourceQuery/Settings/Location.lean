/-
  Resource queries — locations of settings files.

  * `Location.replaceExtension?`: a path with the extension of settings files in place of the
    one that it has, if any.
  * `Location.file?`: the path of the file that a name stands for.  A name with an extension of
    another kind keeps it.
  * `Location.content?`: the content of the file of a name.

  A path is a list of pieces between slashes.  Empty pieces and single dots at its end lead
  nowhere, and two dots name no file.  The extension of a piece begins at its last dot, unless
  nothing stands before that.
-/
import ResourceQuery.Text.Basic

namespace ResourceQuery.Location

/-- The extension of settings files. -/
def extension : Text := ".toml".toList

/-- What stands for the extension to be, behind a name that has one of its own. -/
def placeholder : Text := ".dummy".toList

/-- A piece of a path that leads nowhere. -/
def isIdle (piece : Text) : Bool := piece.isEmpty || piece == ['.']

/-- A piece without its extension. -/
def stem (piece : Text) : Text :=
  match piece.reverse.dropWhile (· != '.') with
  | _ :: c :: before => (c :: before).reverse
  | _ => piece

/-- The piece that names the file of a path, and the pieces before it from the last one on. -/
def split? (name : Text) : Option (Text × List Text) :=
  match (Text.split '/' name).reverse.dropWhile isIdle with
  | [] => none
  | last :: before => if last = ['.', '.'] then none else some (last, before)

/-- A path with the extension of settings files in place of its own. -/
def replaceExtension? (name : Text) : Option Text :=
  (split? name).map fun (last, before) =>
    Text.joinWith ['/'] ((stem last ++ extension) :: before).reverse

/-- The path of the file that a name stands for.  An extension of the name is no part to be
    replaced, so the placeholder goes behind the name as it is written: after a slash it is a
    piece of its own. -/
def file? (name : Text) : Option Text :=
  (split? name).bind fun (last, _) =>
    replaceExtension? (if stem last = last then name else name ++ placeholder)

/-- The content of the file of a name, where `read` gives the content of files: the file of
    that very name, or else the one that the name stands for.  A file of that very name without
    the extension is left alone. -/
def content? (read : Text → Option Text) (name : Text) : Option Text :=
  match read name with
  | some t => if replaceExtension? name = some name then some t else none
  | none => (file? name).bind read

end ResourceQuery.Location
