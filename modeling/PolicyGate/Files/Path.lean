import PolicyGate.Text.Split

/-!
Paths of files, with slashes between their parts. Joining keeps the spelling of both sides.
-/
namespace PolicyGate.Files

def isRelative (path : String) : Bool := path.toList.head? != some '/'

/-- Drops empty parts and single points at the end; a point at the very front is a part of its own. -/
def trimEnd : List (List Char) → List (List Char)
  | [] => []
  | [part] => [part]
  | part :: rest =>
    match trimEnd rest with
    | [] => [part]
    | [last] => if last.isEmpty || last == ['.'] then [part] else [part, last]
    | rest => part :: rest

/-- The directory that a path stands in; neither the root nor the empty path has one. -/
def parent? (path : String) : Option String :=
  let parts := trimEnd (Text.splitOn '/' path.toList)
  match parts with
  | [part] => if part.isEmpty then none else some ""
  | _ =>
    match trimEnd parts.dropLast with
    | [[]] => some "/"
    | parts => some (String.ofList (Text.joinWith '/' parts))

/-- A relative path, seen from a directory. -/
def join (directory path : String) : String :=
  match directory.toList.getLast? with
  | none => path
  | some '/' => directory ++ path
  | some _ => directory ++ "/" ++ path

end PolicyGate.Files
