import LintRemedy.Text.Blank
import LintRemedy.Text.Search

/-!
This module contains path names: their short form for display, their joining, and their resolution
to absolute names without looking at any file.
-/

namespace LintRemedy
namespace Path

def isAbsolute (path : String) : Bool :=
  path.toList.head? == some '/'

/-- The last component of a path for display, with either slash as separator. A path that ends in a
slash is shown whole. -/
def shortName (path : String) : String :=
  let unified := path.toList.map fun c => if c = '\\' then '/' else c
  let last := (unified.reverse.takeWhile (· ≠ '/')).reverse
  String.ofList (if last.isEmpty then unified else last)

/-- The path of `path` seen from the directory `base`. -/
def join (base path : String) : String :=
  if isAbsolute path then path
  else if base = "" ∨ base.toList.getLast? = some '/' then base ++ path
  else base ++ "/" ++ path

/-- The slashes at the start of a normal path: two are kept, three or more count as one. -/
def rootOf (path : List Char) : List Char :=
  match path with
  | '/' :: '/' :: '/' :: _ => ['/']
  | '/' :: '/' :: _ => ['/', '/']
  | '/' :: _ => ['/']
  | _ => []

/-- Adds a component to the components so far, which come last first: `..` takes one back where
there is one to take. -/
def push (rooted : Bool) (done : List (List Char)) (component : List Char) : List (List Char) :=
  if component = [] ∨ component = ['.'] then done
  else if component = ['.', '.'] then
    match done with
    | [] => if rooted then [] else [component]
    | last :: before => if last = ['.', '.'] then component :: done else before
  else component :: done

/-- The path without empty components, `.` and `..` where it can be resolved. -/
def normalize (path : String) : String :=
  let cs := path.toList
  let root := rootOf cs
  let components := ((Text.splitAt '/' cs).foldl (push (!root.isEmpty)) []).reverse
  let normal := root ++ (List.intersperse ['/'] components).flatten
  if normal.isEmpty then "." else String.ofList normal

/-- The absolute name of a path seen from the working directory. -/
def absolute (workDir path : String) : String :=
  normalize (join workDir path)

/-- The absolute name of a target that is given relative to a project. -/
def inProject (workDir root target : String) : String :=
  absolute workDir (join root target)

/-- The directory part of a path: all before the last slash, without slashes at its end unless it
holds nothing else. -/
def directory (path : String) : String :=
  let reversed := path.toList.reverse
  let head := (reversed.dropWhile (· ≠ '/')).reverse
  let bare := Text.dropEndWhile (· = '/') head
  String.ofList (if bare.isEmpty then head else bare)

end Path
end LintRemedy
