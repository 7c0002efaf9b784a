import ParseKit.Text.Basic

/-!
The text of a path: names with slashes between them. What stands at a path is a matter of a storage;
here paths are only taken apart and put together.
-/

namespace ParseKit

namespace Path

def dropTrailing (path : Text) : Text := (path.reverse.dropWhile (· = '/')).reverse

/-- The path of `name` below `folder`; a name that starts at the root stands alone. -/
def join (folder name : Text) : Text :=
  if name.head? = some '/' then name
  else if folder = [] ∨ folder.getLast? = some '/' then folder ++ name
  else folder ++ '/' :: name

def lastName (path : Text) : Text := (path.reverse.takeWhile (· ≠ '/')).reverse

/-- What stands before the last slash; the slashes of the root are kept. -/
def parent (path : Text) : Text :=
  let front := (path.reverse.dropWhile (· ≠ '/')).reverse
  if front.all (· = '/') then front else dropTrailing front

def isAbsolute (path : Text) : Bool := path.head? = some '/'

/-- The names in order; an empty one stands for a slash too many. -/
def names (path : Text) : List Text :=
  if isAbsolute path then Text.splitAll '/' path.tail else Text.splitAll '/' path

/-- The slashes at the start that count: exactly two of them are kept, more are one. -/
def root (path : Text) : Text :=
  match (path.takeWhile (· = '/')).length with
  | 0 => []
  | 2 => ['/', '/']
  | _ => ['/']

/-- The plain spelling of a path: no empty name and no single dot, unless nothing else is left. -/
def plain (path : Text) : Text :=
  let kept := (Text.splitAll '/' path).filter fun name => name ≠ [] ∧ name ≠ ['.']
  let text := root path ++ Text.join ['/'] kept
  if text = [] then ['.'] else text

end Path

end ParseKit
