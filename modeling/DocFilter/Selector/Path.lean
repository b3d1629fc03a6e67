/-!
# Dotted paths

A path is a list of keys with dots between them; a dot that belongs to a key is written with a
backslash in front. An empty key at the end of a path is dropped, others count.
-/

namespace DocFilter.Path

/-- The keys of a path, `current` being the part of the first key that has been read. -/
def splitFrom (current : List Char) : List Char → List (List Char)
  | [] => if current.isEmpty then [] else [current]
  | '\\' :: '.' :: cs => splitFrom (current ++ ['.']) cs
  | '.' :: cs => current :: splitFrom [] cs
  | c :: cs => splitFrom (current ++ [c]) cs

/-- The keys of a path. -/
def split (path : List Char) : List (List Char) :=
  splitFrom [] path

/-- A key with a backslash in front of each of its dots. -/
def escapeDots (key : List Char) : List Char :=
  key.flatMap fun c => if c = '.' then ['\\', '.'] else [c]

/-- The keys of a path, as texts. -/
def keys (path : String) : List String :=
  (split path.toList).map String.ofList

end DocFilter.Path
