/-!
# Path patterns

A pattern is a text in which **parameters** stand for what varies. A parameter takes all up to the
next slash. That may be nothing where more of the pattern follows; a parameter that ends its pattern
takes at least one character. So there is never more than one way to read a path by a pattern.

In written form a parameter is a name in braces, and a brace that is written twice stands for
itself, also in a name.
-/

namespace ActionGateway

/-- What a pattern is made of: characters that stand for themselves, and parameters. -/
inductive PatternItem
  | literal (c : Char)
  | parameter (name : String)
  deriving DecidableEq, Repr

/-- A pattern, from left to right. -/
abbrev PathPattern := List PatternItem

namespace PathPattern

/-- The pattern without parameters that a text is. -/
def text (s : String) : PathPattern :=
  s.toList.map .literal

/-- Reads the written form. The first argument holds, in reverse, what has been read of a name, if
one has begun. -/
def readFrom : Option (List Char) → List Char → PathPattern
  | none, [] => []
  | none, '\x7b' :: '\x7b' :: rest => .literal '\x7b' :: readFrom none rest
  | none, '\x7d' :: '\x7d' :: rest => .literal '\x7d' :: readFrom none rest
  | none, c :: rest =>
    if c = '\x7b' then readFrom (some []) rest else .literal c :: readFrom none rest
  -- A name that is not closed ends with the text.
  | some name, [] => [.parameter (String.ofList name.reverse)]
  | some name, '\x7b' :: '\x7b' :: rest => readFrom (some ('\x7b' :: name)) rest
  | some name, '\x7d' :: '\x7d' :: rest => readFrom (some ('\x7d' :: name)) rest
  | some name, c :: rest =>
    if c = '\x7d' then .parameter (String.ofList name.reverse) :: readFrom none rest
    else readFrom (some (c :: name)) rest

/-- The pattern of a written form. -/
def read (s : String) : PathPattern :=
  readFrom none s.toList

/-- The parameters with what they take of a path, in order, if the pattern fits the path. -/
def match? : PathPattern → List Char → Option (List (String × String))
  | [], [] => some []
  | .literal c :: pattern, d :: path => if c = d then match? pattern path else none
  | .parameter name :: pattern, path =>
    let taken := path.takeWhile (· ≠ '/')
    if pattern.isEmpty && taken.isEmpty then none
    else
      (match? pattern (path.dropWhile (· ≠ '/'))).map fun found =>
        (name, String.ofList taken) :: found
  | _, _ => none

end PathPattern

end ActionGateway
