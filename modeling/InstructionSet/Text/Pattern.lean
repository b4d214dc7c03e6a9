/-!
# Patterns

A pattern is matched at the front of a text. There may be several ways to match it;
they are tried in order, and the first one counts behind which the rest of the pattern
matches, too. A greedy run tries to take as many characters as it can before it tries
fewer, a lazy run as few as it can before it tries more.

A row of patterns is matched one behind the other up to the end of the text. A pattern
of a row is not tried again once it has matched.
-/

set_option autoImplicit false

namespace InstructionSet.Text

inductive Pattern where
  | literal (text : List Char)
  | greedy (member : Char → Bool)
  | lazy (member : Char → Bool)
  /-- The text that is taken is kept. -/
  | group (body : Pattern)
  /-- Nothing is taken, but the text must go on like this. -/
  | ahead (body : Pattern)
  | andThen (first second : Pattern)

namespace Pattern

/-- What stands behind a match, and the text that its group took. -/
structure Match where
  rest : List Char
  kept : List Char := []
deriving DecidableEq, Repr

def greedyRun (member : Char → Bool) (next : List Char → Option Match) : List Char → Option Match
  | [] => next []
  | c :: rest =>
      if member c then (greedyRun member next rest).or (next (c :: rest)) else next (c :: rest)

def lazyRun (member : Char → Bool) (next : List Char → Option Match) : List Char → Option Match
  | [] => next []
  | c :: rest =>
      (next (c :: rest)).or (if member c then lazyRun member next rest else none)

/-- The first way to match a pattern behind which `next` matches. -/
def attempt : Pattern → (Match → Option Match) → Match → Option Match
  | .literal text, next, place =>
      if text.isPrefixOf place.rest then
        next { place with rest := place.rest.drop text.length }
      else none
  | .greedy member, next, place =>
      greedyRun member (fun rest => next { place with rest }) place.rest
  | .lazy member, next, place =>
      lazyRun member (fun rest => next { place with rest }) place.rest
  | .group body, next, place =>
      body.attempt
        (fun after =>
          next { after with kept := place.rest.take (place.rest.length - after.rest.length) })
        place
  | .ahead body, next, place => if (body.attempt some place).isSome then next place else none
  | .andThen first second, next, place => first.attempt (second.attempt next) place

def match? (pattern : Pattern) (text : List Char) : Option Match := pattern.attempt some ⟨text, []⟩

/-- The texts kept by the patterns of a row that matches a whole text. -/
def matchRow? : List Pattern → List Char → Option (List (List Char))
  | [], text => if text.isEmpty then some [] else none
  | pattern :: row, text => do
      let found ← pattern.match? text
      let kept ← matchRow? row found.rest
      return found.kept :: kept

end Pattern

end InstructionSet.Text
