import FishScript.Script.Keyword
import FishScript.Text.Runs

/-!
# Function blocks

A function block is a header that names a function, closed by a later line
`end`. A header is a line `function name`, or a line `function` whose name stands
alone on the next line that is not blank. One pass over the lines finds out
whether there is a block, with four states and no second look at any line.

## Main definitions

- `Block.isEnd`, `Block.isBareKeyword`, `Block.isHeader`, `Block.isName` — the
  lines that matter to a block
- `Block.Progress` — how much of a block has been seen
- `Block.occursIn` — whether some block occurs in a list of lines
-/

namespace FishScript

namespace Block

/-- A name alone on its line, with blanks around it. -/
def isName (line : Text) : Bool :=
  (Text.word? (line.dropWhile CodePoint.isBlank)).any fun found => Text.isBlank found.2

/-- The closing word with nothing but blanks behind it. -/
def isEnd (line : Text) : Bool :=
  (Text.after? Keyword.blockEnd line).any Text.isBlank

/-- The opening word with nothing but blanks behind it. -/
def isBareKeyword (line : Text) : Bool :=
  (Text.after? Keyword.function line).any Text.isBlank

/-- The opening word and a name, with nothing but blanks behind it. -/
def isHeader (line : Text) : Bool :=
  ((Text.after? Keyword.function line).bind Text.afterBlanks?).any isName

/-- How much of a block the lines so far have shown. -/
inductive Progress where
  /-- No header has begun. -/
  | outside
  /-- The opening word stood alone, and only blank lines have followed. -/
  | awaitingName
  /-- There has been a header. -/
  | opened
  /-- There has been a header and, after it, the closing word. -/
  | closed
deriving DecidableEq

namespace Progress

/-- The progress that a line makes when no header has begun. -/
def ofLine (line : Text) : Progress :=
  if isBareKeyword line then .awaitingName
  else if isHeader line then .opened
  else .outside

/-- The progress after one more line. A line that is no name ends the wait for
one, and may begin a header itself. -/
def next : Progress → (line : Text) → Progress
  | .outside, line => ofLine line
  | .awaitingName, line =>
    if Text.isBlank line then .awaitingName
    else if isName line then .opened
    else ofLine line
  | .opened, line => if isEnd line then .closed else .opened
  | .closed, _ => .closed

end Progress

def occursIn (lines : List Text) : Bool :=
  lines.foldl Progress.next .outside == .closed

end Block

end FishScript
