import FishScript.Text.LetterCase

/-!
# Lower case

The lower case of a text is that of its code points, with two exceptions: the dotted
capital I becomes an i and a dot above, and a capital sigma becomes a final sigma at
the end of a word.

## Main definitions

- `Text.endsWord` — whether a sigma stands at the end of a word
- `Text.lowercase` — the lower case of a text
-/

namespace FishScript

namespace Text

/-- Whether the letter nearest to the start of a text, if any, has case. -/
def meetsCased (text : Text) : Bool :=
  (text.dropWhile CodePoint.isCaseIgnorable).head?.any CodePoint.isCased

/-- Whether a sigma between two texts stands at the end of a word: a letter comes
before it, and none after it. The text before is given backwards. -/
def endsWord (before after : Text) : Bool :=
  meetsCased before && !meetsCased after

/-- The lower case of what follows `before`, which is given backwards. -/
def lowercaseAfter (before : Text) : Text → Text
  | [] => []
  | c :: rest =>
    (if c = .ofChar 'Σ' then
      [.ofChar (if endsWord before rest then 'ς' else 'σ')]
    else if c = .ofChar 'İ' then
      [.ofChar 'i', .ofChar '\u0307']
    else [c.lower]) ++ lowercaseAfter (c :: before) rest

def lowercase (text : Text) : Text :=
  lowercaseAfter [] text

end Text

end FishScript
