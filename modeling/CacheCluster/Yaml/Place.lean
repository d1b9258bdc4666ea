/-!
# Places in a YAML text

The characters ahead with the line and the column, and the classes of characters that YAML tells
apart.  The end of the text counts as a break and as a blank where one of them is looked for.

## Main definitions

* `isBreak`, `isBlank`, `isWordChar`, `isAllowed` : classes of characters.
* `Place` : a place in a text.
* `Place.skip`, `Place.skipWhile`, `Place.readBreak` : the places after it.
-/

namespace CacheCluster.Yaml

/-- Whether a character ends a line. -/
def isBreak (c : Char) : Bool :=
  c = '\n' || c = '\r' || c.toNat = 0x85 || c.toNat = 0x2028 || c.toNat = 0x2029

/-- Whether a character is a space or a tab. -/
def isBlank (c : Char) : Bool := c = ' ' || c = '\t'

/-- Whether a character may stand in the name of an anchor. -/
def isWordChar (c : Char) : Bool := c.isAlphanum || c = '_' || c = '-'

/-- Whether a character may stand in a text at all. -/
def isAllowed (c : Char) : Bool :=
  let n := c.toNat
  n = 0x9 || n = 0xA || n = 0xD || (0x20 ≤ n && n ≤ 0x7E) || n = 0x85 ||
    (0xA0 ≤ n && n ≤ 0xFFFD) || 0x10000 ≤ n

/-- Whether a line ends before the character, or the text. -/
def endsLine (c? : Option Char) : Bool := c?.all isBreak

/-- Whether a word ends before the character, or the text. -/
def endsWord (c? : Option Char) : Bool := c?.all fun c => isBlank c || isBreak c

/-- A place in a text. -/
structure Place where
  rest : List Char
  index : Nat
  line : Nat
  column : Nat

namespace Place

/-- The first place of a text. -/
def first (cs : List Char) : Place := ⟨cs, 0, 0, 0⟩

/-- The character ahead. -/
def char? (p : Place) : Option Char := p.rest.head?

/-- A character further ahead. -/
def at? (p : Place) (k : Nat) : Option Char := p.rest[k]?

/-- Whether a given character is ahead. -/
def looksAt (p : Place) (c : Char) : Bool := p.char? == some c

/-- The place some characters of the line further. -/
def skip (n : Nat) (p : Place) : Place :=
  ⟨p.rest.drop n, p.index + n, p.line, p.column + n⟩

/-- The place after the characters of a class. -/
def skipWhile (f : Char → Bool) (p : Place) : Place := p.skip (p.rest.takeWhile f).length

/-- The place after the spaces and tabs ahead, and after a comment. -/
def skipComment (p : Place) : Place :=
  let p := p.skipWhile isBlank
  if p.looksAt '#' then p.skipWhile fun c => !isBreak c else p

/-- The start of the next line, if a line break is ahead, with the text of the break. -/
def readBreak (p : Place) : List Char × Place :=
  match p.rest with
  | '\r' :: '\n' :: rest => (['\n'], ⟨rest, p.index + 2, p.line + 1, 0⟩)
  | c :: rest =>
    if isBreak c then
      let text := if c.toNat = 0x2028 ∨ c.toNat = 0x2029 then c else '\n'
      ([text], ⟨rest, p.index + 1, p.line + 1, 0⟩)
    else ([], p)
  | [] => ([], p)

/-- The start of the next line, if a line break is ahead. -/
def skipBreak (p : Place) : Place := p.readBreak.2

/-- Whether three equal characters that mark the border of a document are ahead. -/
def looksAtBorder (p : Place) (c : Char) : Bool :=
  p.column == 0 && p.rest.take 3 == [c, c, c] && endsWord (p.at? 3)

/-- Whether any border of a document is ahead. -/
def atBorder (p : Place) : Bool := p.looksAtBorder '-' || p.looksAtBorder '.'

end Place

/-! ## Gaps -/

/-- Blanks and line breaks between the words of a scalar.  Once a line is broken, blanks do not
count any more. -/
structure Gap where
  broken : Bool
  blanks : List Char
  leading : List Char
  trailing : List Char

/-- No gap. -/
def Gap.empty : Gap := ⟨false, [], [], []⟩

/-- What a gap stands for: a single line feed is folded into a space. -/
def Gap.text (g : Gap) : List Char :=
  if g.broken then
    if g.leading = ['\n'] then if g.trailing.isEmpty then [' '] else g.trailing
    else g.leading ++ g.trailing
  else g.blanks

/-- Reads a gap on.  A tab must not stand left of the column `limit` in a line of its own; the
fuel bounds the number of characters. -/
def readGap (limit : Int) : Nat → Gap → Place → Option (Gap × Place)
  | 0, g, p => some (g, p)
  | fuel + 1, g, p =>
    match p.char? with
    | none => some (g, p)
    | some c =>
      if isBlank c then
        if g.broken then
          if c = '\t' ∧ (p.column : Int) < limit then none else readGap limit fuel g (p.skip 1)
        else readGap limit fuel { g with blanks := g.blanks ++ [c] } (p.skip 1)
      else if isBreak c then
        let (text, p') := p.readBreak
        if g.broken then readGap limit fuel { g with trailing := g.trailing ++ text } p'
        else readGap limit fuel ⟨true, [], text, g.trailing⟩ p'
      else some (g, p)

end CacheCluster.Yaml
