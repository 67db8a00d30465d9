namespace MeshTrace.Yaml

/-- A space or a tab. -/
def isSpace (c : Char) : Bool := c = ' ' || c = '\t'

/-- The characters that end a line. -/
def isBreak (c : Char) : Bool :=
  c = '\n' || c = '\r' || c.toNat = 0x85 || c.toNat = 0x2028 || c.toNat = 0x2029

/-- The characters of names. -/
def isNameChar (c : Char) : Bool := c.isAlphanum || c = '_' || c = '-'

/-- The mark that may stand at the start of a line and means nothing. -/
def isMark (c : Char) : Bool := c.toNat = 0xFEFF

/-- The characters that a text may hold. -/
def isAllowed (c : Char) : Bool :=
  let n := c.toNat
  n = 0x09 || n = 0x0A || n = 0x0D || (0x20 ≤ n && n ≤ 0x7E) || n = 0x85 ||
    (0xA0 ≤ n && n ≤ 0xD7FF) || (0xE000 ≤ n && n ≤ 0xFFFD) || 0x10000 ≤ n

/-- A place in a text: what follows, and where it is. -/
structure Cursor where
  rest : List Char
  index : Nat
  line : Nat
  column : Nat

namespace Cursor

def atStart (cs : List Char) : Cursor := ⟨cs, 0, 0, 0⟩

/-- The `n`th character from here. -/
def peek (c : Cursor) (n : Nat) : Option Char := c.rest[n]?

def atEnd (c : Cursor) : Bool := c.rest.isEmpty

/-- Whether the `n`th character from here is `x`. -/
def has (c : Cursor) (n : Nat) (x : Char) : Bool := c.peek n = some x

/-- Whether a space or tab is here. -/
def onSpace (c : Cursor) : Bool := (c.peek 0).any isSpace

/-- Whether a line ends here, with the text or not. -/
def onBreakOrEnd (c : Cursor) : Bool := (c.peek 0).all isBreak

/-- Whether a line break is here. -/
def onBreak (c : Cursor) : Bool := (c.peek 0).any isBreak

/-- Whether no word goes on at the `n`th character from here. -/
def wordEndsAt (c : Cursor) (n : Nat) : Bool := (c.peek n).all fun x => isSpace x || isBreak x

/-- Passes one character of a line. -/
def skip (c : Cursor) : Cursor := ⟨c.rest.tail, c.index + 1, c.line, c.column + 1⟩

/-- Passes `n` characters of a line. -/
def skipMany (c : Cursor) (n : Nat) : Cursor :=
  ⟨c.rest.drop n, c.index + n, c.line, c.column + n⟩

/-- Passes a line break, if there is one, and says how it reads: the breaks of other systems read as
a line feed, the separators of lines and paragraphs as themselves. -/
def readBreak (c : Cursor) : List Char × Cursor :=
  match c.rest with
  | '\r' :: '\n' :: rest => (['\n'], ⟨rest, c.index + 2, c.line + 1, 0⟩)
  | x :: rest =>
    if isBreak x then
      ([if x.toNat = 0x2028 || x.toNat = 0x2029 then x else '\n'],
        ⟨rest, c.index + 1, c.line + 1, 0⟩)
    else ([], c)
  | [] => ([], c)

/-- Passes a line break, if there is one. -/
def skipBreak (c : Cursor) : Cursor := c.readBreak.2

/-- Passes the characters of a line that are accepted. -/
def skipWhile (accepts : Char → Bool) (c : Cursor) : Cursor :=
  c.skipMany (c.rest.takeWhile accepts).length

/-- The accepted characters from here. -/
def front (accepts : Char → Bool) (c : Cursor) : List Char := c.rest.takeWhile accepts

def skipSpaces (c : Cursor) : Cursor := c.skipWhile isSpace

/-- Passes a comment, if one is here. -/
def skipComment (c : Cursor) : Cursor :=
  if c.has 0 '#' then c.skipWhile (!isBreak ·) else c

/-- Whether a line starts here with a mark of the start or the end of a document. -/
def onDocumentMark (c : Cursor) : Bool :=
  c.column = 0 && c.wordEndsAt 3 &&
    (c.rest.take 3 = ['-', '-', '-'] || c.rest.take 3 = ['.', '.', '.'])

/-- The rest of a line that must hold nothing but a comment, with its break. -/
def endOfLine? (c : Cursor) : Option Cursor :=
  let c := c.skipSpaces.skipComment
  if c.onBreakOrEnd then some c.skipBreak else none

end Cursor

end MeshTrace.Yaml
