import MeshTrace.Yaml.Cursor

namespace MeshTrace.Yaml

/-- What stands between two words of a scalar: blanks on one line, or line breaks. -/
structure Gap where
  blanks : List Char
  breaks : List Char

namespace Gap

def none : Gap := ⟨[], []⟩

def isEmpty (g : Gap) : Bool := g.blanks.isEmpty && g.breaks.isEmpty

/-- How a gap reads: one line feed is a space, further ones stay. -/
def fold (g : Gap) : List Char :=
  match g.breaks with
  | [] => g.blanks
  | ['\n'] => [' ']
  | '\n' :: more => more
  | other => other

/-- Passes blanks and line breaks. A tab may not stand in the indentation, which is `indent` wide.
Blanks after a line break are not part of the gap. -/
def read? (indent : Int) : Nat → Bool → Gap → Cursor → Option (Gap × Cursor)
  | 0, _, _, _ => Option.none
  | fuel + 1, broken, g, c =>
    if c.onSpace then
      if broken && (c.column : Int) < indent && c.has 0 '\t' then Option.none
      else read? indent fuel broken
        (if broken then g else ⟨g.blanks ++ (c.rest.take 1), g.breaks⟩) c.skip
    else if c.onBreak then
      let (feed, c) := c.readBreak
      read? indent fuel true ⟨[], g.breaks ++ feed⟩ c
    else some (g, c)

end Gap

/-- A scalar that has been read, and where its text goes on. -/
structure Scanned where
  text : List Char
  /-- Whether lines were passed after the last word. -/
  brokeLine : Bool
  cursor : Cursor

namespace Scalar

/-- The signs that end a word in a flow collection. -/
def isFlowSign (c : Char) : Bool :=
  c = ',' || c = '[' || c = ']' || c = '\x7b' || c = '\x7d'

/-- Reads the characters of a word up to a blank, a line end, or a sign that ends a plain scalar. In
a flow collection, a colon right before one of its signs is an error. -/
def plainWord? (flow : Bool) : Nat → List Char → Cursor → Option (List Char × Cursor)
  | 0, _, _ => none
  | fuel + 1, word, c =>
    match c.peek 0 with
    | none => some (word.reverse, c)
    | some x =>
      if isSpace x || isBreak x then some (word.reverse, c)
      else if flow && x = ':' && (c.peek 1).any (fun y => isFlowSign y || y = '?') then none
      else if (x = ':' && c.wordEndsAt 1) || (flow && isFlowSign x) then some (word.reverse, c)
      else plainWord? flow fuel (x :: word) c.skip

/-- Reads a plain scalar, which may go on over lines that are indented by `indent` at least. -/
def plainFrom? (flow : Bool) (indent : Int) : Nat → List Char → Gap → Cursor → Option Scanned
  | 0, _, _, _ => none
  | fuel + 1, text, gap, c =>
    if c.onDocumentMark || c.has 0 '#' then some ⟨text, !gap.breaks.isEmpty, c⟩
    else
      match plainWord? flow (c.rest.length + 1) [] c with
      | none => none
      | some ([], c) => some ⟨text, !gap.breaks.isEmpty, c⟩
      | some (word, c) =>
        let text := text ++ gap.fold ++ word
        match Gap.none.read? indent (c.rest.length + 1) false c with
        | none => none
        | some (gap, c) =>
          if gap.isEmpty || (!flow && (c.column : Int) < indent) then
            some ⟨text, !gap.breaks.isEmpty, c⟩
          else plainFrom? flow indent fuel text gap c

/-- Reads a plain scalar. -/
def plain? (flow : Bool) (indent : Int) (c : Cursor) : Option Scanned :=
  plainFrom? flow indent (c.rest.length + 1) [] .none c

/-- The number that hexadecimal digits write. -/
def hexNumber? (digits : List Char) : Option Nat :=
  digits.foldlM (fun n c =>
    if c.isDigit then some (n * 16 + (c.toNat - 0x30))
    else if 'a' ≤ c && c ≤ 'f' then some (n * 16 + (c.toNat - 0x61 + 10))
    else if 'A' ≤ c && c ≤ 'F' then some (n * 16 + (c.toNat - 0x41 + 10))
    else none) 0

/-- Reads the character with a number of `width` hexadecimal digits. -/
def numbered? (width : Nat) (c : Cursor) : Option (Char × Cursor) := do
  let digits := c.rest.take width
  if digits.length < width then none
  else
    let n ← hexNumber? digits
    if h : n.isValidChar then some (Char.ofNatAux n h, c.skipMany width) else none

/-- The character that an escape of one letter stands for. -/
def escaped? : Char → Option Char
  | '0' => some (Char.ofNat 0)
  | 'a' => some (Char.ofNat 0x07)
  | 'b' => some (Char.ofNat 0x08)
  | 't' => some '\t'
  | '\t' => some '\t'
  | 'n' => some '\n'
  | 'v' => some (Char.ofNat 0x0B)
  | 'f' => some (Char.ofNat 0x0C)
  | 'r' => some '\r'
  | 'e' => some (Char.ofNat 0x1B)
  | ' ' => some ' '
  | '"' => some '"'
  | '/' => some '/'
  | '\\' => some '\\'
  | 'N' => some (Char.ofNat 0x85)
  | '_' => some (Char.ofNat 0xA0)
  | 'L' => some (Char.ofNat 0x2028)
  | 'P' => some (Char.ofNat 0x2029)
  | _ => none

/-- Reads an escape after its backslash. -/
def escape? (c : Cursor) : Option (Char × Cursor) := do
  let x ← c.peek 0
  match x with
  | 'x' => numbered? 2 c.skip
  | 'u' => numbered? 4 c.skip
  | 'U' => numbered? 8 c.skip
  | _ => (escaped? x).map fun y => (y, c.skip)

/-- A word of a quoted scalar, and whether it ends with an escaped line break. -/
structure QuotedWord where
  text : List Char
  joined : Bool
  cursor : Cursor

/-- Reads the characters of a quoted scalar up to a blank, a line end or the closing quote. -/
def quotedWord? (quote : Char) : Nat → List Char → Cursor → Option QuotedWord
  | 0, _, _ => none
  | fuel + 1, word, c =>
    match c.peek 0 with
    | none => some ⟨word.reverse, false, c⟩
    | some x =>
      if isSpace x || isBreak x then some ⟨word.reverse, false, c⟩
      else if quote = '\'' && x = '\'' && c.has 1 '\'' then
        quotedWord? quote fuel ('\'' :: word) (c.skipMany 2)
      else if x = quote then some ⟨word.reverse, false, c⟩
      else if quote = '"' && x = '\\' then
        if (c.peek 1).any isBreak then some ⟨word.reverse, true, c.skip.skipBreak⟩
        else
          match escape? c.skip with
          | none => none
          | some (y, c) => quotedWord? quote fuel (y :: word) c
      else quotedWord? quote fuel (x :: word) c.skip

/-- Reads a quoted scalar from behind its opening quote to behind its closing quote. After an escaped
line break all further breaks stay. -/
def quotedFrom? (quote : Char) : Nat → List Char → Cursor → Option (List Char × Cursor)
  | 0, _, _ => none
  | fuel + 1, text, c =>
    if c.onDocumentMark || c.atEnd then none
    else do
      let word ← quotedWord? quote (c.rest.length + 1) [] c
      let text := text ++ word.text
      let c := word.cursor
      if c.has 0 quote then some (text, c.skip)
      else
        let (gap, c) ← Gap.none.read? 0 (c.rest.length + 1) word.joined c
        quotedFrom? quote fuel (text ++ if word.joined then gap.breaks else gap.fold) c

/-- Reads a quoted scalar whose opening quote is here. -/
def quoted? (quote : Char) (c : Cursor) : Option (List Char × Cursor) :=
  quotedFrom? quote (c.rest.length + 1) [] c.skip

/-- The breaks between the lines of a block scalar, and the place after the indentation of the next
line. -/
structure BlockBreaks where
  breaks : List Char
  widest : Nat
  cursor : Cursor

/-- Passes blank lines and the indentation of a block scalar; `indent` is zero if it is not known. -/
def blockBreaks? (indent : Nat) : Nat → List Char → Nat → Cursor → Option BlockBreaks
  | 0, _, _, _ => none
  | fuel + 1, breaks, widest, c =>
    let here := (c.front (· = ' ')).length
    let c := c.skipMany (if indent = 0 then here else min here (indent - c.column))
    let widest := max widest c.column
    if (indent = 0 || c.column < indent) && c.has 0 '\t' then none
    else if c.onBreak then
      let (feed, c) := c.readBreak
      blockBreaks? indent fuel (breaks ++ feed) widest c
    else some ⟨breaks, widest, c⟩

/-- How a block scalar ends: without a line feed, with one, or with all. -/
inductive Chomping
  | strip
  | clip
  | keep
  deriving DecidableEq, Repr

/-- The lines of a block scalar so far: the text, the break after it, whether the last line starts
with a blank, and the breaks after that. -/
structure BlockState where
  text : List Char
  leadingBreak : List Char
  leadingBlank : Bool
  trailing : List Char

/-- Reads the lines of a block scalar. In a folded one, a single line feed between two lines that do
not start with a blank reads as a space. -/
def blockLines? (literal : Bool) (indent : Nat) :
    Nat → BlockState → Cursor → Option (BlockState × Cursor)
  | 0, _, _ => none
  | fuel + 1, s, c =>
    if c.column ≠ indent || c.atEnd then some (s, c)
    else do
      let startsBlank := c.onSpace
      let folded := !literal && s.leadingBreak = ['\n'] && !s.leadingBlank && !startsBlank
      let join := if folded then (if s.trailing.isEmpty then [' '] else []) else s.leadingBreak
      let line := c.front (!isBreak ·)
      let (feed, next) := (c.skipMany line.length).readBreak
      let b ← blockBreaks? indent (next.rest.length + 1) [] 0 next
      blockLines? literal indent fuel
        ⟨s.text ++ join ++ s.trailing ++ line, feed, startsBlank, b.breaks⟩ b.cursor

/-- The chomping sign that is here. -/
def chomping? (c : Cursor) : Option Chomping :=
  if c.has 0 '+' then some .keep else if c.has 0 '-' then some .strip else none

/-- The digit of an indentation that is here. -/
def increment? (c : Cursor) : Option Nat :=
  ((c.peek 0).filter Char.isDigit).map fun x => x.toNat - 0x30

/-- Reads the head of a block scalar after its sign: chomping and indentation in either order; the
indentation is zero if it is not given, and must not be given as zero. -/
def blockHead? (c : Cursor) : Option (Chomping × Nat × Cursor) :=
  match chomping? c with
  | some chomping =>
    match increment? c.skip with
    | some 0 => none
    | some n => some (chomping, n, c.skip.skip)
    | none => some (chomping, 0, c.skip)
  | none =>
    match increment? c with
    | some 0 => none
    | some n =>
      match chomping? c.skip with
      | some chomping => some (chomping, n, c.skip.skip)
      | none => some (.clip, n, c.skip)
    | none => some (.clip, 0, c)

/-- Reads a block scalar whose sign is here, inside a collection that is indented by `outer`. -/
def block? (literal : Bool) (outer : Int) (c : Cursor) : Option (List Char × Cursor) := do
  let (chomping, increment, c) ← blockHead? c.skip
  let c ← c.endOfLine?
  let given : Nat := if increment = 0 then 0 else (max outer 0).toNat + increment
  let b ← blockBreaks? given (c.rest.length + 1) [] 0 c
  let indent := if given = 0 then max (max b.widest (outer + 1).toNat) 1 else given
  let (s, c) ← blockLines? literal indent (c.rest.length + 1) ⟨[], [], false, b.breaks⟩ b.cursor
  return (s.text ++ (if chomping = .strip then [] else s.leadingBreak) ++
    (if chomping = .keep then s.trailing else []), c)

end Scalar

end MeshTrace.Yaml
