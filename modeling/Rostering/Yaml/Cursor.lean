/-!
# Yaml.Cursor — a place in YAML text

A cursor is the rest of the text together with the number of characters, lines and columns before
it. Columns matter because indentation is structure, and character counts because a key that is
not marked as one may only span so many of them. `Cursor.end` stands for the end of the text; it
cannot occur inside, since text is checked by `isAllowed` first.
-/

namespace Rostering.Yaml

/-! ## Classes of characters -/

/-- The character that stands for the end of the text. -/
def endMark : Char := Char.ofNat 0

/-- Characters that YAML text may contain. -/
def isAllowed (c : Char) : Bool :=
  let n := c.toNat
  n == 0x09 || n == 0x0A || n == 0x0D || (0x20 ≤ n && n ≤ 0x7E) || n == 0x85
    || (0xA0 ≤ n && n ≤ 0xFFFD) || 0x10000 ≤ n

def isBreak (c : Char) : Bool :=
  c == '\n' || c == '\r' || c.toNat == 0x85 || c.toNat == 0x2028 || c.toNat == 0x2029

/-- A line end or the end of the text. -/
def isBreakOrEnd (c : Char) : Bool := c == endMark || isBreak c

/-- A blank, a line end or the end of the text. -/
def isBlankOrEnd (c : Char) : Bool := c == ' ' || isBreakOrEnd c

/-- A blank, a tab, a line end or the end of the text. -/
def isSpaceOrEnd (c : Char) : Bool := c == '\t' || isBlankOrEnd c

def isNameChar (c : Char) : Bool := c.isAlphanum || c == '-' || c == '_'

/-! ## Cursors -/

/-- A place in a text. -/
structure Cursor where
  rest : List Char
  index : Nat
  line : Nat
  column : Nat

namespace Cursor

def start (text : String) : Cursor := ⟨text.toList, 0, 0, 0⟩

def peek (c : Cursor) : Char := c.rest.headD endMark

def peekAt (c : Cursor) (ahead : Nat) : Char := c.rest[ahead]?.getD endMark

def ahead (c : Cursor) (count : Nat) : List Char := c.rest.take count

/-- Steps over one character. A carriage return ends its line unless a line feed follows. -/
def next (c : Cursor) : Cursor :=
  match c.rest with
  | [] => c
  | ch :: rest =>
    if (isBreak ch && ch != '\r') || (ch == '\r' && rest.head? != some '\n') then
      ⟨rest, c.index + 1, c.line + 1, 0⟩
    else if ch.toNat = 0xFEFF then ⟨rest, c.index + 1, c.line, c.column⟩
    else ⟨rest, c.index + 1, c.line, c.column + 1⟩

def skip (c : Cursor) (count : Nat) : Cursor := count.repeat next c

def takeWhile (c : Cursor) (p : Char → Bool) : List Char × Cursor :=
  let taken := c.rest.takeWhile p
  (taken, c.skip taken.length)

def skipWhile (c : Cursor) (p : Char → Bool) : Cursor := (c.takeWhile p).2

/-- Takes a line end, if one is here. The usual ones all count as a line feed. -/
def takeBreak (c : Cursor) : List Char × Cursor :=
  let ch := c.peek
  if ch == '\r' && c.peekAt 1 == '\n' then (['\n'], c.skip 2)
  else if ch == '\r' || ch == '\n' || ch.toNat == 0x85 then (['\n'], c.next)
  else if isBreak ch then ([ch], c.next)
  else ([], c)

/-- Three dashes or points with white space behind them stand here. -/
def atDocumentMark (c : Cursor) : Bool :=
  (c.ahead 3 == ['-', '-', '-'] || c.ahead 3 == ['.', '.', '.']) && isSpaceOrEnd (c.peekAt 3)

/-- Steps over blanks and a comment, up to the end of the line; nothing else may stand there. -/
def skipLineRest (c : Cursor) : Option Cursor :=
  let c := c.skipWhile (· == ' ')
  let c := if c.peek == '#' then c.skipWhile (!isBreak ·) else c
  if isBreakOrEnd c.peek then some c.takeBreak.2 else none

end Cursor

end Rostering.Yaml
