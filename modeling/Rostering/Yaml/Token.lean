import Rostering.Yaml.ScalarText

/-!
# Yaml.Token — YAML text as tokens

`tokens?` cuts a text into the tokens that its structure is read from. Block structure is shown by
indentation, so the scan keeps a stack of the columns of open blocks (`Scan.indents`) and writes
the tokens that open and close blocks itself.

Whether a scalar is a key shows only at the colon behind it. The scan therefore remembers, for
each nesting of brackets, where the last thing stood that might be a key (`Candidate`), and at a
colon puts the key token, and if need be the one that opens a mapping, in front of it. A candidate
lapses when its line ends or after 1024 characters; one that had to be a key, because it stands at
the indentation of its block, makes the text malformed when it lapses.
-/

namespace Rostering.Yaml

/-! ## Tokens -/

/-- A piece of structure or content. -/
inductive Token where
  | version (major : Nat)
  | tagHandle (handle : String) (stem : String)
  | otherDirective
  | documentStart
  | documentEnd
  | blockSequenceStart
  | blockMappingStart
  | blockEnd
  | flowSequenceStart
  | flowSequenceEnd
  | flowMappingStart
  | flowMappingEnd
  | blockEntry
  | flowEntry
  | key
  | value
  | alias (name : String)
  | anchor (name : String)
  | tag (handle : Option String) (suffix : String)
  | scalar (text : String) (plain : Bool)
  deriving DecidableEq

/-! ## Names, tags and directives -/

/-- Takes a name, which must not be empty. -/
def takeName (c : Cursor) : Option (String × Cursor) :=
  let (name, c) := c.takeWhile isNameChar
  if name.isEmpty then none else some (String.ofList name, c)

/-- Takes an anchor or alias, from its sign on. -/
def takeAnchor (c : Cursor) : Option (String × Cursor) := do
  let (name, c) ← takeName c.next
  guard (isSpaceOrEnd c.peek || "?:,]\x7d%@\x60".contains c.peek)
  some (name, c)

def isTagChar (c : Char) : Bool := c.isAlphanum || "-;/?:@&=+$,_.!~*\x27()[]".contains c

/-- Takes bytes written as a percent sign and two digits. -/
def takeEscapedBytes : (fuel : Nat) → Cursor → Option (List UInt8 × Cursor)
  | 0, _ => none
  | fuel + 1, c =>
    if c.peek == '%' then do
      let high ← Json.hexValue? (c.peekAt 1)
      let low ← Json.hexValue? (c.peekAt 2)
      let (more, c) ← takeEscapedBytes fuel (c.skip 3)
      some (UInt8.ofNat (high * 16 + low) :: more, c)
    else some ([], c)

/-- Takes the characters of a tag. -/
def takeTagChars : (fuel : Nat) → Cursor → Option (List Char × Cursor)
  | 0, _ => none
  | fuel + 1, c =>
    let (part, c) := c.takeWhile isTagChar
    if c.peek == '%' then do
      let (bytes, c) ← takeEscapedBytes c.fuel c
      let text ← String.fromUTF8? (ByteArray.mk bytes.toArray)
      let (more, c) ← takeTagChars fuel c
      some (part ++ text.toList ++ more, c)
    else some (part, c)

/-- Takes the end of a tag, which must not be empty. -/
def takeTagText (c : Cursor) : Option (String × Cursor) := do
  let (text, c) ← takeTagChars c.fuel c
  guard (!text.isEmpty)
  some (String.ofList text, c)

/-- Takes the handle of a tag: an exclamation mark, or a name between two of them. -/
def takeTagHandle (c : Cursor) : Option (String × Cursor) :=
  if c.peek != '!' then none
  else
    let (name, after) := c.next.takeWhile isNameChar
    if c.peekAt 1 == ' ' then some ("!", c.next)
    else if after.peek == '!' then some ("!" ++ String.ofList name ++ "!", after.next)
    else none

def takeTag (c : Cursor) : Option (Token × Cursor) := do
  let (token, c) ←
    if c.peekAt 1 == '<' then do
      let (text, c) ← takeTagText (c.skip 2)
      guard (c.peek == '>')
      some (Token.tag none text, c.next)
    else if isSpaceOrEnd (c.peekAt 1) then some (Token.tag none "!", c.next)
    else
      let word := c.next.rest.takeWhile (!isBlankOrEnd ·)
      if word.contains '!' then do
        let (handle, c) ← takeTagHandle c
        let (text, c) ← takeTagText c
        some (Token.tag (some handle) text, c)
      else do
        let (text, c) ← takeTagText c.next
        some (Token.tag (some "!") text, c)
  guard (isBlankOrEnd c.peek)
  some (token, c)

/-- Takes decimal digits, which must not be empty. -/
def takeDigits (c : Cursor) : Option (Nat × Cursor) :=
  let (digits, c) := c.takeWhile Char.isDigit
  if digits.isEmpty then none else some (digitsValue digits, c)

/-- Takes a directive, from its percent sign to the end of its line. -/
def takeDirective (c : Cursor) : Option (Token × Cursor) := do
  let (name, c) ← takeName c.next
  guard (isBlankOrEnd c.peek)
  let (token, c) ←
    if name == "YAML" then do
      let (major, c) ← takeDigits (c.skipWhile (· == ' '))
      guard (c.peek == '.')
      let (_, c) ← takeDigits c.next
      guard (isBlankOrEnd c.peek)
      some (Token.version major, c)
    else if name == "TAG" then do
      let (handle, c) ← takeTagHandle (c.skipWhile (· == ' '))
      guard (c.peek == ' ')
      let (stem, c) ← takeTagText (c.skipWhile (· == ' '))
      guard (isBlankOrEnd c.peek)
      some (Token.tagHandle handle stem, c)
    else some (Token.otherDirective, c.skipWhile (!isBreak ·))
  let c ← c.skipLineRest
  some (token, c)

/-! ## The state of a scan -/

/-- Something that is a key if a colon follows: the place for its token, where it stands, and
whether it has to be one. -/
structure Candidate where
  position : Nat
  required : Bool
  index : Nat
  line : Nat
  column : Nat

/-- A scan so far. The column of the innermost block is -1 outside of all blocks. -/
structure Scan where
  cursor : Cursor
  tokens : Array Token
  flowLevel : Nat
  indent : Int
  indents : List Int
  keyAllowed : Bool
  candidates : List (Nat × Candidate)

namespace Scan

def start (text : String) : Scan := ⟨Cursor.start text, #[], 0, -1, [], true, []⟩

def inFlow (s : Scan) : Bool := s.flowLevel > 0

def column (s : Scan) : Int := Int.ofNat s.cursor.column

def push (s : Scan) (t : Token) : Scan := { s with tokens := s.tokens.push t }

/-- Steps over blanks, comments and line ends. Behind a line end outside of brackets a key may
start. -/
def skipSpace : (fuel : Nat) → Scan → Scan
  | 0, s => s
  | fuel + 1, s =>
    let c := s.cursor.skipWhile (· == ' ')
    let c := if c.peek == '#' then c.skipWhile (!isBreak ·) else c
    if isBreak c.peek then
      skipSpace fuel
        { s with cursor := c.takeBreak.2, keyAllowed := s.keyAllowed || !s.inFlow }
    else { s with cursor := c }

/-- Steps to the next token; a byte order mark may open the text. -/
def toNextToken (s : Scan) : Scan :=
  let c := s.cursor
  let c := if c.index == 0 && c.peek.toNat == 0xFEFF then c.next else c
  skipSpace c.fuel { s with cursor := c }

/-- Drops the candidates that have lapsed. -/
def dropLapsed (s : Scan) : Option Scan :=
  let lapsed := fun (k : Candidate) =>
    k.line != s.cursor.line || s.cursor.index - k.index > 1024
  if s.candidates.any fun (_, k) => lapsed k && k.required then none
  else some { s with candidates := s.candidates.filter fun (_, k) => !lapsed k }

def dropCandidate (s : Scan) : Option Scan :=
  match s.candidates.lookup s.flowLevel with
  | none => some s
  | some k =>
    if k.required then none
    else some { s with candidates := s.candidates.filter fun (level, _) => level != s.flowLevel }

def saveCandidate (s : Scan) : Option Scan :=
  if s.keyAllowed then
    s.dropCandidate.map fun t =>
      let k : Candidate := ⟨t.tokens.size, !t.inFlow && t.indent == t.column, t.cursor.index,
        t.cursor.line, t.cursor.column⟩
      { t with candidates := (t.flowLevel, k) :: t.candidates }
  else some s

/-- Closes blocks that stand further to the right than a column. -/
def closeBlocks (column : Int) : List Int → Scan → Scan
  | outer :: more, s =>
    if column < s.indent then
      closeBlocks column more { s.push .blockEnd with indent := outer, indents := more }
    else s
  | [], s => s

/-- Closes blocks up to a column; inside brackets indentation has no meaning. -/
def unwind (s : Scan) (column : Int) : Scan :=
  if s.inFlow then s else closeBlocks column s.indents s

/-- Opens a block at a column, with its token at some place, unless one is open there. -/
def openBlock (s : Scan) (column : Int) (position : Nat) (t : Token) : Scan :=
  if s.indent < column then
    { s with
      indents := s.indent :: s.indents
      indent := column
      tokens := s.tokens.insertIdxIfInBounds position t }
  else s

/-! ## Steps -/

def take (s : Scan) (count : Nat) (t : Token) : Scan :=
  { s.push t with cursor := s.cursor.skip count }

def documentMark (s : Scan) (t : Token) : Option Scan := do
  let s ← (s.unwind (-1)).dropCandidate
  some { s.take 3 t with keyAllowed := false }

def directive (s : Scan) : Option Scan := do
  let s ← (s.unwind (-1)).dropCandidate
  let (t, c) ← takeDirective s.cursor
  some { s.push t with cursor := c, keyAllowed := false }

def openFlow (s : Scan) (t : Token) : Option Scan := do
  let s ← s.saveCandidate
  some { s.take 1 t with flowLevel := s.flowLevel + 1, keyAllowed := true }

/-- Takes a closing bracket; one that was never opened makes the text malformed. -/
def closeFlow (s : Scan) (t : Token) : Option Scan := do
  let s ← s.dropCandidate
  guard s.inFlow
  some { s.take 1 t with flowLevel := s.flowLevel - 1, keyAllowed := false }

def flowEntry (s : Scan) : Option Scan := do
  let s ← s.dropCandidate
  some { s.take 1 .flowEntry with keyAllowed := true }

/-- Opens a block here for an indicator, which needs a place where a key may start. -/
def indicatorBlock (s : Scan) (t : Token) : Option Scan :=
  if s.inFlow then some s
  else if s.keyAllowed then some (s.openBlock s.column s.tokens.size t)
  else none

def blockEntry (s : Scan) : Option Scan := do
  let s ← s.indicatorBlock .blockSequenceStart
  let s ← s.dropCandidate
  some { s.take 1 .blockEntry with keyAllowed := true }

def explicitKey (s : Scan) : Option Scan := do
  let s ← s.indicatorBlock .blockMappingStart
  let s ← s.dropCandidate
  some { s.take 1 .key with keyAllowed := !s.inFlow }

/-- Takes a colon. It makes the candidate of this nesting a key. -/
def colon (s : Scan) : Option Scan :=
  match s.candidates.lookup s.flowLevel with
  | some k =>
    let s := { s with
      candidates := s.candidates.filter fun (level, _) => level != s.flowLevel
      tokens := s.tokens.insertIdxIfInBounds k.position .key }
    let s :=
      if s.inFlow then s else s.openBlock (Int.ofNat k.column) k.position .blockMappingStart
    some { s.take 1 .value with keyAllowed := false }
  | none => do
    let s ← s.indicatorBlock .blockMappingStart
    let s ← s.dropCandidate
    some { s.take 1 .value with keyAllowed := !s.inFlow }

def anchor (s : Scan) (t : String → Token) : Option Scan := do
  let s ← s.saveCandidate
  let (name, c) ← takeAnchor s.cursor
  some { s.push (t name) with cursor := c, keyAllowed := false }

def tag (s : Scan) : Option Scan := do
  let s ← s.saveCandidate
  let (t, c) ← takeTag s.cursor
  some { s.push t with cursor := c, keyAllowed := false }

def blockScalar (s : Scan) : Option Scan := do
  let s ← s.dropCandidate
  let (text, c) ← takeBlock s.indent s.cursor
  some { s.push (.scalar text false) with cursor := c, keyAllowed := true }

def quotedScalar (s : Scan) : Option Scan := do
  let s ← s.saveCandidate
  let (text, c) ← takeQuoted s.cursor
  some { s.push (.scalar text false) with cursor := c, keyAllowed := false }

def plainScalar (s : Scan) : Option Scan := do
  let s ← s.saveCandidate
  let (text, newLine, c) := takePlain s.inFlow s.indent s.cursor
  some { s.push (.scalar text true) with cursor := c, keyAllowed := newLine }

/-- A plain scalar may start here. -/
def startsPlain (s : Scan) : Bool :=
  let ch := s.cursor.peek
  let following := s.cursor.peekAt 1
  !(isSpaceOrEnd ch || "-?:,[]\x7b\x7d#&*!|>\x27\"%@\x60".contains ch)
    || (!isSpaceOrEnd following && (ch == '-' || (!s.inFlow && (ch == '?' || ch == ':'))))

def step (s : Scan) : Option Scan :=
  let c := s.cursor
  let ch := c.peek
  let spaceFollows := isSpaceOrEnd (c.peekAt 1)
  if ch == '%' && c.column == 0 then s.directive
  else if ch == '-' && c.column == 0 && c.atDocumentMark then s.documentMark .documentStart
  else if ch == '.' && c.column == 0 && c.atDocumentMark then s.documentMark .documentEnd
  else if ch == '[' then s.openFlow .flowSequenceStart
  else if ch == '\x7b' then s.openFlow .flowMappingStart
  else if ch == ']' then s.closeFlow .flowSequenceEnd
  else if ch == '\x7d' then s.closeFlow .flowMappingEnd
  else if ch == ',' then s.flowEntry
  else if ch == '-' && spaceFollows then s.blockEntry
  else if ch == '?' && (s.inFlow || spaceFollows) then s.explicitKey
  else if ch == ':' && (s.inFlow || spaceFollows) then s.colon
  else if ch == '*' then s.anchor .alias
  else if ch == '&' then s.anchor .anchor
  else if ch == '!' then s.tag
  else if (ch == '|' || ch == '>') && !s.inFlow then s.blockScalar
  else if ch == '\x27' || ch == '"' then s.quotedScalar
  else if s.startsPlain then s.plainScalar
  else none

/-- Takes tokens up to the end of the text, where all blocks end. -/
def run : (fuel : Nat) → Scan → Option (List Token)
  | 0, _ => none
  | fuel + 1, s => do
    let s ← s.toNextToken.dropLapsed
    let s := s.unwind s.column
    if s.cursor.rest.isEmpty then
      let s ← (s.unwind (-1)).dropCandidate
      some s.tokens.toList
    else
      let s ← s.step
      run fuel s

end Scan

/-- The tokens of a text, if it can be cut into tokens. -/
def tokens? (text : String) : Option (List Token) :=
  if text.toList.all isAllowed then
    let s := Scan.start text
    s.run (s.cursor.fuel + 1)
  else none

end Rostering.Yaml
