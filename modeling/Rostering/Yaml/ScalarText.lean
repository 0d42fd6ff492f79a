import Rostering.Json.Reader
import Rostering.Yaml.Cursor

/-!
# Yaml.ScalarText — the text of a scalar

Scalars are written in five ways: plain, in single or double quotes, and as literal or folded
blocks. Each function here reads one of them from a cursor and gives its text. Inside a text one
line end reads as a blank and further ones as themselves, except in literal blocks.

Loops over the text carry fuel; the number of characters left is always enough, since every round
takes at least one.
-/

namespace Rostering.Yaml

/-- Rounds enough for any loop from here. -/
def Cursor.fuel (c : Cursor) : Nat := c.rest.length + 1

/-! ## Quoted scalars -/

/-- Takes blank lines inside quotes. -/
def takeQuotedBreaks : (fuel : Nat) → Cursor → Option (List Char × Cursor)
  | 0, _ => none
  | fuel + 1, c =>
    -- not even inside quotes may a document mark start a line
    if c.atDocumentMark then none
    else
      let c := c.skipWhile fun ch => ch == ' ' || ch == '\t'
      if isBreak c.peek then
        let (first, c) := c.takeBreak
        (takeQuotedBreaks fuel c).map fun (more, c) => (first ++ more, c)
      else some ([], c)

/-- Line ends read as text: a lone line feed is a blank, further ones stand for themselves. -/
def foldBreaks (first more : List Char) : List Char :=
  if first != ['\n'] then first ++ more
  else if more.isEmpty then [' ']
  else more

def takeQuotedSpaces (c : Cursor) : Option (List Char × Cursor) :=
  let (spaces, c) := c.takeWhile fun ch => ch == ' ' || ch == '\t'
  if c.rest.isEmpty then none
  else if isBreak c.peek then
    let (first, c) := c.takeBreak
    (takeQuotedBreaks c.fuel c).map fun (more, c) => (foldBreaks first more, c)
  else some (spaces, c)

def shortEscape? (c : Char) : Option Char :=
  [('0', Char.ofNat 0), ('a', '\x07'), ('b', '\x08'), ('t', '\t'), ('\t', '\t'), ('n', '\n'),
    ('v', '\x0b'), ('f', '\x0c'), ('r', '\r'), ('e', '\x1b'), (' ', ' '), ('"', '"'),
    ('\\', '\\'), ('/', '/'), ('N', Char.ofNat 0x85), ('_', Char.ofNat 0xA0),
    ('L', Char.ofNat 0x2028), ('P', Char.ofNat 0x2029)].lookup c

/-- Number of hexadecimal digits behind the letter of an escape. -/
def escapeLength? (c : Char) : Option Nat :=
  [('x', 2), ('u', 4), ('U', 8)].lookup c

def hexNumber? (cs : List Char) : Option Nat :=
  cs.foldl (fun n c => match n, Json.hexValue? c with
    | some n, some d => some (n * 16 + d)
    | _, _ => none) (some 0)

/-- The character of a code point, or what stands for a half of a pair. -/
def charOfCode? (n : Nat) : Option Char :=
  if n > 0x10FFFF then none
  else if 0xD800 ≤ n && n ≤ 0xDFFF then some (Json.loneHalf n)
  else some (Char.ofNat n)

/-- Takes an escape, behind its backslash. -/
def takeEscape (c : Cursor) : Option (List Char × Cursor) :=
  match shortEscape? c.peek with
  | some ch => some ([ch], c.next)
  | none =>
    match escapeLength? c.peek with
    | some length => do
      let digits := c.next.ahead length
      guard (digits.length == length)
      let ch ← (hexNumber? digits).bind charOfCode?
      some ([ch], c.skip (length + 1))
    | none =>
      -- an escaped line end reads as nothing
      if isBreak c.peek then takeQuotedBreaks c.fuel c.takeBreak.2 else none

/-- Takes text inside quotes up to white space or the closing quote. -/
def takeQuotedWord (double : Bool) : (fuel : Nat) → Cursor → Option (List Char × Cursor)
  | 0, _ => none
  | fuel + 1, c =>
    let isOrdinary := fun ch => !(ch == '\x27' || ch == '"' || ch == '\\' || isSpaceOrEnd ch)
    let (word, c) := c.takeWhile isOrdinary
    let ch := c.peek
    let more := fun (part : List Char) (c : Cursor) =>
      (takeQuotedWord double fuel c).map fun (more, c) => (word ++ part ++ more, c)
    if !double && ch == '\x27' && c.peekAt 1 == '\x27' then more [ch] (c.skip 2)
    else if (double && ch == '\x27') || (!double && (ch == '"' || ch == '\\')) then
      more [ch] c.next
    else if double && ch == '\\' then
      match takeEscape c.next with
      | some (part, c) => more part c
      | none => none
    else some (word, c)

/-- Takes the inside of quotes, and the closing quote. -/
def takeQuotedRest (double : Bool) : (fuel : Nat) → Cursor → Option (List Char × Cursor)
  | 0, _ => none
  | fuel + 1, c =>
    if c.peek == (if double then '"' else '\x27') then some ([], c.next)
    else do
      let (spaces, c) ← takeQuotedSpaces c
      let (word, c) ← takeQuotedWord double c.fuel c
      let (more, c) ← takeQuotedRest double fuel c
      some (spaces ++ word ++ more, c)

/-- Takes a quoted scalar, from its opening quote on. -/
def takeQuoted (c : Cursor) : Option (String × Cursor) := do
  let double := c.peek == '"'
  let c := c.next
  let (word, c) ← takeQuotedWord double c.fuel c
  let (more, c) ← takeQuotedRest double c.fuel c
  some (String.ofList (word ++ more), c)

/-! ## Plain scalars -/

/-- Number of characters up to the end of a plain word. -/
def plainLength (inFlow : Bool) : List Char → Nat
  | [] => 0
  | ch :: rest =>
    let following := rest.headD endMark
    -- a colon alone ends no word: what follows decides, and inside brackets more things do
    let isEnd := isSpaceOrEnd ch
      || (ch == ':' && (isSpaceOrEnd following || (inFlow && ",[]\x7b\x7d".contains following)))
      || (inFlow && ",?[]\x7b\x7d".contains ch)
    if isEnd then 0 else plainLength inFlow rest + 1

/-- Takes blank lines between the lines of a plain scalar. The answer is `none` in front of a
document mark. -/
def takePlainBreaks : (fuel : Nat) → Cursor → Option (List Char) × Cursor
  | 0, c => (none, c)
  | fuel + 1, c =>
    if c.peek == ' ' then takePlainBreaks fuel c.next
    else if isBreak c.peek then
      let (first, c) := c.takeBreak
      if c.atDocumentMark then (none, c)
      else
        let (more, c) := takePlainBreaks fuel c
        (more.map (first ++ ·), c)
    else (some [], c)

/-- Takes white space inside a plain scalar: its text, whether a line ended, and the place behind
it. -/
def takePlainSpaces (c : Cursor) : List Char × Bool × Cursor :=
  let (spaces, c) := c.takeWhile (· == ' ')
  if isBreak c.peek then
    let (first, c) := c.takeBreak
    if c.atDocumentMark then ([], true, c)
    else
      match takePlainBreaks c.fuel c with
      | (none, c) => ([], true, c)
      | (some more, c) => (foldBreaks first more, true, c)
  else (spaces, false, c)

/-- Takes words of a plain scalar, the white space in front of the first already taken. The flag
says whether a line has ended since the last word. -/
def takePlainWords (inFlow : Bool) (indent : Int) :
    (fuel : Nat) → (spaces : List Char) → (newLine : Bool) → Cursor → List Char × Bool × Cursor
  | 0, _, newLine, c => ([], newLine, c)
  | fuel + 1, spaces, newLine, c =>
    if c.peek == '#' then ([], newLine, c)
    else
      let length := plainLength inFlow c.rest
      if length = 0 then ([], newLine, c)
      else
        let word := c.ahead length
        let (nextSpaces, newLine, c) := takePlainSpaces (c.skip length)
        if nextSpaces.isEmpty || c.peek == '#' || (!inFlow && Int.ofNat c.column < indent) then
          (spaces ++ word, newLine, c)
        else
          let (more, newLine, c) := takePlainWords inFlow indent fuel nextSpaces newLine c
          (spaces ++ word ++ more, newLine, c)

/-- Takes a plain scalar. Further lines have to be indented more than what surrounds it. -/
def takePlain (inFlow : Bool) (indent : Int) (c : Cursor) : String × Bool × Cursor :=
  let (text, newLine, c) := takePlainWords inFlow (indent + 1) c.fuel [] false c
  (String.ofList text, newLine, c)

/-! ## Block scalars -/

/-- What becomes of the line ends at the end of a block. -/
inductive Chomping where
  | clip
  | strip
  | keep
  deriving DecidableEq

def chomping? (c : Char) : Option Chomping :=
  if c == '+' then some .keep else if c == '-' then some .strip else none

def increment? (c : Char) : Option Nat :=
  if c.isDigit then some (c.toNat - '0'.toNat) else none

/-- Takes the marks behind the sign of a block: chomping and indentation, in either order. -/
def takeBlockMarks (c : Cursor) : Option (Chomping × Option Nat × Cursor) := do
  let (chomping, increment, c) :=
    match chomping? c.peek, increment? c.peek with
    | some chomping, _ =>
      match increment? c.next.peek with
      | some n => (chomping, some n, c.skip 2)
      | none => (chomping, none, c.next)
    | none, some n =>
      match chomping? c.next.peek with
      | some chomping => (chomping, some n, c.skip 2)
      | none => (.clip, some n, c.next)
    | none, none => (.clip, none, c)
  guard (increment != some 0 && isBlankOrEnd c.peek)
  some (chomping, increment, c)

/-- Takes blank lines in front of a block of unknown indentation, and finds the deepest column
among them and the first line. -/
def takeLeadingLines : (fuel : Nat) → (deepest : Nat) → Cursor → List Char × Nat × Cursor
  | 0, deepest, c => ([], deepest, c)
  | fuel + 1, deepest, c =>
    if c.peek == ' ' then takeLeadingLines fuel (max deepest c.next.column) c.next
    else if isBreak c.peek then
      let (first, c) := c.takeBreak
      let (more, deepest, c) := takeLeadingLines fuel deepest c
      (first ++ more, deepest, c)
    else ([], deepest, c)

def skipIndent (indent : Nat) : (fuel : Nat) → Cursor → Cursor
  | 0, c => c
  | fuel + 1, c =>
    if c.column < indent && c.peek == ' ' then skipIndent indent fuel c.next else c

def takeBlankLines (indent : Nat) : (fuel : Nat) → Cursor → List Char × Cursor
  | 0, c => ([], c)
  | fuel + 1, c =>
    let c := skipIndent indent c.fuel c
    if isBreak c.peek then
      let (first, c) := c.takeBreak
      let (more, c) := takeBlankLines indent fuel c
      (first ++ more, c)
    else ([], c)

def Cursor.startsText (c : Cursor) (indent : Nat) : Bool :=
  c.column == indent && !c.rest.isEmpty

/-- Takes the lines of a block. The answer is their text, the last line end, and the blank lines
behind it. -/
def takeBlockLines (folded : Bool) (indent : Nat) :
    (fuel : Nat) → (blank : List Char) → Cursor → List Char × List Char × List Char × Cursor
  | 0, blank, c => ([], [], blank, c)
  | fuel + 1, blank, c =>
    if c.startsText indent then
      let flush := c.peek != ' ' && c.peek != '\t'
      let (line, c) := c.takeWhile (!isBreak ·)
      let (lineEnd, c) := c.takeBreak
      let (nextBlank, c) := takeBlankLines indent c.fuel c
      if c.startsText indent then
        let joint :=
          if folded && lineEnd == ['\n'] && flush && c.peek != ' ' && c.peek != '\t' then
            (if nextBlank.isEmpty then [' '] else [])
          else lineEnd
        let (more, last, lastBlank, c) := takeBlockLines folded indent fuel nextBlank c
        (blank ++ line ++ joint ++ more, last, lastBlank, c)
      else (blank ++ line, lineEnd, nextBlank, c)
    else ([], [], blank, c)

def takeBlock (indent : Int) (c : Cursor) : Option (String × Cursor) := do
  let folded := c.peek == '>'
  let (chomping, increment, c) ← takeBlockMarks c.next
  let c ← c.skipLineRest
  let least := (max (indent + 1) 1).toNat
  let (blank, indent, c) := match increment with
    | none =>
      let (blank, deepest, c) := takeLeadingLines c.fuel 0 c
      (blank, max least deepest, c)
    | some n =>
      let indent := least + n - 1
      let (blank, c) := takeBlankLines indent c.fuel c
      (blank, indent, c)
  let (text, last, blank, c) := takeBlockLines folded indent c.fuel blank c
  let ending := match chomping with
    | .strip => []
    | .clip => last
    | .keep => last ++ blank
  some (String.ofList (text ++ ending), c)

end Rostering.Yaml
