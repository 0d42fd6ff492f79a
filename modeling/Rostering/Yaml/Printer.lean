import Rostering.Yaml.Anchored
import Rostering.Yaml.Tag

/-!
# Yaml.Printer — YAML text of values

`Yaml.print` writes a value in block style: an entry or an item to a line, entries indented by two
below the key that they belong to, items of a list at the indentation of their key. A scalar is
written plain if it then reads back as what it is, in single quotes if it has no character that
needs an escape, and in double quotes otherwise. Lines are broken at blanks beyond column 80. A part
that has a name is written behind it, and referred to by it where it occurs again.
-/

namespace Rostering.Yaml

/-! ## Scalars as text -/

/-- The column behind which lines are broken. -/
def lineWidth : Nat := 80

def blanks (n : Nat) : String := String.ofList (List.replicate n ' ')

/-- Floats in YAML: an exponent needs a point before it. -/
def floatFormat : FloatFormat := ⟨".nan", ".inf", "-.inf", ".0"⟩

def sextetChar (n : Nat) : Char :=
  if n < 26 then Char.ofNat ('A'.toNat + n)
  else if n < 52 then Char.ofNat ('a'.toNat + (n - 26))
  else if n < 62 then Char.ofNat ('0'.toNat + (n - 52))
  else if n = 62 then '+' else '/'

/-- Bytes, three to a group of four characters. -/
def sextets : List UInt8 → List Char
  | a :: b :: c :: rest =>
    let n := a.toNat * 65536 + b.toNat * 256 + c.toNat
    [n / 262144, n / 4096 % 64, n / 64 % 64, n % 64].map sextetChar ++ sextets rest
  | [a, b] =>
    let n := a.toNat * 65536 + b.toNat * 256
    [n / 262144, n / 4096 % 64, n / 64 % 64].map sextetChar ++ ['=']
  | [a] =>
    let n := a.toNat * 65536
    [n / 262144, n / 4096 % 64].map sextetChar ++ ['=', '=']
  | [] => []

def scalarForm : Value → Tag × String
  | .null => (.null, "null")
  | .bool b => (.bool, if b then "true" else "false")
  | .int n => (.int, toString n)
  | .float x => (.float, floatFormat.text x)
  | .day (.date d) => (.timestamp, d.iso)
  | .day (.moment m) => (.timestamp, m.text " ")
  | v => (.str, v.shown)

def tagMark : Tag → String
  | .null => "!!null"
  | .bool => "!!bool"
  | .int => "!!int"
  | .float => "!!float"
  | .timestamp => "!!timestamp"
  | .binary => "!!binary"
  | .set => "!!set"
  | _ => "!!str"

/-! ## Choice of quotes -/

def neighbours (cs : List Char) : List (Char × Char) := cs.zip cs.tail

/-- A character that cannot be written without an escape. -/
def needsEscape (c : Char) : Bool := c != '\n' && !(' ' ≤ c && c ≤ '~')

/-- The text may stand in single quotes: no character needs an escape, and no blank touches a line
end. -/
def allowsSingle (cs : List Char) : Bool :=
  !cs.any needsEscape && (neighbours cs).all fun e => e != ('\n', ' ') && e != (' ', '\n')

/-- The text would be taken for structure: its start is an indicator, or it holds a colon with
nothing behind it or a hash with a blank before it. -/
def hasIndicator (cs : List Char) : Bool :=
  let starts :=
    match cs with
    | [] => false
    | c :: rest =>
      let open_ := rest.isEmpty || rest.head? == some ' '
      "#,[]\x7b\x7d&*!|>\x27\"%@\x60".contains c || (("?:-".contains c) && open_)
  starts || cs.take 3 == ['-', '-', '-'] || cs.take 3 == ['.', '.', '.']
    || cs.getLast? == some ':' || (neighbours cs).any fun e => e == (':', ' ') || e == (' ', '#')

def allowsPlain (cs : List Char) : Bool :=
  !cs.contains '\n' && !cs.any needsEscape && !hasIndicator cs && cs.head? != some ' '
    && cs.getLast? != some ' '

/-! ## Line breaks inside of scalars -/

def newLine (indent : Nat) : String := "\n" ++ blanks indent

/-- Writes runs of blanks, of line ends and of other characters from some column on. A single
blank between others may become a line end; a line end is written twice, since one alone would be
read as a blank. -/
def foldRuns (split : Bool) (indent : Nat) : (first : Bool) → (column : Nat) → List (List Char) →
    String
  | _, _, [] => ""
  | first, column, run :: runs =>
    match run with
    | '\n' :: _ =>
      String.ofList (List.replicate (run.length + 1) '\n') ++ blanks indent
        ++ foldRuns split indent false indent runs
    | [' '] =>
      if split && lineWidth < column && !first && !runs.isEmpty then
        newLine indent ++ foldRuns split indent false indent runs
      else " " ++ foldRuns split indent false (column + 1) runs
    | run => String.ofList run ++ foldRuns split indent false (column + run.length) runs

/-- The runs of blanks, of line ends and of other characters. -/
def runsOf (cs : List Char) : List (List Char) :=
  cs.splitBy fun a b => (a == ' ') == (b == ' ') && (a == '\n') == (b == '\n')

def escape (c : Char) : String :=
  let letters : List (Char × Char) :=
    [('\x00', '0'), ('\x07', 'a'), ('\x08', 'b'), ('\x09', 't'), ('\x0a', 'n'), ('\x0b', 'v'),
      ('\x0c', 'f'), ('\x0d', 'r'), ('\x1b', 'e'), ('"', '"'), ('\\', '\\'),
      (Char.ofNat 0x85, 'N'), (Char.ofNat 0xA0, '_'), (Char.ofNat 0x2028, 'L'),
      (Char.ofNat 0x2029, 'P')]
  let digits := fun (mark : Char) (width : Nat) =>
    String.ofList ['\\', mark] ++ (hexDigits width c.toNat).map Char.toUpper
  match letters.lookup c with
  | some letter => String.ofList ['\\', letter]
  | none =>
    if c.toNat ≤ 0xFF then digits 'x' 2
    else if c.toNat ≤ 0xFFFF then digits 'u' 4
    else digits 'U' 8

/-- Writes what stands in double quotes. A line may be broken with a backslash at a blank or
behind an escape, but not behind the first character or before the last. -/
def escaped (split : Bool) (indent : Nat) : (first afterEscape : Bool) → (column : Nat) →
    List Char → String
  | _, _, _, [] => ""
  | first, afterEscape, column, c :: cs =>
    let inside := split && !first && !cs.isEmpty
    if c == '"' || c == '\\' || !(' ' ≤ c && c ≤ '~') then
      let text := escape c
      let column := column + text.length
      if inside && lineWidth + 1 < column then
        let atBlank := cs.head? == some ' '
        text ++ "\\" ++ newLine indent ++ (if atBlank then "\\" else "")
          ++ escaped split indent false true (if atBlank then indent + 1 else indent) cs
      else text ++ escaped split indent false true column cs
    else if inside && (c == ' ' || afterEscape) && lineWidth < column then
      let start := if c == ' ' then "\\" else ""
      "\\" ++ newLine indent ++ start ++ String.singleton c
        ++ escaped split indent false false (indent + start.length + 1) cs
    else String.singleton c ++ escaped split indent false false (column + 1) cs

/-- A scalar from some column on, with the indentation of further lines. -/
def scalarText (split : Bool) (indent column : Nat) (tag : Tag) (text : String) : String :=
  let cs := text.toList
  if Tag.ofPlain text = tag && allowsPlain cs then foldRuns split indent true column (runsOf cs)
  else
    let mark := if tag = .str then "" else tagMark tag ++ " "
    let column := column + mark.length + 1
    if allowsSingle cs && (split || !cs.contains '\n') then
      let doubled := (runsOf cs).map fun run =>
        run.flatMap fun c => if c == '\x27' then [c, c] else [c]
      mark ++ "\x27" ++ foldRuns split indent true column doubled ++ "\x27"
    else mark ++ "\"" ++ escaped split indent true false column cs ++ "\""

/-- Bytes, on lines of 76 characters. -/
def binaryLines (indent : Nat) (bs : List UInt8) : String :=
  let cs := sextets bs
  String.join ((List.range ((cs.length + 75) / 76)).map fun i =>
    newLine indent ++ String.ofList ((cs.drop (76 * i)).take 76))

/-- A scalar behind a key, a dash or another mark. -/
def inlineText (split : Bool) (indent column : Nat) : Value → String
  | .bytes bs =>
    if bs.isEmpty then "!!binary \"\"" else "!!binary |" ++ binaryLines indent bs
  | v =>
    let (tag, text) := scalarForm v
    scalarText split indent column tag text

/-- Characters that break a line. -/
def isLineBreak (c : Char) : Bool := "\n\u0085\u2028\u2029".contains c

/-- A key that fits before a colon: a reference, or a scalar that is not empty, on one line, and of
fewer than 128 characters together with its marks. -/
def isSimpleKey : Anchored → Bool
  | .alias _ => true
  | .scalar _ (.bytes _) => false
  | .scalar anchor v =>
    let (tag, text) := scalarForm v
    (anchor.getD "").length + (tagMark tag).length + text.length < 128 && !text.isEmpty
      && !text.toList.any isLineBreak
  | _ => false

/-! ## Blocks -/

/-- A name in front of what it names, behind a blank. -/
def anchorMark : Option String → String
  | some name => " &" ++ name
  | none => ""

/-- Puts a mark into the indentation of a block's first line. -/
def marked (mark : String) (indent : Nat) : List String → List String
  | [] => []
  | line :: lines => (blanks indent ++ mark ++ " " ++ (line.drop (indent + 2)).toString) :: lines

/-- A block behind a mark: on the same line, or below a name. -/
def markedBlock (mark : String) (indent : Nat) (anchor : Option String) (lines : List String) :
    List String :=
  match anchor with
  | some _ => (blanks indent ++ mark ++ anchorMark anchor) :: lines
  | none => marked mark indent lines

def keyText (indent : Nat) : Anchored → String
  | .alias name => "*" ++ name
  | .scalar (some name) v =>
    let mark := "&" ++ name ++ " "
    mark ++ inlineText false indent (indent + mark.length) v
  | .scalar none v => inlineText false indent indent v
  | _ => ""

def scalarLine (head : String) (indent : Nat) (anchor : Option String) (v : Value) : String :=
  let head := head ++ anchorMark anchor
  head ++ " " ++ inlineText true (indent + 2) (head.length + 1) v

mutual

/-- The lines of a node behind a mark that stands at an indentation. -/
def markedLines (mark : String) (indent : Nat) : Anchored → List String
  | .alias name => [blanks indent ++ mark ++ " *" ++ name]
  | .list anchor items =>
    if items.isEmpty then [blanks indent ++ mark ++ anchorMark anchor ++ " []"]
    else markedBlock mark indent anchor (itemLines (indent + 2) items)
  | .map anchor es =>
    if es.isEmpty then [blanks indent ++ mark ++ anchorMark anchor ++ " \x7b\x7d"]
    else markedBlock mark indent anchor (entryLines (indent + 2) es)
  | .set anchor members =>
    let head := blanks indent ++ mark ++ anchorMark anchor ++ " !!set"
    if members.isEmpty then [head ++ " \x7b\x7d"] else head :: memberLines (indent + 2) members
  | .scalar anchor v => [scalarLine (blanks indent ++ mark) indent anchor v]

def itemLines (indent : Nat) : List Anchored → List String
  | [] => []
  | v :: vs => markedLines "-" indent v ++ itemLines indent vs

def entryLines (indent : Nat) : List (Anchored × Anchored) → List String
  | [] => []
  | (k, v) :: es =>
    if isSimpleKey k then
      valueLines (blanks indent ++ keyText indent k ++ ":") indent v ++ entryLines indent es
    else markedLines "?" indent k ++ markedLines ":" indent v ++ entryLines indent es

/-- The lines of an entry whose key has been written. -/
def valueLines (head : String) (indent : Nat) : Anchored → List String
  | .alias name => [head ++ " *" ++ name]
  | .list anchor items =>
    let head := head ++ anchorMark anchor
    if items.isEmpty then [head ++ " []"] else head :: itemLines indent items
  | .map anchor es =>
    let head := head ++ anchorMark anchor
    if es.isEmpty then [head ++ " \x7b\x7d"] else head :: entryLines (indent + 2) es
  | .set anchor members =>
    let head := head ++ anchorMark anchor ++ " !!set"
    if members.isEmpty then [head ++ " \x7b\x7d"] else head :: memberLines (indent + 2) members
  | .scalar anchor v => [scalarLine head indent anchor v]

/-- The lines of the members of a set: entries whose values are null. -/
def memberLines (indent : Nat) : List Anchored → List String
  | [] => []
  | v :: vs =>
    if isSimpleKey v then
      (blanks indent ++ keyText indent v ++ ": null") :: memberLines indent vs
    else markedLines "?" indent v ++ [blanks indent ++ ": null"] ++ memberLines indent vs

end

def documentLines : Anchored → List String
  | .list _ (x :: xs) => itemLines 0 (x :: xs)
  | .map _ (e :: es) => entryLines 0 (e :: es)
  | .set _ (x :: xs) => "!!set" :: memberLines 0 (x :: xs)
  | .list _ [] => ["[]"]
  | .map _ [] => ["\x7b\x7d"]
  | .set _ [] => ["!!set \x7b\x7d"]
  | .scalar _ v => [inlineText true 2 0 v]
  | .alias name => ["*" ++ name]

/-- The text of a value of which some parts are one, ending its last line. -/
def printShared (v : Value) (o : Origin) : String :=
  String.join ((documentLines (.ofShared v o)).map fun line => line ++ "\n")

/-- The text of a value, ending its last line. -/
def print (v : Value) : String := printShared v .unknown

end Rostering.Yaml
