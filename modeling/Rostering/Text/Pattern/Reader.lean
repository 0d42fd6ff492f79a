import Rostering.Decimal.Read
import Rostering.Text.Pattern.Basic

/-!
# Text.Pattern.Reader — patterns as they are written

`Expression.parse?` reads a pattern: characters, sets in brackets, groups, choices, repetitions and
escapes. A backslash in front of a letter of ASCII has to mean something, every group has to be
closed, and there has to be something to repeat. Flags may stand in front, or in a group for which
alone they count.
-/

namespace Rostering.Text

namespace Expression

/-- What changes the meaning of patterns. -/
structure Flags where
  ignoresCase : Bool
  /-- A point stands for line feeds too. -/
  dotAll : Bool
  /-- Lines have edges, and not only the text. -/
  multiLine : Bool

/-- Nothing but the plain meaning of patterns. -/
def Flags.plain : Flags := ⟨false, false, false⟩

/-- A pattern that is partly read. -/
structure Reading where
  rest : List Char
  /-- Groups that were opened. -/
  groups : Nat
  /-- Groups that were closed. -/
  closed : List Nat
  names : List (String × Nat)

def Reading.at (r : Reading) (rest : List Char) : Reading := { r with rest := rest }

/-! ## Escapes -/

/-- The kind of characters that a letter behind a backslash stands for. -/
def kind? (c : Char) : Option CharItem :=
  [('d', CharItem.kind .digit true), ('D', .kind .digit false),
    ('s', .kind .blank true), ('S', .kind .blank false),
    ('w', .kind .word true), ('W', .kind .word false)].lookup c

/-- The character that a letter behind a backslash stands for. -/
def control? (c : Char) : Option Char :=
  [('a', '\x07'), ('f', '\x0c'), ('n', '\n'), ('r', '\r'), ('t', '\t'), ('v', '\x0b'),
    ('\\', '\\')].lookup c

/-- The edge that a letter behind a backslash stands for. -/
def edge? (c : Char) : Option Edge :=
  [('A', Edge.textStart), ('Z', .textEnd), ('b', .word true), ('B', .word false)].lookup c

def codeLength? (c : Char) : Option Nat := [('x', 2), ('u', 4), ('U', 8)].lookup c

def isOctal (c : Char) : Bool := '0' ≤ c && c ≤ '7'

def codeOf (base : Nat) (digits : List Char) : Nat :=
  digits.foldl (fun n c => base * n + (baseDigit? base c).getD 0) 0

/-- Reads a character by so many hexadecimal digits. -/
def code? (length : Nat) (cs : List Char) : Option (Char × List Char) :=
  let digits := cs.take length
  let n := codeOf 16 digits
  if digits.length = length && digits.all (fun c => (baseDigit? 16 c).isSome) && n ≤ 0x10FFFF then
    some (Char.ofNat n, cs.drop length)
  else none

/-- Reads a character by digits to base eight, of which one has been seen. -/
def octal? (first : Char) (cs : List Char) : Option (Char × List Char) :=
  let more := (cs.take 2).takeWhile isOctal
  let n := codeOf 8 (first :: more)
  if n ≤ 0o377 then some (Char.ofNat n, cs.drop more.length) else none

def setEscape? : List Char → Option (CharItem × List Char)
  | [] => none
  | c :: cs =>
    let one (c : Char) : CharItem := .range c c
    match kind? c, control? c, codeLength? c with
    | some k, _, _ => some (k, cs)
    | _, some d, _ => some (one d, cs)
    | _, _, some n => (code? n cs).map fun (c, cs) => (one c, cs)
    | _, _, _ =>
      if c = 'b' then some (one '\x08', cs)
      else if isOctal c then (octal? c cs).map fun (c, cs) => (one c, cs)
      else if c.isAlphanum then none
      else some (one c, cs)

/-! ## Sets in brackets -/

/-- Reads a member of a set, or an end of a range. -/
def setMember? : List Char → Option (CharItem × List Char)
  | [] => none
  | '\\' :: cs => setEscape? cs
  | c :: cs => some (.range c c, cs)

/-- The range between two members, which have to be single characters in order. -/
def between? (first last : CharItem) : Option CharItem :=
  match first, last with
  | .range a _, .range b _ => if a ≤ b then some (.range a b) else none
  | _, _ => none

/-- Reads the members of a set up to its bracket, which cannot come first. -/
def setMembers? : (fuel : Nat) → (isFirst : Bool) → List Char → Option (List CharItem × List Char)
  | 0, _, _ => none
  | fuel + 1, isFirst, cs =>
    match cs, isFirst with
    | ']' :: rest, false => some ([], rest)
    | cs, _ => do
      let (item, cs) ← setMember? cs
      match cs with
      | '-' :: ']' :: rest => some ([item, .range '-' '-'], rest)
      | '-' :: cs =>
        let (last, cs) ← setMember? cs
        let item ← between? item last
        let (items, cs) ← setMembers? fuel false cs
        some (item :: items, cs)
      | cs =>
        let (items, cs) ← setMembers? fuel false cs
        some (item :: items, cs)

def set? (flags : Flags) (cs : List Char) : Option (CharSet × List Char) :=
  let (negated, cs) := match cs with
    | '^' :: cs => (true, cs)
    | cs => (false, cs)
  (setMembers? (cs.length + 1) true cs).map fun (items, cs) =>
    (⟨items, negated, flags.ignoresCase⟩, cs)

/-! ## Repetitions -/

/-- Reads how often something is repeated, if that comes next. -/
def count? : List Char → Option (Nat × Option Nat × List Char)
  | '?' :: cs => some (0, some 1, cs)
  | '*' :: cs => some (0, none, cs)
  | '+' :: cs => some (1, none, cs)
  | '\x7b' :: cs =>
    let (low, rest) := spanDigits cs
    let (high, rest, hasComma) := match rest with
      | ',' :: rest => let (high, rest) := spanDigits rest; (high, rest, true)
      | rest => (low, rest, false)
    match rest with
    | '\x7d' :: rest =>
      if low.isEmpty && !hasComma then none
      else some (digitsValue low, if high.isEmpty then none else some (digitsValue high), rest)
    | _ => none
  | _ => none

/-- A pattern with the repetition that comes next, if there is one. -/
def repeated? (p : Pattern) (isRepeatable : Bool) (r : Reading) : Option (Pattern × Reading) :=
  match count? r.rest with
  | none => some (p, r)
  | some (least, most, rest) =>
    if !isRepeatable || most.any (· < least) then none
    else
      match rest with
      | '?' :: rest => some (.repeated true least most p, r.at rest)
      | '+' :: rest => some (.preferred (.repeated false least most p), r.at rest)
      | rest => some (.repeated false least most p, r.at rest)

/-! ## Flags and names -/

def Flags.set? (flags : Flags) (value : Bool) (c : Char) : Option Flags :=
  match c with
  | 'i' => some { flags with ignoresCase := value }
  | 's' => some { flags with dotAll := value }
  | 'm' => some { flags with multiLine := value }
  | 'u' => if value then some flags else none
  | _ => none

def Flags.setAll? (flags : Flags) (value : Bool) (letters : List Char) : Option Flags :=
  letters.foldlM (fun flags c => flags.set? value c) flags

/-- Reads a name up to a character that ends it. -/
def name? (stop : Char) (cs : List Char) : Option (String × List Char) :=
  let name := cs.takeWhile (· != stop)
  match cs.drop name.length with
  | _ :: rest =>
    if !name.isEmpty && name.all isWord && !(name.headD '_').isDigit then
      some (String.ofList name, rest)
    else none
  | [] => none

/-- The text remembered in a group, which has to be closed. -/
def remembered? (flags : Flags) (r : Reading) (number : Nat) : Option Pattern :=
  if r.closed.contains number then some (.recalled number flags.ignoresCase) else none

/-- Reads what follows a backslash outside of brackets, and tells whether it can be repeated. -/
def escape? (flags : Flags) (r : Reading) : List Char → Option (Pattern × Bool × Reading)
  | [] => none
  | c :: cs =>
    let one (c : Char) : Pattern := .char (.single flags.ignoresCase c)
    match kind? c, edge? c, control? c, codeLength? c with
    | some k, _, _, _ => some (.char ⟨[k], false, false⟩, true, r.at cs)
    | _, some e, _, _ => some (.edge e, false, r.at cs)
    | _, _, some d, _ => some (one d, true, r.at cs)
    | _, _, _, some n => (code? n cs).map fun (c, cs) => (one c, true, r.at cs)
    | _, _, _, _ =>
      if c = '0' then (octal? c cs).map fun (c, cs) => (one c, true, r.at cs)
      else if c.isDigit then
        let more := (cs.take 2).takeWhile isOctal
        if isOctal c && more.length = 2 then
          (octal? c cs).map fun (c, cs) => (one c, true, r.at cs)
        else
          let more := (cs.take 1).takeWhile Char.isDigit
          (remembered? flags r (digitsValue (c :: more))).map fun p =>
            (p, true, r.at (cs.drop more.length))
      else if c.isAlpha then none
      else some (one c, true, r.at cs)

/-! ## Patterns -/

def close? (r : Reading) : Option Reading :=
  match r.rest with
  | ')' :: rest => some (r.at rest)
  | _ => none

mutual

def choice? : (fuel : Nat) → Flags → Reading → Option (Pattern × Reading)
  | 0, _, _ => none
  | fuel + 1, flags, r => do
    let (p, r) ← row? fuel flags r
    match r.rest with
    | '|' :: rest =>
      let (q, r) ← choice? fuel flags (r.at rest)
      some (.either p q, r)
    | _ => some (p, r)

def row? : (fuel : Nat) → Flags → Reading → Option (Pattern × Reading)
  | 0, _, _ => none
  | fuel + 1, flags, r =>
    match r.rest with
    | [] | '|' :: _ | ')' :: _ => some (.nothing, r)
    | _ => do
      let (p, isRepeatable, r) ← atom? fuel flags r
      let (p, r) ← repeated? p isRepeatable r
      let (q, r) ← row? fuel flags r
      some (.seq p q, r)

/-- Reads what can be repeated as a whole, and tells whether it can indeed. -/
def atom? : (fuel : Nat) → Flags → Reading → Option (Pattern × Bool × Reading)
  | 0, _, _ => none
  | fuel + 1, flags, r =>
    if (count? r.rest).isSome then none
    else
      match r.rest with
      | [] => none
      | '\\' :: cs => escape? flags r cs
      | '.' :: cs =>
        let set : CharSet := ⟨if flags.dotAll then [] else [.range '\n' '\n'], true, false⟩
        some (.char set, true, r.at cs)
      | '^' :: cs =>
        some (.edge (if flags.multiLine then .lineStart else .textStart), false, r.at cs)
      | '$' :: cs =>
        some (.edge (if flags.multiLine then .lineEnd else .lastLine), false, r.at cs)
      | '[' :: cs => (set? flags cs).map fun (s, cs) => (.char s, true, r.at cs)
      | '(' :: '?' :: cs => (special? fuel flags (r.at cs)).map fun (p, r) => (p, true, r)
      | '(' :: cs => (numbered? fuel flags (r.at cs)).map fun (p, r) => (p, true, r)
      | c :: cs => some (.char (.single flags.ignoresCase c), true, r.at cs)

/-- Reads a group that gets the next number. -/
def numbered? : (fuel : Nat) → Flags → Reading → Option (Pattern × Reading)
  | 0, _, _ => none
  | fuel + 1, flags, r => do
    let number := r.groups + 1
    let (p, r) ← choice? fuel flags { r with groups := number }
    let r ← close? r
    some (.group number p, { r with closed := number :: r.closed })

/-- Reads a group behind its question mark. -/
def special? : (fuel : Nat) → Flags → Reading → Option (Pattern × Reading)
  | 0, _, _ => none
  | fuel + 1, flags, r =>
    let inner (flags : Flags) (cs : List Char) (f : Pattern → Option Pattern) := do
      let (p, r) ← choice? fuel flags (r.at cs)
      let r ← close? r
      (f p).map fun p => (p, r)
    match r.rest with
    | ':' :: cs => inner flags cs some
    | '>' :: cs => inner flags cs fun p => some (.preferred p)
    | '=' :: cs => inner flags cs fun p => some (.ahead true p)
    | '!' :: cs => inner flags cs fun p => some (.ahead false p)
    | '<' :: '=' :: cs => inner flags cs fun p => p.width?.map fun n => .behind true n p
    | '<' :: '!' :: cs => inner flags cs fun p => p.width?.map fun n => .behind false n p
    | 'P' :: '<' :: cs => do
      let (name, cs) ← name? '>' cs
      guard (r.names.lookup name).isNone
      numbered? fuel flags { r with rest := cs, names := (name, r.groups + 1) :: r.names }
    | 'P' :: '=' :: cs => do
      let (name, cs) ← name? ')' cs
      let p ← remembered? flags r (← r.names.lookup name)
      some (p, r.at cs)
    | cs => do
      let on := cs.takeWhile Char.isAlpha
      let flags ← flags.setAll? true on
      match cs.drop on.length with
      | ':' :: cs => inner flags cs some
      | '-' :: cs =>
        let off := cs.takeWhile Char.isAlpha
        let flags ← flags.setAll? false off
        match off, cs.drop off.length with
        | _ :: _, ':' :: cs => inner flags cs some
        | _, _ => none
      | _ => none

end

/-- Reads the flags that a pattern starts with. -/
def leadingFlags : (fuel : Nat) → Flags → List Char → Flags × List Char
  | 0, flags, cs => (flags, cs)
  | fuel + 1, flags, cs =>
    match cs with
    | '(' :: '?' :: inner =>
      let letters := inner.takeWhile Char.isAlpha
      match letters, flags.setAll? true letters, inner.drop letters.length with
      | _ :: _, some flags, ')' :: rest => leadingFlags fuel flags rest
      | _, _, _ => (flags, cs)
    | cs => (flags, cs)

def parse? (flags : Flags) (source : String) : Option Expression := do
  let cs := source.toList
  let (flags, cs) := leadingFlags cs.length flags cs
  let (p, r) ← choice? (4 * cs.length + 4) flags ⟨cs, 0, [], []⟩
  guard r.rest.isEmpty
  some ⟨p, r.groups, r.names⟩

end Expression

end Rostering.Text
