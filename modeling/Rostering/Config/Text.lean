import Rostering.Config.Decode
import Rostering.Config.Encode
import Rostering.Config.Origins
import Rostering.Files
import Rostering.Json.Printer
import Rostering.Json.Reader
import Rostering.Yaml.Meaning
import Rostering.Yaml.Printer

/-!
# Config.Text — configurations as text

`Config.parse` reads a specification from YAML or JSON text, `Config.parseFile` from a file whose
name tells the format, and `Config.print` writes one. A text that cannot be read at all, or whose
outermost value is no mapping, is rejected before any of its content is looked at.
-/

namespace Rostering.Config

/-! ## Formats -/

def yamlFormats : List String := ["yaml", "yml", "structured-yaml"]

def jsonFormats : List String := ["json"]

def fileEndings : List String := [".yaml", ".yml", ".json"]

/-! ## Reading -/

/-- Rejects a text. -/
def rejectText {α : Type} (fault : ConfigFault) : Except Failure α := throw (.config ⟨fault, none⟩)

/-- The value that a text in some format stands for, and the origin of its parts. -/
def readTraced (text format : String) : Except Failure Traced :=
  let format := Text.lower format
  if yamlFormats.contains format then
    match Yaml.parseShared text with
    | .ok (v, origin) => pure ⟨v, origin⟩
    | .error f => if f.cls = .badValue then rejectText (.unreadable format) else throw (.fault f)
  else if jsonFormats.contains format then
    match Json.parse? text with
    | some v => pure ⟨v, .unknown⟩
    | none => rejectText (.unreadable format)
  else rejectText (.unsupportedText format)

def rootEntries : Value → Except Failure Entries
  | .map es => pure es
  | _ => rejectText .rootNotMapping

def readEntries (text format : String) : Except Failure Entries := do
  rootEntries (← readTraced text format).value

def parse (text format : String) : Except Failure Specification := do
  decode (← readEntries text format)

/-- Reads a specification from text, and the origins of the mapping that it is written as. -/
def parseShared (text format : String) : Except Failure (Specification × Yaml.Origin) := do
  let t ← readTraced text format
  let s ← decode (← rootEntries t.value)
  pure (s, specificationOrigin t (encode s))

def parseFile (files : Directory) (path : String) : Except Failure Specification :=
  let p := Path.ofText path
  if files.denies p then throw (.fault .overlongName)
  else
    match files.content? p with
    | none => rejectText (.fileMissing path)
    | some text =>
      if fileEndings.contains (Text.lower p.suffix) then
        parse text (String.ofList ((Text.lower p.suffix).toList.drop 1))
      else rejectText (.unsupportedFile p.suffix)

/-! ## Writing -/

/-- Writes a specification whose parts have the origins that are given; any format that is not JSON
is YAML. There is no text of a number that is too long. Under a key that is a date or the like there
is no JSON text, nor of what is part of itself. -/
def printShared (s : Specification) (origin : Yaml.Origin) (format : String) :
    Except Fault String :=
  let v := encode s
  if !v.hasText then throw .overlong
  else if jsonFormats.contains (Text.lower format) then
    if v.isEndless then throw .malformed
    else
      match Json.print? .indented v with
      | some text => pure text
      | none => throw .mistyped
  else pure (Yaml.printShared v origin)

def print (s : Specification) (format : String) : Except Fault String :=
  printShared s .unknown format

end Rostering.Config
