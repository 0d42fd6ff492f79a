/-!
# Text.Search — texts within texts
-/

namespace Rostering.Text

/-- A list of characters occurs in another, without gaps. -/
def occursIn (part whole : List Char) : Bool :=
  match whole with
  | [] => part.isEmpty
  | c :: rest => part.isPrefixOf (c :: rest) || occursIn part rest

def mentions (whole part : String) : Bool := occursIn part.toList whole.toList

end Rostering.Text
