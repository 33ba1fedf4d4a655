import RuleSmith.Text.Class

namespace RuleSmith.Text

/-- The preview of a text with `room` characters left; `gap` tells that blanks came since the last
character that was shown. -/
def previewFrom (room : Nat) (gap : Bool) : List Char → List Char
  | [] => []
  | c :: rest =>
    if isBlank c then previewFrom room true rest
    else match room, gap with
      | 0, _ => ['…']
      | 1, true => [' ', '…']
      | room + 2, true => ' ' :: c :: previewFrom room false rest
      | room + 1, false => c :: previewFrom room false rest

def preview (text : String) (limit : Nat) : String :=
  String.ofList (previewFrom limit false (trim text.toList))

end RuleSmith.Text
