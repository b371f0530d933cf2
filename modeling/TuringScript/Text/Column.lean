/-!
# Columns

Text padded with blanks to a least width, counted in characters. Longer text is kept whole.
-/
namespace TuringScript.Text

def alignRight (width : Nat) (text : String) : String :=
  String.ofList (List.replicate (width - text.length) ' ') ++ text

def alignLeft (width : Nat) (text : String) : String :=
  text ++ String.ofList (List.replicate (width - text.length) ' ')

end TuringScript.Text
