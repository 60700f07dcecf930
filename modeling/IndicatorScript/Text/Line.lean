/-!
# Lines

Line breaks are written in three ways, and text files are read as if there were one.
-/

namespace IndicatorScript.Text

def unifyBreaks : List Char → List Char
  | [] => []
  | '\r' :: '\n' :: rest => '\n' :: unifyBreaks rest
  | c :: rest => (if c = '\r' then '\n' else c) :: unifyBreaks rest

def unifyLineBreaks (text : String) : String := String.ofList (unifyBreaks text.toList)

def afterMark : List Char → List Char
  | '\ufeff' :: rest => rest
  | text => text

end IndicatorScript.Text
