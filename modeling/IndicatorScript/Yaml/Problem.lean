import IndicatorScript.Text.Quoted

/-!
# Problems of a YAML text

Why a text is no document, or a document of which no values can be made. Most problems have a place in the text, and
many a second one, where that began which went wrong. The places are named in the message; their lines and columns are
kept counting from zero and shown counting from one.
-/

namespace IndicatorScript.Yaml

structure Mark where
  line : Nat
  column : Nat
  deriving DecidableEq, Repr

def Mark.shown (mark : Mark) (file : String) : String :=
  "  in \"" ++ file ++ "\", line " ++ toString (mark.line + 1) ++ ", column " ++ toString (mark.column + 1)

inductive Stage where
  | tokens
  | nodes
  | references
  | values
  deriving DecidableEq, Repr

structure Setting where
  text : String
  mark : Option Mark
  deriving DecidableEq, Repr

inductive Misfit where
  | notInteger (base : Nat) (text : String)
  | tooManyDigits (count : Nat)
  | notNumber (text : String)
  /-- A number without a first character. -/
  | noNumber
  /-- A number in base sixty with more places than numbers reach. -/
  | tooManyPlaces
  | notTruthValue (word : String)
  | notTime
  | noTimeText
  | noYear (year : Nat)
  | noMonth
  | noDay
  | noHour
  | noMinute
  | noSecond
  /-- A distance from universal time of a day or more. -/
  | farOffset (minutes : Int)
  /-- An escaped character with a code that no character has. -/
  | noCharacter
  /-- An escaped character with a code beyond the range of codes. -/
  | codeTooLarge
  deriving DecidableEq, Repr

def spanText (minutes : Int) : String :=
  let seconds := (minutes * 60) % 86400
  "days=" ++ toString ((minutes * 60) / 86400) ++ (if seconds = 0 then "" else ", seconds=" ++ toString seconds)

def longestShown : Nat := 200

def Misfit.message : Misfit → String
  | .notInteger base text =>
      "invalid literal for int() with base " ++ toString base ++ ": " ++
        String.ofList ((Text.quoted text).toList.take longestShown)
  | .tooManyDigits count =>
      "Exceeds the limit (4300 digits) for integer string conversion: value has " ++ toString count ++
        " digits; use sys.set_int_max_str_digits() to increase the limit"
  | .notNumber text => "could not convert string to float: " ++ Text.quoted text
  | .noNumber => "string index out of range"
  | .tooManyPlaces => "int too large to convert to float"
  | .notTruthValue word => Text.quoted word
  | .notTime => "'NoneType' object has no attribute 'groupdict'"
  | .noTimeText => "expected string or bytes-like object, got 'list'"
  | .noYear year => "year " ++ toString year ++ " is out of range"
  | .noMonth => "month must be in 1..12"
  | .noDay => "day is out of range for month"
  | .noHour => "hour must be in 0..23"
  | .noMinute => "minute must be in 0..59"
  | .noSecond => "second must be in 0..59"
  | .farOffset minutes =>
      "offset must be a timedelta strictly between -timedelta(hours=24) and timedelta(hours=24), not " ++
        "datetime.timedelta(" ++ spanText minutes ++ ")."
  | .noCharacter => "chr() arg not in range(0x110000)"
  | .codeTooLarge => "Python int too large to convert to C int"

inductive Problem where
  /-- A character that no text may hold. -/
  | unacceptable (c : Char) (position : Nat)
  | placed (stage : Stage) (setting : Option Setting) (text : String) (mark : Mark)
  | unfit (misfit : Misfit)
  deriving DecidableEq, Repr

/-- The place where a problem's setting began is left out where the problem itself lies. -/
def Setting.lines (setting : Setting) (file : String) (problem : Mark) : List String :=
  match setting.mark with
  | some mark => if mark = problem then [setting.text] else [setting.text, mark.shown file]
  | none => [setting.text]

def Problem.message (file : String) : Problem → String
  | .unacceptable c position =>
      "unacceptable character #x" ++ String.ofList (Text.hexDigits 4 c.toNat) ++
        ": special characters are not allowed\n  in \"" ++ file ++ "\", position " ++ toString position
  | .placed _ setting text mark =>
      let before := match setting with
        | none => []
        | some setting => setting.lines file mark
      "\n".intercalate (before ++ [text, mark.shown file])
  | .unfit misfit => misfit.message

end IndicatorScript.Yaml
