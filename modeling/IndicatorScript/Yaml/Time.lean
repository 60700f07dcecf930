import IndicatorScript.Yaml.Problem

/-!
# Dates and times

A date, or a date with a time of day and perhaps the distance from universal time. Both are read from their fields and
are checked to exist.
-/

namespace IndicatorScript.Yaml

structure Date where
  year : Nat
  month : Nat
  day : Nat
  deriving DecidableEq, Repr

structure Moment where
  date : Date
  hour : Nat
  minute : Nat
  second : Nat
  microsecond : Nat
  /-- How many minutes the clock is ahead of universal time, if that is said. -/
  offset : Option Int
  deriving DecidableEq, Repr

namespace Time

def digitsValue (digits : List Char) : Nat :=
  digits.foldl (fun value c => 10 * value + (c.toNat - '0'.toNat)) 0

def number? (least most : Nat) (cs : List Char) : Option (Nat × List Char) :=
  let digits := (cs.take most).takeWhile Char.isDigit
  if digits.length < least then none else some (digitsValue digits, cs.drop digits.length)

def character? (c : Char) : List Char → Option (List Char)
  | d :: rest => if c = d then some rest else none
  | [] => none

def isBlank (c : Char) : Bool := c = ' ' || c = '\t'

def date? (cs : List Char) : Option (Date × List Char) := do
  let (year, cs) ← number? 4 4 cs
  let (month, cs) ← number? 1 2 (← character? '-' cs)
  let (day, cs) ← number? 1 2 (← character? '-' cs)
  return (⟨year, month, day⟩, cs)

def separator? : List Char → Option (List Char)
  | c :: rest =>
      if c = 'T' ∨ c = 't' then some rest
      else if isBlank c then some (rest.dropWhile isBlank)
      else none
  | [] => none

def fraction (cs : List Char) : Nat × List Char :=
  match cs with
  | '.' :: rest =>
      let digits := rest.takeWhile Char.isDigit
      (digitsValue ((digits ++ List.replicate 6 '0').take 6), rest.drop digits.length)
  | cs => (0, cs)

def offset? (cs : List Char) : Option (Option Int) :=
  let rest := cs.dropWhile isBlank
  match rest with
  | [] => if cs.isEmpty then some none else none
  | ['Z'] => some (some 0)
  | sign :: digits =>
      if sign = '+' ∨ sign = '-' then do
        let (hours, rest) ← number? 1 2 digits
        let (minutes, rest) ← match rest with
          | ':' :: rest => number? 2 2 rest
          | rest => some (0, rest)
        if rest.isEmpty then
          let minutes : Int := hours * 60 + minutes
          some (some (if sign = '-' then -minutes else minutes))
        else none
      else none

def fields? (cs : List Char) : Option (Date ⊕ Moment) := do
  let (date, cs) ← date? cs
  if cs.isEmpty then return .inl date
  let (hour, cs) ← number? 1 2 (← separator? cs)
  let (minute, cs) ← number? 2 2 (← character? ':' cs)
  let (second, cs) ← number? 2 2 (← character? ':' cs)
  let (microsecond, cs) := fraction cs
  let offset ← offset? cs
  return .inr ⟨date, hour, minute, second, microsecond, offset⟩

def isFullDate (cs : List Char) : Bool :=
  match cs with
  | [a, b, c, d, '-', e, f, '-', g, h] => [a, b, c, d, e, f, g, h].all Char.isDigit
  | _ => false

def isTime (cs : List Char) : Bool :=
  isFullDate cs || match fields? cs with
    | some (.inr _) => true
    | _ => false

end Time

/-! ## Dates and times that exist -/

def isLeapYear (year : Nat) : Bool := year % 4 = 0 && (year % 100 ≠ 0 || year % 400 = 0)

def daysIn (year month : Nat) : Nat :=
  if month = 2 then (if isLeapYear year then 29 else 28)
  else if month = 4 ∨ month = 6 ∨ month = 9 ∨ month = 11 then 30
  else 31

def Date.check (date : Date) : Except Misfit Date :=
  if date.year = 0 then .error (.noYear date.year)
  else if date.month = 0 ∨ 12 < date.month then .error .noMonth
  else if date.day = 0 ∨ daysIn date.year date.month < date.day then .error .noDay
  else .ok date

def minutesInDay : Nat := 1440

def Moment.check (moment : Moment) : Except Misfit Moment := do
  if let some offset := moment.offset then
    if minutesInDay ≤ offset.natAbs then throw (.farOffset offset)
  discard moment.date.check
  if 23 < moment.hour then throw .noHour
  if 59 < moment.minute then throw .noMinute
  if 59 < moment.second then throw .noSecond
  return moment

/-! ## Texts -/

def padded (width n : Nat) : String :=
  let digits := toString n
  String.ofList (List.replicate (width - digits.length) '0') ++ digits

def Date.shown (date : Date) : String :=
  padded 4 date.year ++ "-" ++ padded 2 date.month ++ "-" ++ padded 2 date.day

def Moment.shown (moment : Moment) : String :=
  moment.date.shown ++ " " ++ padded 2 moment.hour ++ ":" ++ padded 2 moment.minute ++ ":" ++
    padded 2 moment.second ++ (if moment.microsecond = 0 then "" else "." ++ padded 6 moment.microsecond) ++
    match moment.offset with
    | none => ""
    | some offset =>
        (if offset < 0 then "-" else "+") ++ padded 2 (offset.natAbs / 60) ++ ":" ++ padded 2 (offset.natAbs % 60)

end IndicatorScript.Yaml
