import GuidedChat.Text.Blank

/-! Dates as they stand in headers. There are three ways to write one: with the weekday
cut to three letters, with the whole weekday and the year cut to two digits, and with the
year at the end. A date counts only if it is one of the calendar, on that weekday, from
1970 to 9999. -/

namespace GuidedChat.Http

structure Date where
  year : Nat
  /-- From 1 on. -/
  month : Nat
  day : Nat
  hour : Nat
  minute : Nat
  second : Nat
  /-- From Monday on, which is 0. -/
  weekday : Nat
  deriving DecidableEq, Repr

namespace Date

def isLeapYear (year : Nat) : Bool := year % 4 = 0 && (year % 100 ≠ 0 || year % 400 = 0)

def monthLengths (year : Nat) : List Nat :=
  [31, if isLeapYear year then 29 else 28, 31, 30, 31, 30, 31, 31, 30, 31, 30, 31]

def leapYearsBefore (year : Nat) : Nat := (year - 1) / 4 - (year - 1) / 100 + (year - 1) / 400

def days (d : Date) : Nat :=
  365 * (d.year - 1970) + (leapYearsBefore d.year - leapYearsBefore 1970) +
    ((monthLengths d.year).take (d.month - 1)).foldl (· + ·) 0 + (d.day - 1)

def seconds (d : Date) : Nat := ((d.days * 24 + d.hour) * 60 + d.minute) * 60 + d.second

/-- 1970 began on a Thursday. -/
def isValid (d : Date) : Bool :=
  1970 ≤ d.year && d.year ≤ 9999 && 1 ≤ d.month && d.month ≤ 12 && 1 ≤ d.day &&
    d.day ≤ (monthLengths d.year).getD (d.month - 1) 0 && d.hour < 24 && d.minute < 60 &&
    d.second < 60 && d.weekday = (d.days + 3) % 7

def weekdays : List String :=
  ["Monday", "Tuesday", "Wednesday", "Thursday", "Friday", "Saturday", "Sunday"]

def months : List String :=
  ["Jan", "Feb", "Mar", "Apr", "May", "Jun", "Jul", "Aug", "Sep", "Oct", "Nov", "Dec"]

def number? (cs : List Char) : Option Nat :=
  if !cs.isEmpty && cs.all Char.isDigit then
    some (cs.foldl (fun n c => n * 10 + (c.toNat - '0'.toNat)) 0)
  else none

def weekday? (name : List Char) : Option Nat := weekdays.findIdx? (·.toList = name)

def shortWeekday? (name : List Char) : Option Nat := weekdays.findIdx? (·.toList.take 3 = name)

def month? (name : List Char) : Option Nat := (months.findIdx? (·.toList = name)).map (· + 1)

def ofParts? (weekday day month year : Option Nat) (time : List Char) : Option Date := do
  match time with
  | [h1, h2, ':', m1, m2, ':', s1, s2] =>
    let date : Date :=
      { year := ← year, month := ← month, day := ← day, hour := ← number? [h1, h2]
        minute := ← number? [m1, m2], second := ← number? [s1, s2], weekday := ← weekday }
    if date.isValid then some date else none
  | _ => none

/-- For instance `Sun, 06 Nov 1994 08:49:37 GMT`. -/
def fixed? : List Char → Option Date
  | w1 :: w2 :: w3 :: ',' :: ' ' :: d1 :: d2 :: ' ' :: m1 :: m2 :: m3 :: ' ' ::
      y1 :: y2 :: y3 :: y4 :: ' ' :: rest =>
    if rest.drop 8 = " GMT".toList then
      ofParts? (shortWeekday? [w1, w2, w3]) (number? [d1, d2]) (month? [m1, m2, m3])
        (number? [y1, y2, y3, y4]) (rest.take 8)
    else none
  | _ => none

/-- Two digits of a year stand for one from 1970 to 2069. -/
def fullYear (year : Nat) : Nat := if year < 70 then 2000 + year else 1900 + year

/-- For instance `Sunday, 06-Nov-94 08:49:37 GMT`; any character may part the day from the
time. -/
def long? (cs : List Char) : Option Date :=
  match cs.dropWhile (· ≠ ',') with
  | ',' :: ' ' :: d1 :: d2 :: '-' :: m1 :: m2 :: m3 :: '-' :: y1 :: y2 :: _ :: rest =>
    if rest.drop 8 = " GMT".toList then
      ofParts? (weekday? (cs.takeWhile (· ≠ ','))) (number? [d1, d2]) (month? [m1, m2, m3])
        ((number? [y1, y2]).map fullYear) (rest.take 8)
    else none
  | _ => none

/-- For instance `Sun Nov  6 08:49:37 1994`. -/
def yearLast? : List Char → Option Date
  | w1 :: w2 :: w3 :: ' ' :: m1 :: m2 :: m3 :: ' ' :: d1 :: d2 :: ' ' :: rest =>
    match rest.drop 8 with
    | [' ', y1, y2, y3, y4] =>
      ofParts? (shortWeekday? [w1, w2, w3]) (number? (if d1 = ' ' then [d2] else [d1, d2]))
        (month? [m1, m2, m3]) (number? [y1, y2, y3, y4]) (rest.take 8)
    | _ => none
  | _ => none

/-- A date in ASCII, with blanks around it or none. -/
def parse? (text : String) : Option Date :=
  let cs := (Text.trim text).toList
  if text.toList.all (·.toNat < 128) then (fixed? cs).or ((long? cs).or (yearLast? cs)) else none

example : (parse? "Sun, 06 Nov 1994 08:49:37 GMT").map seconds = some 784111777 := by decide
example : (parse? "Sunday, 06-Nov-94 08:49:37 GMT").map seconds = some 784111777 := by decide
example : (parse? "Sun Nov  6 08:49:37 1994").map seconds = some 784111777 := by decide
example : parse? "Mon, 06 Nov 1994 08:49:37 GMT" = none := by decide

end Date

end GuidedChat.Http
