import SoqlForm.Text.Blank

/-!
# Text: date and time of a local input

A local date and time (`2024-03-01T09:30`) is written with a space between its two parts and with
seconds (`2024-03-01 09:30:00`).  Seconds are added only to a time that is two digits, a colon and
two digits; a time with seconds or a zone stays as it is.
-/

namespace SoqlForm.Text

/-- the letter `T` and the space stand between a date and a time -/
def isTimeMark (c : Char) : Bool := c == 'T' || c == ' '

/-- two digits, a colon, two digits -/
def isHourMinute : List Char → Bool
  | [a, b, ':', c, d] => a.isDigit && b.isDigit && c.isDigit && d.isDigit
  | _ => false

/-- the time part as it is written: seconds are added to a bare hour and minute -/
def withSeconds (time : List Char) : List Char :=
  if isHourMinute time then time ++ [':', '0', '0'] else time

/-- the literal form of a local date and time, the blanks around it dropped -/
def normalizeTimestamp (raw : List Char) : List Char :=
  let text := trim raw
  let date := text.takeWhile (!isTimeMark ·)
  match trim ((text.dropWhile (!isTimeMark ·)).drop 1) with
  | [] => date
  | time => date ++ ' ' :: withSeconds time

end SoqlForm.Text
