import DatePattern.Locale.Basic

/-! # English names -/

namespace DatePattern

/-- The English locale. -/
def Locale.english : Locale where
  code := "en-US"
  eras :=
    { narrow := #v["B", "A"]
      abbreviated := #v["BC", "AD"]
      wide := #v["Before Christ", "Anno Domini"] }
  months :=
    { narrow := #v["J", "F", "M", "A", "M", "J", "J", "A", "S", "O", "N", "D"]
      abbreviated := #v["Jan", "Feb", "Mar", "Apr", "May", "Jun", "Jul", "Aug", "Sep", "Oct",
        "Nov", "Dec"]
      wide := #v["January", "February", "March", "April", "May", "June", "July", "August",
        "September", "October", "November", "December"] }
  weekdays :=
    { narrow := #v["S", "M", "T", "W", "T", "F", "S"]
      abbreviated := #v["Sun", "Mon", "Tue", "Wed", "Thu", "Fri", "Sat"]
      wide := #v["Sunday", "Monday", "Tuesday", "Wednesday", "Thursday", "Friday", "Saturday"] }
  dayPeriods :=
    { narrow := #v["a", "p"]
      abbreviated := #v["AM", "PM"]
      wide := #v["A.M.", "P.M."] }

end DatePattern
