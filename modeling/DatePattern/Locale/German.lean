import DatePattern.Locale.English

/-! # German names -/

namespace DatePattern

/-- The German locale. -/
def Locale.german : Locale where
  code := "de-DE"
  eras :=
    { narrow := #v["v. Chr.", "n. Chr."]
      abbreviated := #v["v. Chr.", "n. Chr."]
      wide := #v["vor Christus", "nach Christus"] }
  months :=
    { narrow := Locale.english.months.narrow
      abbreviated := #v["Jan.", "Feb.", "März", "Apr.", "Mai", "Juni", "Juli", "Aug.", "Sept.",
        "Okt.", "Nov.", "Dez."]
      wide := #v["Januar", "Februar", "März", "April", "Mai", "Juni", "Juli", "August",
        "September", "Oktober", "November", "Dezember"] }
  weekdays :=
    { narrow := #v["S", "M", "D", "M", "D", "F", "S"]
      abbreviated := #v["So.", "Mo.", "Di.", "Mi.", "Do.", "Fr.", "Sa."]
      wide := #v["Sonntag", "Montag", "Dienstag", "Mittwoch", "Donnerstag", "Freitag",
        "Samstag"] }
  dayPeriods :=
    { narrow := Locale.english.dayPeriods.abbreviated
      abbreviated := Locale.english.dayPeriods.abbreviated
      wide := Locale.english.dayPeriods.abbreviated }

end DatePattern
