/-! # Fields of a date

The fields of a date and a clock as error messages name them. -/

namespace DatePattern

/-- A calendar or clock field. -/
inductive Field where
  | year
  | month
  | day
  | dayOfYear
  | weekday
  | era
  | dayPeriod
  | hour
  | hour12
  | hour11
  | hour24
  | minute
  | second
  | millisecond
deriving DecidableEq, Repr

namespace Field

/-- Every field, largest unit first. -/
def all : List Field :=
  [year, month, day, dayOfYear, weekday, era, dayPeriod, hour, hour12, hour11, hour24, minute,
    second, millisecond]

/-- How messages name the field; hours are told apart by the range they count. -/
def name : Field → String
  | year => "year"
  | month => "month"
  | day => "day"
  | dayOfYear => "day of year"
  | weekday => "weekday"
  | era => "era"
  | dayPeriod => "day period"
  | hour => "hour"
  | hour12 => "hour (1-12)"
  | hour11 => "hour (0-11)"
  | hour24 => "hour (1-24)"
  | minute => "minute"
  | second => "second"
  | millisecond => "millisecond"

end Field

end DatePattern
