import DatePattern.Calendar.Clock
import DatePattern.Calendar.EpochDay
import DatePattern.Calendar.Era
import DatePattern.Calendar.Range
import DatePattern.Calendar.Year
import DatePattern.Date.Arithmetic
import DatePattern.Date.Basic
import DatePattern.Date.Reading
import DatePattern.Date.Wire
import DatePattern.Date.Written
import DatePattern.Error
import DatePattern.Field
import DatePattern.Locale.Basic
import DatePattern.Locale.English
import DatePattern.Locale.German
import DatePattern.Locale.NamePool
import DatePattern.Pattern.Draft
import DatePattern.Pattern.Format
import DatePattern.Pattern.Options
import DatePattern.Pattern.Parse
import DatePattern.Pattern.Slot
import DatePattern.Pattern.Symbol
import DatePattern.Pattern.Token
import DatePattern.Text.Blank
import DatePattern.Text.Cursor
import DatePattern.Text.Invisible
import DatePattern.Text.LowerCase
import DatePattern.Text.Numeral
import DatePattern.Text.Quoted
import DatePattern.Text.Real
import DatePattern.Proofs.Calendar.DayCount
import DatePattern.Proofs.Calendar.CountedDays
import DatePattern.Proofs.Date.Construction
import DatePattern.Proofs.Locale.Recognition
import DatePattern.Proofs.Text.Digits
import DatePattern.Proofs.Pattern.ReadBack
import DatePattern.Proofs.Pattern.RoundTrip
import DatePattern.Proofs.Date.WrittenForm
import DatePattern.Proofs.Text.Boundary
import DatePattern.Proofs.Pattern.Consumption
import DatePattern.Proofs.Pattern.CursorSafety
import DatePattern.Proofs.Pattern.NumericGrammar
import DatePattern.Proofs.Date.Rollover
import DatePattern.Proofs.Date.WrittenGrammar
import DatePattern.Proofs.Pattern.Replay
import DatePattern.Proofs.Pattern.OrdinalOrder
import DatePattern.Proofs.Pattern.Anchoring
import DatePattern.Proofs.Pattern.Tokenization
import DatePattern.Proofs.Locale.LongestMatch
import DatePattern.Proofs.Pattern.NameReading
import DatePattern.Proofs.Pattern.SingleField
import DatePattern.Proofs.Date.Successor
import DatePattern.Proofs.Date.YearLimit
import DatePattern.Proofs.Date.IsoForm
import DatePattern.Proofs.Locale.Overtaking
import DatePattern.Proofs.Pattern.AddedLocale
import DatePattern.Proofs.Calendar.MonthCount
import DatePattern.Proofs.Date.MonthArithmetic
import DatePattern.Pattern.InPlace
import DatePattern.Proofs.Pattern.FieldEffects
import DatePattern.Proofs.Pattern.Defaults
import DatePattern.Proofs.Date.CalendarOrder
import DatePattern.Proofs.Date.Truncation
import DatePattern.Proofs.Date.DayArithmetic
import DatePattern.Proofs.Pattern.JoinedPatterns
import DatePattern.Proofs.Calendar.Moment
import DatePattern.Pattern.ByLetter
import DatePattern.Proofs.Pattern.SupportedLengths
import DatePattern.Proofs.Pattern.LiteralPatterns
import DatePattern.Proofs.Pattern.QuotedPattern
import DatePattern.Locale.Candidates
import DatePattern.Proofs.Pattern.LongestName
import DatePattern.Proofs.Pattern.CaseBlind
import DatePattern.Proofs.Pattern.TwoDigitYears
import DatePattern.Proofs.Date.WrittenErrors
import DatePattern.Machine.Integer
import DatePattern.Machine.Calendar
import DatePattern.Machine.Date
import DatePattern.Machine.Parse
import DatePattern.Proofs.Machine.Calendar
import DatePattern.Proofs.Machine.Date
import DatePattern.Proofs.Machine.Readers
import DatePattern.Proofs.Machine.Parse
import DatePattern.Proofs.Machine.SafeCursors
import DatePattern.Proofs.Machine.DigitRuns
import DatePattern.Proofs.Machine.OrdinalDays
