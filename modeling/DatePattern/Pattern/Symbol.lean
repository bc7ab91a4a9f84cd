/-! # Field letters

The sixteen letters that stand for a field in a pattern. -/

namespace DatePattern

/-- What a field letter asks for. -/
inductive Symbol where
  | year
  | month
  | standaloneMonth
  | day
  | dayOfYear
  | weekday
  | standaloneWeekday
  | era
  | dayPeriod
  | hour12
  | hour23
  | hour11
  | hour24
  | minute
  | second
  | fractionalSecond
deriving DecidableEq, Repr

namespace Symbol

/-- The letter of the symbol. -/
def letter : Symbol → Char
  | year => 'y'
  | month => 'M'
  | standaloneMonth => 'L'
  | day => 'd'
  | dayOfYear => 'D'
  | weekday => 'E'
  | standaloneWeekday => 'c'
  | era => 'G'
  | dayPeriod => 'a'
  | hour12 => 'h'
  | hour23 => 'H'
  | hour11 => 'K'
  | hour24 => 'k'
  | minute => 'm'
  | second => 's'
  | fractionalSecond => 'S'

/-- The symbol of a letter; none for every other character. -/
def ofLetter? : Char → Option Symbol
  | 'y' => some year
  | 'M' => some month
  | 'L' => some standaloneMonth
  | 'd' => some day
  | 'D' => some dayOfYear
  | 'E' => some weekday
  | 'c' => some standaloneWeekday
  | 'G' => some era
  | 'a' => some dayPeriod
  | 'h' => some hour12
  | 'H' => some hour23
  | 'K' => some hour11
  | 'k' => some hour24
  | 'm' => some minute
  | 's' => some second
  | 'S' => some fractionalSecond
  | _ => none

@[simp] theorem ofLetter?_letter (s : Symbol) : ofLetter? s.letter = some s := by
  cases s <;> rfl

theorem ofLetter?_eq_some_iff {c : Char} {s : Symbol} :
    ofLetter? c = some s ↔ c = s.letter := by
  constructor
  · intro h
    unfold ofLetter? at h
    split at h <;> first | contradiction | (cases h; rfl)
  · rintro rfl
    exact ofLetter?_letter s

end Symbol

end DatePattern
