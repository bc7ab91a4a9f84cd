import DatePattern.Proofs.Date.WrittenForm

/-! # The written form as a pattern

`isoPattern` shows the year of the era where the written form has the astronomical year; all else
the two show alike (`Date.format_isoPattern`).  The years are the same from 1 on.  The year 0 is the
first before Christ, and those before it are written with a sign, which no year of an era has. -/

namespace DatePattern

theorem tokenize_isoPattern :
    tokenize isoPattern.toList = .field .year 4 :: tokensAfterYear := by decide

namespace Date

variable (d : Date)

theorem format_isoPattern (locale : Option Locale) :
    format (.date d) isoPattern locale =
      some (String.ofList (padded 4 (yearOfEra d.year) ++ d.charsAfterYear)) := by
  rw [format_eq_some_iff, tokenize_isoPattern, String.toList_ofList, renderTokens_cons_eq_some_iff]
  exact ⟨_, _, rfl, d.renderTokens_tokensAfterYear locale, rfl⟩

end Date

/-- The year of the era, padded, is the written year exactly from the year 1 on. -/
theorem padded_yearOfEra_eq_iff (year : Int) :
    padded 4 (yearOfEra year) = writtenYear year ↔ 1 ≤ year := by
  rw [writtenYear]
  rcases lt_trichotomy year 0 with hneg | rfl | hpos
  · rw [if_pos hneg]
    constructor
    · intro h
      -- a numeral has no sign in front
      have hsign : ('-').isDigit :=
        isDigit_of_mem_padded (h ▸ List.mem_cons_self : '-' ∈ padded 4 (yearOfEra year))
      contradiction
    · omega
  · decide
  · have hyear : yearOfEra year = year.natAbs := by
      have hera := yearOfEra_of_pos hpos
      omega
    rw [if_neg (by omega), hyear]
    exact iff_of_true rfl hpos

/-- The pattern of the written form shows a date as it is written exactly in the years from 1 on,
whatever the locale is. -/
theorem format_isoPattern_eq_toText_iff (d : Date) (locale : Option Locale) :
    format (.date d) isoPattern locale = some d.toText ↔ 1 ≤ d.year := by
  have hwritten : d.chars = writtenYear d.year ++ d.charsAfterYear := by
    rw [d.chars_eq, writtenYear, Date.unsignedChars]
    split <;> rfl
  rw [d.format_isoPattern, Option.some_inj, Date.toText, String.ofList_inj, hwritten,
    List.append_left_inj, padded_yearOfEra_eq_iff]

/-- New Year of the year 0, the first before Christ. -/
theorem format_isoPattern_yearZero :
    (⟨-62167219200000, by decide⟩ : Date).calendarDay = ⟨0, 0, 1⟩ ∧
      format (.date ⟨-62167219200000, by decide⟩) isoPattern none =
        some "0001-01-01T00:00:00.000" ∧
      (⟨-62167219200000, by decide⟩ : Date).toText = "0000-01-01T00:00:00.000" :=
  ⟨by decide +kernel, by decide +kernel, by decide +kernel⟩

end DatePattern
