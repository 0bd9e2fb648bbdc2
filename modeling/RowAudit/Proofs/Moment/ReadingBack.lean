import RowAudit.Moment.Reader
import RowAudit.Proofs.Number.ReadingBack

/-!
# Moments are read back from their texts

Every reader of a part takes exactly the characters that were written for the part, whatever comes
after them (`number?_paddedChars`, `digits?_paddedChars`, `year?_yearChars`). So a layout reads a
date off the front of a text (`parts?_date`), no two dates have one text, and the text of a moment
of the four-digit years is read as this moment without the fraction of its second (`ofText?_text`).
The texts of other years start with a sign and are not read.
-/

namespace RowAudit

open RowAudit.Text RowAudit.Number

/-! ## Padded numbers -/

section
variable {width n : ℕ}

/-- A padded number consists of digits. -/
theorem all_paddedChars (width n : ℕ) : (paddedChars width n).all isAsciiDigit = true := by
  have hzeros : (List.replicate (width - (digitChars n).length) '0').all isAsciiDigit = true := by
    rw [List.all_replicate]
    simp [isAsciiDigit]
  rw [paddedChars, List.all_append, hzeros, all_digitChars, Bool.and_self]

/-- A padded number has a digit. -/
theorem paddedChars_ne_nil (width n : ℕ) : paddedChars width n ≠ [] :=
  List.append_ne_nil_of_right_ne_nil _ Nat.toDigits_ne_nil

/-- A number that fits is padded to its width. -/
theorem length_paddedChars (hwidth : 0 < width) (hn : n < 10 ^ width) :
    (paddedChars width n).length = width := by
  have hlength : (digitChars n).length ≤ width := Nat.toDigits_length 10 n width hwidth hn
  rw [paddedChars, List.length_append, List.length_replicate]
  exact Nat.sub_add_cancel hlength

/-- Padding does not change the value. -/
theorem digitsValue_paddedChars (width n : ℕ) : digitsValue 0 (paddedChars width n) = n := by
  rw [paddedChars, digitsValue_eq, Nat.ofDigitChars_append, Nat.ofDigitChars_replicate_zero,
    mul_zero, ← digitsValue_eq, digitsValue_digitChars]

/-- A padded number starts with a digit. -/
theorem exists_paddedChars_eq (width n : ℕ) :
    ∃ c rest, paddedChars width n = c :: rest ∧ isAsciiDigit c = true := by
  obtain ⟨c, rest, h⟩ := List.exists_cons_of_ne_nil (paddedChars_ne_nil width n)
  have hall := all_paddedChars width n
  rw [h, List.all_cons, Bool.and_eq_true] at hall
  exact ⟨c, rest, h, hall.1⟩

/-- A padded number has nothing blank in front. -/
theorem dropBlanks_paddedChars (width n : ℕ) (rest : List Char) :
    dropBlanks (paddedChars width n ++ rest) = paddedChars width n ++ rest := by
  obtain ⟨c, cs, h, hc⟩ := exists_paddedChars_eq width n
  rw [h, List.cons_append, dropBlanks, List.dropWhile_cons, isBlank_of_isAsciiDigit hc,
    if_neg Bool.false_ne_true]

/-- The first characters, as many as the width, are those of the number. -/
theorem take_paddedChars (hwidth : 0 < width) (hn : n < 10 ^ width) (rest : List Char) :
    (paddedChars width n ++ rest).take width = paddedChars width n :=
  List.take_left' (length_paddedChars hwidth hn)

/-- A number is read if its digits are the first ones and the limit does not cut them off. -/
theorem Layout.number?_of_takeWhile {limit : ℕ} {rest : List Char}
    (h : ((paddedChars width n ++ rest).take limit).takeWhile isAsciiDigit = paddedChars width n) :
    Layout.number? limit (paddedChars width n ++ rest) = some (n, rest) := by
  rw [Layout.number?, h, List.isEmpty_eq_false_iff.2 (paddedChars_ne_nil width n),
    if_neg Bool.false_ne_true, digitsValue_paddedChars, List.drop_left]

/-- A number is read up to its width. -/
theorem Layout.number?_paddedChars (hwidth : 0 < width) (hn : n < 10 ^ width) (rest : List Char) :
    Layout.number? width (paddedChars width n ++ rest) = some (n, rest) := by
  refine Layout.number?_of_takeWhile ?_
  rw [take_paddedChars hwidth hn]
  exact List.takeWhile_eq_self_iff.2 (List.all_eq_true.1 (all_paddedChars width n))

/-- A number without a limit is read up to what is no digit. -/
theorem Layout.number?_length {rest : List Char}
    (hrest : ∀ c ∈ rest.head?, isAsciiDigit c = false) :
    Layout.number? (paddedChars width n ++ rest).length (paddedChars width n ++ rest) =
      some (n, rest) := by
  refine Layout.number?_of_takeWhile ?_
  rw [List.take_length]
  exact congrArg Prod.fst (spanDigits_append (all_paddedChars width n) hrest)

/-- A padded number is read as a group of digits of its width. -/
theorem Moment.digits?_paddedChars (hwidth : 0 < width) (hn : n < 10 ^ width) (rest : List Char) :
    Moment.digits? width (paddedChars width n ++ rest) = some (n, rest) := by
  have hlength := length_paddedChars hwidth hn
  rw [Moment.digits?, take_paddedChars hwidth hn, if_pos ⟨hlength, all_paddedChars width n⟩,
    digitsValue_paddedChars, List.drop_left' hlength]

end

/-! ## Dates -/

/-- Years that are written with four digits and no sign. -/
def FourDigits (year : ℤ) : Prop := 0 ≤ year ∧ year ≤ 9999

instance (year : ℤ) : Decidable (FourDigits year) := inferInstanceAs (Decidable (_ ∧ _))

/-- A year of four digits is written without a sign. -/
theorem yearChars_of_fourDigits {year : ℤ} (h : FourDigits year) :
    yearChars year = paddedChars 4 year.toNat := if_pos h

/-- A year that has not four digits is written with its sign. -/
theorem yearChars_of_not {year : ℤ} (h : ¬FourDigits year) :
    yearChars year = (if year < 0 then '-' else '+') :: paddedChars 4 year.natAbs := if_neg h

/-- A year is read back if a dash follows, from four digits or from a sign and all digits. -/
theorem Layout.year?_yearChars (year : ℤ) (rest : List Char) :
    Layout.year? (yearChars year ++ '-' :: rest) = some (year, '-' :: rest) := by
  have hdash : ∀ c ∈ ('-' :: rest).head?, isAsciiDigit c = false := by
    rintro c ⟨⟩
    rfl
  by_cases hyear : FourDigits year
  · have hread : Layout.number? 4 (paddedChars 4 year.toNat ++ '-' :: rest) =
        some (year.toNat, '-' :: rest) :=
      Layout.number?_paddedChars (by decide) (by have := hyear.2; omega) _
    obtain ⟨c, cs, hcs, hc⟩ := exists_paddedChars_eq 4 year.toNat
    have hcast : (year.toNat : ℤ) = year := Int.toNat_of_nonneg hyear.1
    rw [yearChars_of_fourDigits hyear]
    rw [hcs] at hread ⊢
    unfold Layout.year?
    split
    · next h => cases h; cases hc
    · next h => cases h; cases hc
    · rw [hread]
      exact congrArg some (Prod.ext hcast rfl)
  · have hread := @Layout.number?_length 4 year.natAbs _ hdash
    rw [yearChars_of_not hyear, List.cons_append]
    by_cases hneg : year < 0
    · have hcast : -(year.natAbs : ℤ) = year := by omega
      simp only [if_pos hneg, Layout.year?, hread, Option.map_some, hcast]
    · have hcast : (year.natAbs : ℤ) = year := by omega
      simp only [if_neg hneg, Layout.year?, hread, Option.map_some, hcast]

/-- A year starts with a digit or a sign. -/
theorem exists_yearChars_eq (year : ℤ) :
    ∃ c rest, yearChars year = c :: rest ∧ isBlank c = false := by
  by_cases hyear : FourDigits year
  · obtain ⟨c, rest, h, hc⟩ := exists_paddedChars_eq 4 year.toNat
    exact ⟨c, rest, (yearChars_of_fourDigits hyear).trans h, isBlank_of_isAsciiDigit hc⟩
  · refine ⟨_, _, yearChars_of_not hyear, ?_⟩
    split <;> rfl

/-- No white space is dropped in front of a year. -/
theorem dropBlanks_yearChars (year : ℤ) (rest : List Char) :
    dropBlanks (yearChars year ++ rest) = yearChars year ++ rest := by
  obtain ⟨c, cs, h, hc⟩ := exists_yearChars_eq year
  rw [h, List.cons_append, dropBlanks, List.dropWhile_cons, hc, if_neg Bool.false_ne_true]

/-- Months are counted from 1 to 12. -/
theorem Date.month_mem (d : Date) : 1 ≤ d.month ∧ d.month ≤ 12 := by
  have hdays : daysInMonth d.year d.month ≠ 0 := by
    have := d.day_mem
    omega
  unfold daysInMonth at hdays
  split at hdays <;> omega

/-- A month has 31 days at most. -/
theorem Date.day_le (d : Date) : d.day ≤ 31 := by
  have hdays : daysInMonth d.year d.month ≤ 31 := by
    unfold daysInMonth
    split <;> try split
    all_goals decide
  exact d.day_mem.2.trans hdays

namespace Layout

/-- The parts that a date has. -/
def Parts.ofDate (d : Date) : Parts :=
  { year := some d.year, month := some d.month, day := some d.day }

/-- The parts that the text of a moment has. -/
def Parts.ofMoment (m : Moment) : Parts :=
  { year := some m.date.year, month := some m.date.month, day := some m.date.day,
    hour := some m.hour, minute := some m.minute, second := some m.shownSecond }

/-- A date is read off the front of a text. -/
theorem parts?_date (d : Date) (ds : List Directive) (rest : List Char) :
    parts? (.year :: .literal '-' :: .month :: .literal '-' :: .day :: ds) {} (d.chars ++ rest) =
      parts? ds (.ofDate d) rest := by
  obtain ⟨hmonth, hmonth'⟩ := d.month_mem
  obtain ⟨hday, hday'⟩ := And.intro d.day_mem.1 d.day_le
  have hreadMonth (rest : List Char) :=
    number?_paddedChars (n := d.month) (Nat.zero_lt_two) (by omega) rest
  have hreadDay (rest : List Char) :=
    number?_paddedChars (n := d.day) (Nat.zero_lt_two) (by omega) rest
  have hinMonth : ¬(d.month < 1 ∨ 12 < d.month) := by omega
  have hinDay : ¬(d.day < 1 ∨ 31 < d.day) := by omega
  simp only [Date.chars, List.append_assoc, List.cons_append, parts?, step, dropBlanks_yearChars,
    year?_yearChars, dropBlanks_paddedChars, hreadMonth, hreadDay, agree, Option.bind_eq_bind,
    Option.bind_some, if_true, if_neg hinMonth, if_neg hinDay]
  rfl

/-- The parts of a date are put together to the date. -/
theorem Parts.date?_ofDate (d : Date) : (Parts.ofDate d).date? = some d := by
  show Date.of? d.year d.month d.day = some d
  rw [Date.of?, dif_pos d.year_mem, dif_pos d.day_mem]

end Layout

/-- Padded numbers of one width are told apart in front of any rest. -/
theorem paddedChars_append_inj {width m n : ℕ} {rest rest' : List Char} (hwidth : 0 < width)
    (hm : m < 10 ^ width) (hn : n < 10 ^ width)
    (h : paddedChars width m ++ rest = paddedChars width n ++ rest') : m = n ∧ rest = rest' := by
  have hread := Layout.number?_paddedChars hwidth hm rest
  rw [h, Layout.number?_paddedChars hwidth hn, Option.some_inj, Prod.mk.injEq] at hread
  exact ⟨hread.1.symm, hread.2.symm⟩

/-- Dates are told apart in front of any rest. -/
theorem Date.chars_append_inj {d d' : Date} {rest rest' : List Char}
    (h : d.chars ++ rest = d'.chars ++ rest') : d = d' ∧ rest = rest' := by
  simp only [Date.chars, List.append_assoc, List.cons_append] at h
  have hyear := Layout.year?_yearChars d.year
    (paddedChars 2 d.month ++ '-' :: (paddedChars 2 d.day ++ rest))
  rw [h, Layout.year?_yearChars, Option.some_inj, Prod.mk.injEq, List.cons.injEq] at hyear
  obtain ⟨hyear, -, hmonthDay⟩ := hyear
  have hmonth := d.month_mem.2
  have hmonth' := d'.month_mem.2
  have hday := d.day_le
  have hday' := d'.day_le
  obtain ⟨hmonth, hdayRest⟩ :=
    paddedChars_append_inj Nat.zero_lt_two (by omega) (by omega) hmonthDay
  obtain ⟨hday, hrest⟩ := paddedChars_append_inj Nat.zero_lt_two (by omega) (by omega)
    (List.cons.inj hdayRest).2
  refine ⟨?_, hrest.symm⟩
  cases d
  cases d'
  cases hyear
  cases hmonth
  cases hday
  rfl

namespace Moment

/-! ## Moments -/

/-- The time of day as it is written after a date. -/
def timeChars (m : Moment) : List Char :=
  paddedChars 2 m.hour ++ ':' :: paddedChars 2 m.minute ++ ':' :: paddedChars 2 m.shownSecond

/-- The text of a moment is its date, followed by the time unless it is the start of the day. -/
theorem chars_eq_append (m : Moment) : ∃ time, m.chars = m.date.chars ++ time ∧
    (time = [] ∧ m = startOfDay m.date ∨ time = 'T' :: m.timeChars) := by
  by_cases hstart : m.secondOfDay = 0 ∧ m.nano = 0
  · refine ⟨[], (if_pos hstart).trans (List.append_nil _).symm, .inl ⟨rfl, ?_⟩⟩
    obtain ⟨date, hour, minute, second, nano, _, _, _, _⟩ := m
    obtain ⟨hsecond, rfl : nano = 0⟩ := hstart
    obtain ⟨rfl, rfl, rfl⟩ : hour = 0 ∧ minute = 0 ∧ second = 0 := by
      simp only [secondOfDay] at hsecond
      omega
    rfl
  · refine ⟨_, (if_neg hstart).trans ?_, .inr rfl⟩
    simp only [timeChars, List.append_assoc, List.cons_append]

/-- Moments of one text are of one day. -/
theorem date_eq_of_text_eq {m m' : Moment} (h : m.text = m'.text) : m.date = m'.date := by
  have hchars : m.chars = m'.chars := String.ofList_injective h
  obtain ⟨time, htime, -⟩ := m.chars_eq_append
  obtain ⟨time', htime', -⟩ := m'.chars_eq_append
  rw [htime, htime'] at hchars
  exact (Date.chars_append_inj hchars).1

/-- The moment without the fraction of its second. A leap second stays one. -/
def wholeSecond (m : Moment) : Moment :=
  { m with
    nano := m.nano / 1000000000 * 1000000000
    nano_lt := by have := m.nano_lt; omega }

/-- A day starts at a whole second. -/
theorem wholeSecond_startOfDay (d : Date) : (startOfDay d).wholeSecond = startOfDay d := by
  simp [wholeSecond, startOfDay]

/-- A moment is made of its date and its time. -/
theorem of?_self (m : Moment) : of? m.date m.hour m.minute m.second m.nano = some m := by
  rw [of?, dif_pos m.hour_lt, dif_pos m.minute_lt, dif_pos m.second_lt, dif_pos m.nano_lt]

section
variable {m : Moment}

/-- The second that is shown is at most 60, which is that of a leap second. -/
theorem shownSecond_le (m : Moment) : m.shownSecond ≤ 60 := by
  have := m.second_lt
  have := m.nano_lt
  rw [shownSecond]
  omega

/-- A number of some width is taken off the front of a text. -/
theorem digits?_bind {α : Type} {width n : ℕ} (hwidth : 0 < width) (hn : n < 10 ^ width)
    (rest : List Char) (f : ℕ × List Char → Option α) :
    (digits? width (paddedChars width n ++ rest)).bind f = f (n, rest) := by
  rw [digits?_paddedChars hwidth hn, Option.bind_some]

/-- A character that is expected is passed over. -/
theorem char?_bind {α : Type} (c : Char) (rest : List Char) (f : List Char → Option α) :
    (char? c (c :: rest)).bind f = f rest := by
  rw [char?, if_pos rfl, Option.bind_some]

/-- No group of digits starts with anything else. -/
theorem digits?_eq_none {width : ℕ} {c : Char} {rest : List Char} (hc : isAsciiDigit c = false) :
    digits? (width + 1) (c :: rest) = none := by
  rw [digits?, List.take_succ_cons, List.all_cons, hc, Bool.false_and, if_neg]
  exact fun h => Bool.false_ne_true h.2

/-- Neither a date alone nor a time without a zone is a full timestamp. -/
theorem zoned?_chars (hyear : FourDigits m.date.year) : zoned? m.chars = none := by
  have hyear' : m.date.year.toNat < 10 ^ 4 := by have := hyear.2; omega
  have hmonth : m.date.month < 10 ^ 2 := by have := m.date.month_mem; omega
  have hday : m.date.day < 10 ^ 2 := by have := m.date.day_le; omega
  have hhour : m.hour < 10 ^ 2 := by have := m.hour_lt; omega
  have hminute : m.minute < 10 ^ 2 := by have := m.minute_lt; omega
  have hsecond : m.shownSecond < 10 ^ 2 := by have := m.shownSecond_le; omega
  obtain ⟨time, hchars, htime⟩ := m.chars_eq_append
  rw [hchars, Date.chars, yearChars_of_fourDigits hyear]
  simp only [List.append_assoc, List.cons_append]
  refine (digits?_bind (by decide) hyear' _ _).trans ?_
  refine (char?_bind _ _ _).trans ?_
  refine (digits?_bind (by decide) hmonth _ _).trans ?_
  refine (char?_bind _ _ _).trans ?_
  refine (digits?_bind (by decide) hday _ _).trans ?_
  obtain ⟨rfl, -⟩ | rfl := htime
  · rfl
  · rw [timeChars, List.append_assoc, List.cons_append]
    refine (digits?_bind (by decide) hhour _ _).trans ?_
    refine (char?_bind _ _ _).trans ?_
    refine (digits?_bind (by decide) hminute _ _).trans ?_
    refine (char?_bind _ _ _).trans ?_
    rw [← List.append_nil (paddedChars 2 m.shownSecond)]
    exact digits?_bind (by decide) hsecond _ _

/-- The time of day is read to the end of the text. -/
theorem parts?_timeChars (m : Moment) :
    Layout.parts? [.hour, .literal ':', .minute, .literal ':', .second, .fraction]
      (.ofDate m.date) m.timeChars = some (.ofMoment m) := by
  have hhour := m.hour_lt
  have hminute := m.minute_lt
  have hsecond := m.shownSecond_le
  have hreadHour (rest : List Char) :=
    Layout.number?_paddedChars (n := m.hour) Nat.zero_lt_two (by omega) rest
  have hreadMinute (rest : List Char) :=
    Layout.number?_paddedChars (n := m.minute) Nat.zero_lt_two (by omega) rest
  have hreadSecond := Layout.number?_paddedChars (n := m.shownSecond) Nat.zero_lt_two (by omega) []
  have hblanks := dropBlanks_paddedChars 2 m.shownSecond []
  rw [List.append_nil] at hreadSecond hblanks
  have hinHour : ¬23 < m.hour := by omega
  have hinMinute : ¬59 < m.minute := by omega
  have hinSecond : ¬60 < m.shownSecond := by omega
  simp only [timeChars, List.append_assoc, List.cons_append, Layout.parts?, Layout.step,
    dropBlanks_paddedChars, hblanks, hreadHour, hreadMinute, hreadSecond, Layout.Parts.ofDate,
    Layout.agree, Option.bind_eq_bind, Option.bind_some, if_true, if_neg hinHour, if_neg hinMinute,
    if_neg hinSecond]
  rfl

/-- The parts of its text give a moment to the second. -/
theorem moment?_ofMoment (m : Moment) : (Layout.Parts.ofMoment m).moment? = some m.wholeSecond := by
  have hsecond := m.second_lt
  have hnano := m.nano_lt
  have hdate : (Layout.Parts.ofMoment m).date? = some m.date := Layout.Parts.date?_ofDate m.date
  have hself : of? m.date m.hour m.minute m.second (m.nano / 1000000000 * 1000000000) =
    some m.wholeSecond := m.wholeSecond.of?_self
  rw [Layout.Parts.moment?, hdate]
  show (if m.shownSecond = 60 then of? m.date m.hour m.minute 59 1000000000
    else of? m.date m.hour m.minute m.shownSecond 0) = _
  by_cases hleap : m.nano < 1000000000
  · have hwhole : m.nano / 1000000000 = 0 := Nat.div_eq_of_lt hleap
    rw [hwhole] at hself
    rw [shownSecond, hwhole, Nat.add_zero, if_neg (by omega), ← hself]
  · obtain ⟨hlast, hwhole⟩ : m.second = 59 ∧ m.nano / 1000000000 = 1 := by omega
    rw [hlast, hwhole] at hself
    rw [shownSecond, hlast, hwhole, if_pos rfl, ← hself]

/-- The layouts of timestamps, directive by directive. -/
theorem timestampLayouts_eq : timestampLayouts =
    let date rest := Layout.Directive.year :: .literal '-' :: .month :: .literal '-' :: .day :: rest
    let time rest := Layout.Directive.hour :: .literal ':' :: .minute :: rest
    [date (.literal 'T' :: time [.literal ':', .second, .fraction]),
     date (.blanks :: time [.literal ':', .second, .fraction]),
     date (.literal 'T' :: time []), date (.blanks :: time [])] := by
  decide +kernel

/-- The layouts of dates, directive by directive. -/
theorem dateLayouts_eq : dateLayouts =
    [[.year, .literal '-', .month, .literal '-', .day],
     [.year, .literal '/', .month, .literal '/', .day]] := by
  decide +kernel

/-- A date alone is no timestamp. -/
theorem timestampLayouts_date (d : Date) :
    (timestampLayouts.findSome? fun l => Layout.moment? l d.chars) = none := by
  have hseparator (ds : List Layout.Directive) (p : Layout.Parts) :
      Layout.parts? (.literal 'T' :: ds) p [] = none ∧
        Layout.parts? (.blanks :: .hour :: ds) p [] = none := ⟨rfl, rfl⟩
  rw [timestampLayouts_eq, ← List.append_nil d.chars]
  simp only [List.findSome?_cons, List.findSome?_nil, Layout.moment?, Layout.parts?_date,
    (hseparator _ _).1, (hseparator _ _).2, Option.bind_none]

/-- The layouts of dates read a date from its characters. -/
theorem dateLayouts_date (d : Date) :
    (dateLayouts.findSome? fun l => Layout.date? l d.chars) = some d := by
  have hread : Layout.date? [.year, .literal '-', .month, .literal '-', .day] d.chars = some d := by
    rw [Layout.date?, ← List.append_nil d.chars, Layout.parts?_date]
    exact Layout.Parts.date?_ofDate d
  rw [dateLayouts_eq, List.findSome?_cons, hread]

/-- A date with a time of day is a timestamp of the first layout. -/
theorem timestampLayouts_time (m : Moment) :
    (timestampLayouts.findSome? fun l => Layout.moment? l (m.date.chars ++ 'T' :: m.timeChars)) =
      some m.wholeSecond := by
  have htime := parts?_timeChars m
  rw [timestampLayouts_eq]
  dsimp only
  rw [List.findSome?_cons, Layout.moment?, Layout.parts?_date, Layout.parts?]
  dsimp only [Layout.step]
  rw [if_pos rfl]
  dsimp only
  rw [htime, Option.bind_some, moment?_ofMoment]

/-- The text of a moment starts with a digit or a sign and ends with a digit. -/
theorem trimChars_chars (m : Moment) : trimChars m.chars = m.chars := by
  refine trimChars_eq_self ?_ ?_
  · obtain ⟨time, htime, -⟩ := m.chars_eq_append
    obtain ⟨c, rest, hyear, hc⟩ := exists_yearChars_eq m.date.year
    rw [htime, Date.chars, hyear]
    rintro _ ⟨⟩
    exact hc
  · obtain ⟨cs, n, hchars⟩ : ∃ cs n, m.chars = cs ++ paddedChars 2 n := by
      rw [chars]
      split
      · exact ⟨_, _, (List.append_cons _ _ _).trans rfl⟩
      · exact ⟨_, _, (List.append_cons _ _ _).trans rfl⟩
    intro c hc
    rw [hchars, List.getLast?_append_of_ne_nil _ (paddedChars_ne_nil 2 n)] at hc
    exact isBlank_of_isAsciiDigit
      (List.all_eq_true.1 (all_paddedChars 2 n) c (List.mem_of_mem_getLast? hc))

/-- Four-digit years make texts that are long enough and start with four digits. -/
theorem chars_of_fourDigits (hyear : FourDigits m.date.year) :
    8 ≤ byteLength m.chars ∧ (digits? 4 m.chars).isSome := by
  have hyear' : m.date.year.toNat < 10 ^ 4 := by have := hyear.2; omega
  have hmonth : m.date.month < 10 ^ 2 := by have := m.date.month_mem; omega
  obtain ⟨time, hchars, -⟩ := m.chars_eq_append
  refine ⟨le_trans ?_ (length_le_byteLength m.chars), ?_⟩
  all_goals rw [hchars, Date.chars, yearChars_of_fourDigits hyear]
  · have hlong := length_paddedChars (by decide) hyear'
    have hshort := length_paddedChars (by decide) hmonth
    simp only [List.length_append, List.length_cons, hlong, hshort]
    omega
  · rw [List.append_assoc, List.append_assoc, digits?_paddedChars (by decide) hyear']
    rfl

/-- The text of a moment is read as this moment without the fraction of its second, unless its year
is written with a sign: then it is not read. -/
theorem ofText?_text (m : Moment) :
    ofText? m.text = if FourDigits m.date.year then some m.wholeSecond else none := by
  rw [ofText?, text, String.toList_ofList, trimChars_chars]
  obtain ⟨time, hchars, htime⟩ := m.chars_eq_append
  by_cases hyear : FourDigits m.date.year
  · have hlong : ¬(byteLength m.chars < 8 ∨ (digits? 4 m.chars).isNone) := by
      obtain ⟨hbytes, hdigits⟩ := chars_of_fourDigits hyear
      rw [not_or, Option.isNone_eq_false_iff.2 hdigits]
      exact ⟨hbytes.not_gt, Bool.false_ne_true⟩
    rw [ofChars?, if_neg hlong, zoned?_chars hyear, Option.none_or, if_pos hyear, hchars]
    obtain ⟨rfl, hstart⟩ | rfl := htime
    · have hwhole : m.wholeSecond = m := by rw [hstart, wholeSecond_startOfDay]
      rw [List.append_nil, timestampLayouts_date, dateLayouts_date, hwhole, Option.none_or,
        Option.map_some, ← hstart]
    · rw [timestampLayouts_time, Option.some_or]
  · have hdigits : digits? 4 m.chars = none := by
      rw [hchars, Date.chars, yearChars_of_not hyear]
      split
      · exact digits?_eq_none rfl
      · exact digits?_eq_none rfl
    rw [ofChars?, hdigits, if_pos (.inr rfl), if_neg hyear]

/-- A moment that is read from the text of a moment is of the same day. -/
theorem date_eq_of_ofText?_text {m' : Moment} (h : ofText? m.text = some m') :
    m'.date = m.date := by
  rw [ofText?_text] at h
  split at h
  · cases h
    rfl
  · cases h

/-- Digits in front of a dash are no number. -/
theorem unsigned?_dash {ds rest : List Char} (hds : ds.all isAsciiDigit = true) (hne : ds ≠ []) :
    unsigned? (ds ++ '-' :: rest) = none := by
  have hspan : spanDigits (ds ++ '-' :: rest) = (ds, '-' :: rest) := by
    refine spanDigits_append hds ?_
    rintro c ⟨⟩
    rfl
  rw [unsigned?, hspan]
  dsimp only
  rw [List.isEmpty_eq_false_iff.2 hne, Bool.false_and, if_neg Bool.false_ne_true]
  rfl

/-- The text of a moment spells no number. -/
theorem number_ofText?_text (m : Moment) : Number.ofText? m.text = none := by
  obtain ⟨time, hchars, -⟩ := m.chars_eq_append
  have hmagnitude (width n : ℕ) (rest : List Char) :
      magnitude? (paddedChars width n ++ '-' :: rest) = none := by
    have hread := @unsigned?_dash _ rest (all_paddedChars width n) (paddedChars_ne_nil width n)
    obtain ⟨c, cs, hcs, hc⟩ := exists_paddedChars_eq width n
    rw [hcs] at hread ⊢
    exact (magnitude?_cons hc).trans hread
  have hread : Number.ofChars? m.chars = none := by
    rw [hchars, Date.chars, List.append_assoc, List.append_assoc, List.cons_append]
    by_cases hyear : FourDigits m.date.year
    · rw [yearChars_of_fourDigits hyear]
      have hread := hmagnitude 4 m.date.year.toNat
      obtain ⟨c, cs, hcs, hc⟩ := exists_paddedChars_eq 4 m.date.year.toNat
      rw [hcs] at hread ⊢
      exact (ofChars?_cons hc).trans (hread _)
    · rw [yearChars_of_not hyear]
      split
      · exact congrArg (Option.map _) (hmagnitude _ _ _)
      · exact hmagnitude _ _ _
  rw [Number.ofText?, text, String.toList_ofList, trimChars_chars, hread]
  rfl

end

end Moment

end RowAudit
