import OrgAccess.Instant.Text
import OrgAccess.Proofs.Instant.Calendar

/-!
# Timestamps are read back

What is written of an instant is read as the instant (`ofText?_text`) if a timestamp can tell it:
its year has dates, and a leap second comes after the last second of a minute (`IsTimestamp`). No
other instant is read from any text (`isTimestamp_of_ofText?`). Each reader takes from the front of
a text what its writer has put there and leaves the rest, so the lemmas are stated of a text that
goes on. A number ends where it has all its digits or where no digit follows (`Spells`,
`NoDigitNext`).
-/

namespace OrgAccess

namespace Instant

open Text (trimStart)

/-! ## Digits -/

/-- The number that digits spell is the one that the library reads in base ten. -/
theorem numberOf_eq_ofDigitChars (ds : List Char) :
    numberOf ds = Nat.ofDigitChars 10 ds 0 := by
  rw [numberOf, Nat.ofDigitChars_eq_foldl]
  congr 1
  funext total c
  rw [Nat.mul_comm]

/-- Zeros at the end multiply by powers of ten. -/
theorem numberOf_append_zeros (ds : List Char) (count : Nat) :
    numberOf (ds ++ List.replicate count '0') = Nat.pow 10 count * numberOf ds := by
  rw [numberOf_eq_ofDigitChars, Nat.ofDigitChars_append, Nat.ofDigitChars_replicate_zero,
    ← numberOf_eq_ofDigitChars]
  rfl

/-- Digits that spell a number, at least one. -/
structure Spells (ds : List Char) (n : Nat) : Prop where
  digits : ∀ c ∈ ds, c.isDigit = true
  nonempty : ds ≠ []
  number : numberOf ds = n

/-- A padded number is zeros followed by its digits. -/
theorem toList_padded (width n : Nat) :
    (padded width n).toList =
      List.replicate (width - (Nat.toDigits 10 n).length) '0' ++ Nat.toDigits 10 n := by
  simp [padded, Nat.repr_eq_ofList_toDigits]

/-- A padded number spells the number, however wide it is. -/
theorem spells_padded (width n : Nat) : Spells (padded width n).toList n where
  digits := by
    rw [toList_padded]
    intro c hc
    rcases List.mem_append.1 hc with hzero | hdigit
    · rw [List.eq_of_mem_replicate hzero]
      rfl
    · exact Nat.isDigit_of_mem_toDigits (by decide) (by decide) hdigit
  nonempty := by
    rw [toList_padded]
    exact List.append_ne_nil_of_right_ne_nil _ Nat.toDigits_ne_nil
  number := by
    rw [toList_padded, numberOf_eq_ofDigitChars, Nat.ofDigitChars_append,
      Nat.ofDigitChars_replicate_zero, Nat.mul_zero, Nat.ofDigitChars_ten_toDigits]

/-- A number that has no more digits than the width has just the width. -/
theorem length_padded {width n : Nat} (h : (Nat.toDigits 10 n).length ≤ width) :
    (padded width n).toList.length = width := by
  rw [toList_padded, List.length_append, List.length_replicate]
  omega

/-- No digit is blank. -/
theorem isBlank_of_isDigit {c : Char} (h : c.isDigit = true) : Text.isBlank c = false := by
  have hbounds : 48 ≤ c.toNat ∧ c.toNat ≤ 57 := Char.isDigit_iff_toNat.1 h
  simp [Text.isBlank, Text.blankRanges]
  omega

/-- A text that goes on with no digit. -/
def NoDigitNext (cs : List Char) : Prop :=
  ∀ c, cs.head? = some c → c.isDigit = false

/-- A text that goes on with another character goes on with no digit. -/
theorem noDigitNext_cons {c : Char} (h : c.isDigit = false) (cs : List Char) :
    NoDigitNext (c :: cs) := by
  intro d hd
  rwa [← Option.some.inj hd]

namespace Spells

variable {ds rest : List Char} {n : Nat}

/-- A number begins with a digit. -/
theorem exists_eq_cons (h : Spells ds n) : ∃ c cs, ds = c :: cs ∧ c.isDigit = true := by
  obtain ⟨c, cs, rfl⟩ := List.exists_cons_of_ne_nil h.nonempty
  exact ⟨c, cs, rfl, h.digits c List.mem_cons_self⟩

/-- No blank stands before a number. -/
theorem trimStart_append (h : Spells ds n) (rest : List Char) :
    trimStart (ds ++ rest) = ds ++ rest := by
  obtain ⟨c, cs, rfl, hdigit⟩ := h.exists_eq_cons
  apply Text.dropWhile_eq_self
  intro d hd
  rw [← Option.some.inj hd]
  exact isBlank_of_isDigit hdigit

/-- The digits at the front are those of the number, if none follows. -/
theorem takeWhile_append (h : Spells ds n) (hnext : NoDigitNext rest) :
    (ds ++ rest).takeWhile Char.isDigit = ds := by
  have hrest : rest.takeWhile Char.isDigit = [] := by
    cases rest with
    | nil => rfl
    | cons c cs => exact List.takeWhile_cons_of_neg (by simp [hnext c rfl])
  rw [List.takeWhile_append_of_pos h.digits, hrest, List.append_nil]

/-- The same where no more than so many characters are looked at. -/
theorem takeWhile_take_append (h : Spells ds n) {most : Nat} (hlength : ds.length ≤ most)
    (hstop : ds.length = most ∨ NoDigitNext rest) :
    ((ds ++ rest).take most).takeWhile Char.isDigit = ds := by
  rw [List.take_append, List.take_of_length_le hlength]
  apply h.takeWhile_append
  intro c hc
  rcases hstop with hfull | hnext
  · simp [hfull] at hc
  · rw [List.head?_take] at hc
    split at hc
    · cases hc
    · exact hnext c hc

/-- A number is read as far as its digits go. -/
theorem number?_append (h : Spells ds n) {most : Nat} (hlength : ds.length ≤ most)
    (hstop : ds.length = most ∨ NoDigitNext rest) :
    number? most (ds ++ rest) = some (n, rest) := by
  have hdigits := h.takeWhile_take_append hlength hstop
  simp only [number?, hdigits, List.isEmpty_iff, if_neg h.nonempty, h.number, List.drop_left]

/-- A fraction is read as the number of billionths that its digits come to. -/
theorem fraction?_append (h : Spells ds n) (hlength : ds.length ≤ 9)
    (hnext : NoDigitNext rest) :
    fraction? ('.' :: (ds ++ rest)) = some (Nat.pow 10 (9 - ds.length) * n, rest) := by
  have hdigits := h.takeWhile_take_append hlength (.inr hnext)
  have hfirst : ∃ found, number? 1 (ds ++ rest) = some found := by
    obtain ⟨c, cs, rfl, hdigit⟩ := h.exists_eq_cons
    simp [number?, hdigit]
  have hdrop : (ds ++ rest).dropWhile Char.isDigit = rest := by
    rw [List.dropWhile_append_of_pos h.digits]
    exact Text.dropWhile_eq_self hnext
  obtain ⟨found, hfirst⟩ := hfirst
  simp only [fraction?, hfirst, hdigits, hdrop, numberOf_append_zeros, h.number]
  rfl

end Spells

/-! ## Fields -/

/-- A field of two digits is read. -/
theorem field?_padded {low high n : Nat} (hlow : low ≤ n) (hhigh : n ≤ high) (h : n < 100)
    (rest : List Char) :
    field? low high ((padded 2 n).toList ++ rest) = some (n, rest) := by
  have hspells := spells_padded 2 n
  have hlength : (padded 2 n).toList.length = 2 :=
    length_padded ((Nat.length_toDigits_le_iff (by decide) (by decide)).2 h)
  rw [field?, hspells.trimStart_append, hspells.number?_append (by omega) (.inl hlength)]
  exact if_pos ⟨hlow, hhigh⟩

/-- A separator is read. -/
theorem separator?_cons {separator : Char} (h : Text.isBlank separator = false)
    (rest : List Char) : separator? separator (separator :: rest) = some ((), rest) := by
  have htrim : trimStart (separator :: rest) = separator :: rest := by
    simp [trimStart, h]
  rw [separator?, htrim]
  exact if_pos rfl

/-- A year after a sign is read with all its digits. -/
theorem year?_minus {n : Nat} {cs rest : List Char}
    (hread : number? cs.length cs = some (n, rest)) (h : isYear (-n) = true) :
    year? ('-' :: cs) = some (-(n : Int), rest) := by
  have htrim : trimStart ('-' :: cs) = '-' :: cs := rfl
  simp [year?, htrim, hread, h]

/-- A year after a plus sign is read with all its digits, too. -/
theorem year?_plus {n : Nat} {cs rest : List Char}
    (hread : number? cs.length cs = some (n, rest)) (h : isYear n = true) :
    year? ('+' :: cs) = some ((n : Int), rest) := by
  have htrim : trimStart ('+' :: cs) = '+' :: cs := rfl
  simp [year?, htrim, hread, h]

/-- A year without a sign is read with four digits at most. -/
theorem Spells.year?_append {ds rest : List Char} {n : Nat} (hspells : Spells ds n)
    (hread : number? 4 (ds ++ rest) = some (n, rest)) (h : isYear n = true) :
    year? (ds ++ rest) = some ((n : Int), rest) := by
  obtain ⟨c, cs, rfl, hdigit⟩ := hspells.exists_eq_cons
  rw [year?, hspells.trimStart_append]
  split
  · next heq =>
    obtain ⟨rfl, -⟩ := List.cons.inj heq
    cases hdigit
  · next heq =>
    obtain ⟨rfl, -⟩ := List.cons.inj heq
    cases hdigit
  · rw [hread]
    exact if_pos h

/-- A year is read. -/
theorem year?_yearText {year : Int} (h : isYear year = true) {rest : List Char}
    (hnext : NoDigitNext rest) :
    year? ((yearText year).toList ++ rest) = some (year, rest) := by
  rw [yearText]
  split
  · next hfour =>
    obtain ⟨n, rfl⟩ := Int.eq_ofNat_of_zero_le hfour.1
    have hlength : (padded 4 n).toList.length = 4 := by
      refine length_padded ((Nat.length_toDigits_le_iff (by decide) (by decide)).2 ?_)
      omega
    have hspells := spells_padded 4 n
    exact hspells.year?_append (hspells.number?_append (Nat.le_of_eq hlength) (.inl hlength)) h
  · have hread : ∀ n, number? ((padded 4 n).toList ++ rest).length ((padded 4 n).toList ++ rest) =
        some (n, rest) := by
      intro n
      exact (spells_padded 4 n).number?_append (by simp) (.inr hnext)
    by_cases hsign : year < 0
    · obtain ⟨n, rfl⟩ : ∃ n : Nat, year = -n := ⟨year.natAbs, by omega⟩
      rw [if_pos hsign, String.toList_append, Int.natAbs_neg, Int.natAbs_natCast]
      exact year?_minus (hread n) h
    · obtain ⟨n, rfl⟩ := Int.eq_ofNat_of_zero_le (Int.not_lt.1 hsign)
      rw [if_neg hsign, String.toList_append, Int.natAbs_natCast]
      exact year?_plus (hread n) h

/-! ## Dates and times of day -/

/-- A date that exists is read. -/
theorem date?_append {date : Calendar.Date} (hyear : isYear date.year = true)
    (hvalid : date.isValid = true) (rest : List Char) :
    date? ((yearText date.year).toList ++ '-' :: ((padded 2 date.month).toList ++
      '-' :: ((padded 2 date.day).toList ++ rest))) = some (date, rest) := by
  obtain ⟨hmonth, hmonths, hday, hdays⟩ := (Calendar.Date.isValid_iff date).1 hvalid
  have hlast : Calendar.daysInMonth date.year date.month ≤ 31 := by
    unfold Calendar.daysInMonth
    split
    · split <;> decide
    · split <;> decide
  have hhyphen : Text.isBlank '-' = false := by decide
  rw [date?, year?_yearText hyear (noDigitNext_cons rfl _)]
  simp only [Option.bind_eq_bind, Option.bind_some]
  rw [separator?_cons hhyphen]
  simp only [Option.bind_some]
  rw [field?_padded hmonth hmonths (by omega)]
  simp only [Option.bind_some]
  rw [separator?_cons hhyphen]
  simp only [Option.bind_some]
  rw [field?_padded hday (by omega) (by omega)]
  exact if_pos hvalid

/-- A fraction of a second is read before the offset. -/
theorem fraction?_fractionText {nanos : Nat} (h : nanos < nanosPerSecond) (rest : List Char) :
    fraction? ((fractionText nanos).toList ++ 'Z' :: rest) = some (nanos, 'Z' :: rest) := by
  have hnext : NoDigitNext ('Z' :: rest) := noDigitNext_cons rfl _
  have hread : ∀ width n, (Nat.toDigits 10 n).length ≤ width → width ≤ 9 →
      fraction? (("." ++ padded width n).toList ++ 'Z' :: rest) =
        some (Nat.pow 10 (9 - width) * n, 'Z' :: rest) := by
    intro width n hdigits hwidth
    have hlength := length_padded hdigits
    have hfraction := (spells_padded width n).fraction?_append (by omega) hnext
    rw [hlength] at hfraction
    rw [String.toList_append]
    exact hfraction
  have hdigits : ∀ {width n}, 0 < width → n < Nat.pow 10 width →
      (Nat.toDigits 10 n).length ≤ width :=
    fun hwidth hn => (Nat.length_toDigits_le_iff (by decide) hwidth).2 hn
  rw [nanosPerSecond] at h
  rw [fractionText]
  split
  · next hzero =>
    rw [hzero]
    rfl
  · split
    · next hmillis =>
      rw [hread 3 _ (hdigits (by decide) (Nat.div_lt_of_lt_mul h)) (by decide)]
      refine congrArg (fun n => some (n, _)) ?_
      exact Nat.mul_div_cancel' (Nat.dvd_of_mod_eq_zero hmillis)
    · split
      · next hmicros =>
        rw [hread 6 _ (hdigits (by decide) (Nat.div_lt_of_lt_mul h)) (by decide)]
        refine congrArg (fun n => some (n, _)) ?_
        exact Nat.mul_div_cancel' (Nat.dvd_of_mod_eq_zero hmicros)
      · rw [hread 9 _ (hdigits (by decide) h) (by decide)]
        exact congrArg (fun n => some (n, _)) (Nat.one_mul nanos)

/-- A time of day is read before the offset. A leap second is the last of a minute. -/
theorem time?_append {time leap nanos : Nat} (htime : time < 86400)
    (hleap : leap = 0 ∨ leap = 1 ∧ time % 60 = 59) (hnanos : nanos < nanosPerSecond)
    (rest : List Char) :
    time? ((padded 2 (time / 3600)).toList ++ ':' :: ((padded 2 (time / 60 % 60)).toList ++
      ':' :: ((padded 2 (time % 60 + leap)).toList ++
        ((fractionText nanos).toList ++ 'Z' :: rest)))) =
      some ((time, nanos + leap * nanosPerSecond), 'Z' :: rest) := by
  have hcolon : Text.isBlank ':' = false := by decide
  rw [time?, field?_padded (by omega) (by omega) (by omega)]
  simp only [Option.bind_eq_bind, Option.bind_some]
  rw [separator?_cons hcolon]
  simp only [Option.bind_some]
  rw [field?_padded (by omega) (by omega) (by omega)]
  simp only [Option.bind_some]
  rw [separator?_cons hcolon]
  simp only [Option.bind_some]
  rw [field?_padded (by omega) (by omega) (by omega)]
  simp only [Option.bind_some]
  rw [fraction?_fractionText hnanos]
  simp only [Option.bind_some]
  have hminute : (time % 60 + leap) / 60 = leap := by omega
  have hday : time / 3600 * 3600 + time / 60 % 60 * 60 + (time % 60 + leap - leap) = time := by
    omega
  rw [hminute, hday]
  rfl

/-! ## Instants -/

/-- An instant that a timestamp can tell: its year has dates, and only the last second of a minute
has a leap second after it. -/
structure IsTimestamp (instant : Instant) : Prop where
  year : isYear (Calendar.Date.ofDayNumber (instant.seconds / secondsPerDay)).year = true
  leap : nanosPerSecond ≤ instant.nanos → instant.seconds % 60 = 59

/-- The characters of a timestamp. -/
theorem toList_text (instant : Instant) :
    let date := Calendar.Date.ofDayNumber (instant.seconds / secondsPerDay)
    let time := (instant.seconds % secondsPerDay).toNat
    let leap := if nanosPerSecond ≤ instant.nanos then 1 else 0
    instant.text.toList =
      (yearText date.year).toList ++ '-' :: ((padded 2 date.month).toList ++
        '-' :: ((padded 2 date.day).toList ++ 'T' :: ((padded 2 (time / 3600)).toList ++
          ':' :: ((padded 2 (time / 60 % 60)).toList ++
            ':' :: ((padded 2 (time % 60 + leap)).toList ++
              ((fractionText (instant.nanos % nanosPerSecond)).toList ++ ['Z'])))))) := by
  simp [text]

/-- The timestamp of an instant is read as the instant. -/
theorem ofText?_text {instant : Instant} (h : instant.IsTimestamp) :
    ofText? instant.text = some instant := by
  obtain ⟨seconds, nanos, hbounded⟩ := instant
  obtain ⟨hyear, hleap⟩ := h
  dsimp only at hyear hleap
  obtain ⟨leap, hleapDef⟩ : ∃ leap, leap = if nanosPerSecond ≤ nanos then 1 else 0 := ⟨_, rfl⟩
  have hnanos : nanos % nanosPerSecond + leap * nanosPerSecond = nanos := by
    rw [hleapDef]
    unfold nanosPerSecond
    split <;> omega
  have htime : (seconds % secondsPerDay).toNat < 86400 := by
    unfold secondsPerDay
    omega
  have hlast : leap = 0 ∨ leap = 1 ∧ (seconds % secondsPerDay).toNat % 60 = 59 := by
    rw [hleapDef]
    split
    · next hlong =>
      have hminute := hleap hlong
      refine .inr ⟨rfl, ?_⟩
      unfold secondsPerDay
      omega
    · exact .inl rfl
  have hseconds : seconds / secondsPerDay * secondsPerDay + (seconds % secondsPerDay).toNat - 0 =
      seconds := by
    unfold secondsPerDay
    omega
  have hoffset : offset? (trimStart ['Z']) = some (0, []) := rfl
  have hmark : ∀ cs, dateMark? ('T' :: cs) = some ((), cs) := fun _ => rfl
  rw [ofText?, toList_text]
  dsimp only
  rw [← hleapDef, date?_append hyear (Calendar.Date.isValid_ofDayNumber _)]
  simp only [Option.bind_eq_bind, Option.bind_some, hmark]
  rw [time?_append htime hlast (Nat.mod_lt _ (by decide))]
  simp only [Option.bind_some, hoffset, Calendar.Date.dayNumber_ofDayNumber, hseconds, hnanos]
  exact dif_pos ⟨rfl, hyear, hbounded⟩

/-! ## What is read -/

/-- So many digits spell a number of so many digits. -/
theorem numberOf_lt {ds : List Char} (h : ∀ c ∈ ds, c.isDigit = true) :
    numberOf ds < Nat.pow 10 ds.length := by
  rw [numberOf_eq_ofDigitChars]
  induction ds with
  | nil => exact Nat.one_pos
  | cons c cs ih =>
      have hrest := ih fun d hd => h d (List.mem_cons_of_mem c hd)
      have hdigit : 10 * 0 + (c.toNat - '0'.toNat) + 1 ≤ 10 := by
        have hbounds := Char.isDigit_iff_toNat.1 (h c List.mem_cons_self)
        have hzero : '0'.toNat = 48 := rfl
        have hnine : '9'.toNat = 57 := rfl
        omega
      rw [Nat.ofDigitChars_cons, Nat.ofDigitChars_eq_ofDigitChars_zero]
      calc Nat.pow 10 cs.length * (10 * 0 + (c.toNat - '0'.toNat)) + Nat.ofDigitChars 10 cs 0
          < Nat.pow 10 cs.length * (10 * 0 + (c.toNat - '0'.toNat)) + Nat.pow 10 cs.length :=
            Nat.add_lt_add_left hrest _
        _ = Nat.pow 10 cs.length * (10 * 0 + (c.toNat - '0'.toNat) + 1) :=
            (Nat.mul_succ _ _).symm
        _ ≤ Nat.pow 10 cs.length * 10 := Nat.mul_le_mul_left _ hdigit

/-- A fraction that is read is less than a second. -/
theorem fraction?_lt {cs rest : List Char} {nanos : Nat}
    (h : fraction? cs = some (nanos, rest)) : nanos < nanosPerSecond := by
  unfold fraction? at h
  split at h
  · next cs =>
    obtain ⟨found, -, hread⟩ := Option.bind_eq_some_iff.1 h
    obtain ⟨rfl, -⟩ := Prod.mk.inj (Option.some.inj hread)
    obtain ⟨ds, hds⟩ : ∃ ds, ds = (cs.take 9).takeWhile Char.isDigit := ⟨_, rfl⟩
    have hlength : ds.length ≤ 9 := by
      rw [hds]
      exact Nat.le_trans (List.takeWhile_sublist _).length_le (List.length_take_le _ _)
    have hnine : (ds ++ List.replicate (9 - ds.length) '0').length = 9 := by
      rw [List.length_append, List.length_replicate]
      omega
    have hdigits : ∀ c ∈ ds ++ List.replicate (9 - ds.length) '0', c.isDigit = true := by
      intro c hc
      rcases List.mem_append.1 hc with hdigit | hzero
      · rw [hds] at hdigit
        exact List.all_eq_true.1 (List.all_takeWhile) c hdigit
      · rw [List.eq_of_mem_replicate hzero]
        rfl
    have hlt := numberOf_lt hdigits
    rw [hnine, hds] at hlt
    exact hlt
  · cases h
    decide

/-- A field that is read is no more than its upper bound. -/
theorem field?_le {low high n : Nat} {cs rest : List Char}
    (h : field? low high cs = some (n, rest)) : n ≤ high := by
  obtain ⟨⟨found, left⟩, -, hread⟩ := Option.bind_eq_some_iff.1 h
  dsimp only at hread
  split at hread
  · next hbounds =>
    cases hread
    exact hbounds.2
  · cases hread

/-- Only the last second of a minute is read with a leap second. -/
theorem time?_leap {cs rest : List Char} {time nanos : Nat}
    (h : time? cs = some ((time, nanos), rest)) (hleap : nanosPerSecond ≤ nanos) :
    time % 60 = 59 := by
  simp only [time?, Option.bind_eq_bind, Option.bind_eq_some_iff] at h
  obtain ⟨⟨hour, _⟩, -, _, -, ⟨minute, _⟩, -, _, -, ⟨second, _⟩, hsecond, ⟨fraction, _⟩,
    hfraction, hread⟩ := h
  have hsixty := field?_le hsecond
  have hlt := fraction?_lt hfraction
  obtain ⟨htime, -⟩ := Prod.mk.inj (Option.some.inj hread)
  obtain ⟨rfl, rfl⟩ := Prod.mk.inj htime
  dsimp only at hleap ⊢
  unfold nanosPerSecond at hleap hlt
  obtain rfl : second = 60 := by omega
  omega

/-- An offset is of whole minutes. -/
theorem signedOffset?_minutes {sign offset : Int} {cs rest : List Char}
    (h : signedOffset? sign cs = some (offset, rest)) : offset % 60 = 0 := by
  simp only [signedOffset?, Option.bind_eq_bind, Option.bind_eq_some_iff] at h
  obtain ⟨⟨hours, _⟩, -, ⟨minutes, _⟩, -, hread⟩ := h
  split at hread
  · obtain ⟨rfl, -⟩ := Prod.mk.inj (Option.some.inj hread)
    have hseconds : (60 : Int) ∣ (hours * 3600 + minutes * 60 : Nat) := by omega
    exact Int.emod_eq_zero_of_dvd (Int.dvd_trans hseconds (Int.dvd_mul_left _ _))
  · cases hread

/-- Every offset that is read is of whole minutes, one that a letter gives included. -/
theorem offset?_minutes {cs rest : List Char} {offset : Int}
    (h : offset? cs = some (offset, rest)) : offset % 60 = 0 := by
  unfold offset? at h
  split at h
  · cases h
    rfl
  · cases h
    rfl
  · exact signedOffset?_minutes h
  · exact signedOffset?_minutes h
  · exact signedOffset?_minutes h
  · split at h
    · cases h
      rfl
    · cases h
  · cases h

/-- Every instant that is read is one that a timestamp can tell. -/
theorem isTimestamp_of_ofText? {text : String} {instant : Instant}
    (h : ofText? text = some instant) : instant.IsTimestamp := by
  simp only [ofText?, Option.bind_eq_bind, Option.bind_eq_some_iff] at h
  obtain ⟨⟨date, _⟩, -, _, -, ⟨⟨time, nanos⟩, _⟩, htime, ⟨offset, _⟩, hoffset, hread⟩ := h
  have hminutes := offset?_minutes hoffset
  split at hread
  · next hbounds =>
    obtain rfl := Option.some.inj hread
    refine ⟨hbounds.2.1, fun hleap => ?_⟩
    have hlast := time?_leap htime hleap
    dsimp only
    unfold secondsPerDay
    omega
  · cases hread

/-- A timestamp can tell an instant just if its text is read back. -/
theorem isTimestamp_iff {instant : Instant} :
    instant.IsTimestamp ↔ ofText? instant.text = some instant :=
  ⟨ofText?_text, isTimestamp_of_ofText?⟩

end Instant

end OrgAccess
