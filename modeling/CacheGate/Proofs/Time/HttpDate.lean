import CacheGate.Proofs.Text.Decimal
import CacheGate.Proofs.Text.Trim
import CacheGate.Proofs.Time.Calendar
import CacheGate.Time.HttpDate
import Mathlib.Data.List.Nodup

/-!
# Dates as they are written and read back

Each part of a date is read back from what was written for it, whatever
follows; the last section puts the parts together. A date that was written
for an instant is read back as the start of its second
(`HttpDate.parse?_format`), over the whole calendar
(`HttpDate.written_date_is_read_to_the_second`).
-/

namespace CacheGate.Time

namespace HttpDate

variable {names : List String} {index width n : Nat} {rest : List Char}

/-! ## Names -/

theorem nameAt_eq (inside : index < names.length) : nameAt names index = names[index].toList := by
  unfold nameAt
  rw [List.getD_eq_getElem?_getD, List.getElem?_eq_getElem inside, Option.getD_some]

/-- A name is read back as its index, if the names differ and have three letters each. -/
theorem name?_nameAt (distinct : names.Nodup) (short : ∀ name ∈ names, name.toList.length = 3)
    (inside : index < names.length) :
    name? names (nameAt names index ++ rest) = some (index, rest) := by
  have long : (nameAt names index).length = 3 := by
    rw [nameAt_eq inside]
    exact short _ (List.getElem_mem inside)
  have first : names.findIdx? (fun name => name.toList.isPrefixOf (nameAt names index ++ rest)) =
      some index := by
    rw [List.findIdx?_eq_some_iff_getElem]
    refine ⟨inside, ?_, fun earlier before => ?_⟩
    · rw [nameAt_eq inside, List.isPrefixOf_iff_prefix]
      exact List.prefix_append ..
    · rw [List.isPrefixOf_iff_prefix]
      intro begins
      have outer : nameAt names index <+: nameAt names index ++ rest := List.prefix_append ..
      have past : earlier < names.length := by omega
      have sameLength : names[earlier].toList.length = (nameAt names index).length := by
        rw [long, short _ (List.getElem_mem _)]
      have same : names[earlier].toList = nameAt names index :=
        (List.prefix_of_prefix_length_le begins outer sameLength.le).eq_of_length sameLength
      rw [nameAt_eq inside, String.toList_inj] at same
      have := (List.Nodup.getElem_inj_iff distinct).1 same
      omega
  unfold name?
  rw [first, Option.map_some, List.drop_left' long]

/-! ## Numbers and signs -/

theorem number?_padded (wide : 0 < width) (fits : n < 10 ^ width) :
    number? width (Text.padded width n ++ rest) = some (n, rest) := by
  have length := Text.length_padded wide fits
  unfold number?
  rw [List.take_left' length, List.drop_left' length, if_pos length, Text.natural?_padded]
  rfl

theorem literal?_append (expected : List Char) :
    literal? expected (expected ++ rest) = some rest := by
  unfold literal?
  rw [if_pos (List.isPrefixOf_iff_prefix.2 (List.prefix_append ..)), List.drop_left]

theorem year?_yearText {year : Int} (short : year.natAbs ≤ 9999) :
    year? (yearText year ++ rest) = some (year, rest) := by
  have digits : number? 4 (Text.padded 4 year.natAbs ++ rest) = some (year.natAbs, rest) :=
    number?_padded (by decide) (by omega)
  unfold yearText
  split
  case isTrue negative =>
    have same : (-(year.natAbs : Int), rest) = (year, rest) := by
      congr 1
      omega
    change (number? 4 (Text.padded 4 year.natAbs ++ rest)).map _ = _
    rw [digits]
    exact congrArg some same
  case isFalse positive =>
    have same : ((year.natAbs : Int), rest) = (year, rest) := by
      congr 1
      omega
    -- a digit is no sign
    have unsigned : year? (Text.padded 4 year.natAbs ++ rest) =
        some ((year.natAbs : Int), rest) := by
      have numeric (c : Char) (member : c ∈ Text.padded 4 year.natAbs) : c.isDigit = true :=
        Text.isDigit_of_mem_padded member
      cases written : Text.padded 4 year.natAbs with
      | nil => exact absurd written Text.padded_ne_nil
      | cons c cs =>
        have digit := numeric c (by rw [written]; exact List.mem_cons_self)
        rw [written, List.cons_append] at digits
        rw [List.cons_append]
        unfold year?
        split
        case h_1 same =>
          obtain ⟨rfl, -⟩ := List.cons.inj same
          cases digit
        case h_2 same =>
          obtain ⟨rfl, -⟩ := List.cons.inj same
          cases digit
        case h_3 =>
          rw [digits]
          rfl
    exact unsigned.trans (congrArg some same)

theorem clock?_clockText {secondOfDay : Nat} (inside : secondOfDay < 86400) :
    clock? (clockText secondOfDay ++ rest) = some (secondOfDay, rest) := by
  have hour (cs : List Char) : number? 2 (Text.padded 2 (secondOfDay / 3600) ++ cs) =
      some (secondOfDay / 3600, cs) := number?_padded (by decide) (by omega)
  have minute (cs : List Char) : number? 2 (Text.padded 2 (secondOfDay / 60 % 60) ++ cs) =
      some (secondOfDay / 60 % 60, cs) := number?_padded (by decide) (by omega)
  have second (cs : List Char) : number? 2 (Text.padded 2 (secondOfDay % 60) ++ cs) =
      some (secondOfDay % 60, cs) := number?_padded (by decide) (by omega)
  have colon (cs : List Char) : literal? [':'] (':' :: cs) = some cs := literal?_append [':']
  have known : (secondOfDay / 3600 ≤ 23 && secondOfDay / 60 % 60 ≤ 59 && secondOfDay % 60 ≤ 59) =
      true := by
    simp only [Bool.and_eq_true, decide_eq_true_eq]
    omega
  have total : secondOfDay / 3600 * 3600 + secondOfDay / 60 % 60 * 60 + secondOfDay % 60 =
      secondOfDay := by omega
  unfold clock? clockText
  simp only [List.append_assoc, List.cons_append, hour, minute, second, colon, bind,
    Option.bind_some, known, if_true, total]

/-! ## Whole dates -/

section Date

variable {days : Int}

theorem name?_weekday :
    name? weekdays (nameAt weekdays (Date.weekday days) ++ rest) =
      some (Date.weekday days, rest) := by
  refine name?_nameAt (by decide) (by decide) ?_
  unfold Date.weekday
  change _ < 7
  omega

theorem name?_month :
    name? months (nameAt months ((Date.ofDays days).month - 1) ++ rest) =
      some ((Date.ofDays days).month - 1, rest) := by
  have bounds := Date.month_ofDays days
  refine name?_nameAt (by decide) (by decide) ?_
  change _ < 12
  omega

theorem number?_day :
    number? 2 (Text.padded 2 (Date.ofDays days).day ++ rest) = some ((Date.ofDays days).day, rest) := by
  have bound := Date.day_ofDays_le days
  exact number?_padded (by decide) (by omega)

end Date

/-- An instant is the time of day on its day. -/
theorem ofSeconds?_seconds (instant : Instant) :
    Instant.ofSeconds?
      (instant.seconds / 86400 * 86400 + ((instant.seconds % 86400).toNat : Int)) 0 =
      some instant.wholeSecond := by
  have sum : instant.seconds / 86400 * 86400 + ((instant.seconds % 86400).toNat : Int) =
      instant.seconds := by omega
  rw [sum, instant.ofSeconds?_seconds]

/-- The characters written for an instant are read back as the start of its second. -/
theorem parseChars?_formatChars (instant : Instant) :
    parseChars? (formatChars instant) = some instant.wholeSecond := by
  have year (cs : List Char) :
      year? (yearText (Date.ofDays (instant.seconds / 86400)).year ++ cs) =
        some ((Date.ofDays (instant.seconds / 86400)).year, cs) :=
    year?_yearText instant.year_bounds
  have clock (cs : List Char) : clock? (clockText (instant.seconds % 86400).toNat ++ cs) =
      some ((instant.seconds % 86400).toNat, cs) := clock?_clockText (by omega)
  have comma (cs : List Char) : literal? [',', ' '] (',' :: ' ' :: cs) = some cs :=
    literal?_append [',', ' ']
  have blank (cs : List Char) : literal? [' '] (' ' :: cs) = some cs := literal?_append [' ']
  have zone : literal? [' ', 'G', 'M', 'T'] [' ', 'G', 'M', 'T'] = some [] := rfl
  have month : (Date.ofDays (instant.seconds / 86400)).month - 1 + 1 =
      (Date.ofDays (instant.seconds / 86400)).month := by
    have bounds := Date.month_ofDays (instant.seconds / 86400)
    omega
  have valid := Date.isValid_ofDays (instant.seconds / 86400)
  have total := Date.toDays_ofDays (instant.seconds / 86400)
  unfold parseChars? formatChars
  simp only [List.append_assoc, List.cons_append, bind, Option.bind_some, name?_weekday, comma,
    number?_day, blank, name?_month, year, clock, zone, month, valid, total, List.isEmpty_nil,
    Bool.and_self, if_true]
  exact ofSeconds?_seconds instant

/-! ## Dates as texts -/

theorem visible_of_all {cs : List Char} (all : (cs.all fun c => Text.Visible c) = true) :
    ∀ c ∈ cs, Text.Visible c :=
  fun c member => of_decide_eq_true (List.all_eq_true.1 all c member)

theorem visible_nameAt
    (every : (names.all fun name => name.toList.all fun c => Text.Visible c) = true) :
    ∀ c ∈ nameAt names index, Text.Visible c := by
  intro c member
  by_cases inside : index < names.length
  · rw [nameAt_eq inside] at member
    exact visible_of_all (List.all_eq_true.1 every _ (List.getElem_mem inside)) c member
  · unfold nameAt at member
    rw [List.getD_eq_getElem?_getD, List.getElem?_eq_none (by omega)] at member
    cases member

theorem visible_padded : ∀ c ∈ Text.padded width n, Text.Visible c := by
  intro c member
  have digit := Text.toNat_of_isDigit (Text.isDigit_of_mem_padded member)
  unfold Text.Visible
  omega

theorem visible_yearText {year : Int} : ∀ c ∈ yearText year, Text.Visible c := by
  unfold yearText
  split
  · exact List.forall_mem_cons.2 ⟨by decide, visible_padded⟩
  · exact visible_padded

/-- A date is written in visible characters, with no blank at its ends. -/
theorem legible_formatChars (instant : Instant) : Text.Legible (formatChars instant) where
  visible := by
    have weekday : ∀ c ∈ nameAt weekdays (Date.weekday (instant.seconds / 86400)),
        Text.Visible c := visible_nameAt (by decide)
    have month : ∀ c ∈ nameAt months ((Date.ofDays (instant.seconds / 86400)).month - 1),
        Text.Visible c := visible_nameAt (by decide)
    unfold formatChars clockText
    have blank : Text.Visible ' ' := by decide
    have comma : Text.Visible ',' := by decide
    have colon : Text.Visible ':' := by decide
    have zone : ∀ c ∈ [' ', 'G', 'M', 'T'], Text.Visible c := visible_of_all (by decide)
    simp only [List.forall_mem_append, List.forall_mem_cons] at zone ⊢
    exact ⟨⟨⟨⟨⟨weekday, comma, blank, visible_padded⟩, blank, month⟩, blank, visible_yearText⟩,
      blank, ⟨visible_padded, colon, visible_padded⟩, colon, visible_padded⟩, zone⟩
  first := by
    have named : ∃ c ∈ (nameAt weekdays (Date.weekday (instant.seconds / 86400))).head?,
        Text.isBlank c = false := by
      have inside : Date.weekday (instant.seconds / 86400) < weekdays.length := by
        unfold Date.weekday
        change _ < 7
        omega
      rw [nameAt_eq inside]
      have every : ∀ name ∈ weekdays,
          (name.toList.head?.any fun c => !Text.isBlank c) = true := by decide
      obtain ⟨c, first, seen⟩ := (Option.any_eq_true _ _).1 (every _ (List.getElem_mem inside))
      exact ⟨c, first, Bool.not_eq_true' _ ▸ seen⟩
    obtain ⟨c, first, seen⟩ := named
    obtain ⟨letters, starts⟩ := List.head?_eq_some_iff.1 first
    refine ⟨c, ?_, seen⟩
    unfold formatChars
    dsimp only
    rw [starts]
    rfl
  last := by
    refine ⟨'T', ?_, by decide⟩
    unfold formatChars
    rw [List.getLast?_append]
    rfl

/-- A date that was written for an instant is read as the start of its second. -/
theorem parse?_format (instant : Instant) : parse? (format instant) = some instant.wholeSecond := by
  unfold parse? format
  rw [String.toList_ofList, (legible_formatChars instant).trim_eq, parseChars?_formatChars]

/-- Over the years from -9999 to 9999, the date written for an instant is read
as that instant without the part of its second. -/
theorem written_date_is_read_to_the_second {nanos : Int}
    (year : (Date.ofDays (nanos / nanosPerSecond / 86400)).year.natAbs ≤ 9999) :
    ∃ instant read : Instant, instant.nanos = nanos ∧ parse? (format instant) = some read ∧
      read.nanos = nanos - instant.subsecond ∧ read.subsecond = 0 ∧
      read ≤ instant ∧ nanos < read.nanos + nanosPerSecond := by
  obtain ⟨instant, rfl⟩ := Instant.exists_nanos_iff.2 year
  have second : (0 : Int) < nanosPerSecond := by decide
  have parts : instant.nanos % nanosPerSecond + instant.nanos / nanosPerSecond * nanosPerSecond =
      instant.nanos := Int.emod_add_ediv_mul ..
  have nonneg := Int.emod_nonneg instant.nanos second.ne'
  have short := Int.emod_lt_of_pos instant.nanos second
  refine ⟨instant, instant.wholeSecond, rfl, parse?_format instant, ?_, Int.mul_emod_left .., ?_, ?_⟩
  · change instant.nanos / nanosPerSecond * nanosPerSecond =
      instant.nanos - instant.nanos % nanosPerSecond
    omega
  · change instant.nanos / nanosPerSecond * nanosPerSecond ≤ instant.nanos
    omega
  · change instant.nanos < instant.nanos / nanosPerSecond * nanosPerSecond + nanosPerSecond
    omega

/-- The last nanosecond of the leap day of year -4. -/
theorem leap_day_of_negative_year_is_read :
    (Date.mk (-4) 2 29).toDays = -720930 ∧
    ∃ instant read : Instant, instant.nanos = -720929 * 86400 * nanosPerSecond - 1 ∧
      parse? (format instant) = some read ∧
      read.nanos = -720929 * 86400 * nanosPerSecond - 1 - instant.subsecond ∧
      read.subsecond = 0 ∧ read ≤ instant ∧
      -720929 * 86400 * nanosPerSecond - 1 < read.nanos + nanosPerSecond :=
  ⟨by decide, written_date_is_read_to_the_second (by decide)⟩

example : format ⟨-720929 * 86400 * nanosPerSecond - 1, by decide, by decide⟩ =
    "Thu, 29 Feb -0004 23:59:59 GMT" := by decide +kernel

end HttpDate

end CacheGate.Time
