import DecadaEmbedded.Conversions
import DecadaEmbedded.Library.Calendar
import DecadaEmbedded.Library.FixedPoint
import DecadaEmbedded.Library.TextOrder

/-!
# `TimeEngine/time_engine.cpp`

`localtime` is a parameter. On the target it knows no time zone; `GregorianUtc` says what it gives.
-/

namespace DecadaEmbedded.TimeEngine
open Library Library.Calendar Conversions

structure Tm where
  tmYear : Int
  tmMon : Int
  tmMday : Int
  tmHour : Int
  tmMin : Int
  tmSec : Int
deriving DecidableEq, Repr

def formatTime (timeComponent : Bytes) : Bytes :=
  if timeComponent.length < 2 then str "0" ++ timeComponent else timeComponent

variable (localtime : Int → Tm)

def convertRawTimeToIso8601Time (rawTime : Int) : Bytes :=
  let ptm := localtime rawTime
  let year := intToString (ptm.tmYear + 1900)
  let month := formatTime (intToString (ptm.tmMon + 1))
  let day := formatTime (intToString ptm.tmMday)
  let hour := formatTime (intToString ptm.tmHour)
  let min := formatTime (intToString ptm.tmMin)
  let sec := formatTime (intToString ptm.tmSec)
  year ++ str "-" ++ month ++ str "-" ++ day ++ str "T" ++ hour ++ str ":" ++ min ++ str ":" ++ sec ++ str "Z"

/-! ## What `localtime` gives -/

def tmOf (date : DateTime) : Tm where
  tmYear := date.year - 1900
  tmMon := date.month - 1
  tmMday := date.day
  tmHour := date.hour
  tmMin := date.minute
  tmSec := date.second

def year10000 : DateTime := ⟨10000, 1, 1, 0, 0, 0⟩

/-- Before the year 10000, `localtime` gives the Gregorian fields of its argument. -/
structure GregorianUtc : Prop where
  fields : ∀ rawTime : Nat, rawTime < year10000.seconds →
    ∃ date : DateTime, date.Valid ∧ date.seconds = rawTime ∧ localtime rawTime = tmOf date

def gmtime (rawTime : Int) : Tm := tmOf (ofSeconds rawTime.toNat)

theorem gregorianUtc_gmtime : GregorianUtc gmtime where
  fields rawTime _ := by
    obtain ⟨valid, seconds⟩ := ofSeconds_spec rawTime
    exact ⟨ofSeconds rawTime, valid, seconds, rfl⟩

/-! ## The text of a date -/

def isoText (date : DateTime) : Bytes :=
  padded 4 date.year ++ (str "-" ++ (padded 2 date.month ++ (str "-" ++ (padded 2 date.day ++
    (str "T" ++ (padded 2 date.hour ++ (str ":" ++ (padded 2 date.minute ++
      (str ":" ++ (padded 2 date.second ++ str "Z"))))))))))

theorem formatTime_decimal {n : Nat} (short : n < 100) : formatTime (intToString n) = padded 2 n := by
  have bound := (length_decimal_le_iff (show 0 < 2 by decide)).mpr (show n < 10 ^ 2 from short)
  have positive := List.length_pos_of_ne_nil (decimal_ne_nil n)
  rw [intToString, decimalInt_natCast, formatTime, padded]
  split_ifs with single
  · rw [show 2 - (decimal n).length = 1 by omega]
    rfl
  · rw [show 2 - (decimal n).length = 0 by omega]
    rfl

theorem intToString_year {n : Nat} (four : 1000 ≤ n) : intToString n = padded 4 n := by
  have long : ¬ (decimal n).length ≤ 3 := by
    rw [length_decimal_le_iff (by decide)]
    omega
  rw [intToString, decimalInt_natCast, padded, show 4 - (decimal n).length = 0 by omega]
  rfl

structure Printable (date : DateTime) : Prop where
  valid : date.Valid
  year : date.year < 10000

theorem Printable.short {date : DateTime} (printable : Printable date) :
    date.month < 10 ^ 2 ∧ date.day < 10 ^ 2 ∧ date.hour < 10 ^ 2 ∧ date.minute < 10 ^ 2 ∧ date.second < 10 ^ 2 := by
  obtain ⟨-, month, day, hour, minute, second⟩ := printable.valid
  have days : monthDays date.year date.month ≤ 31 := by
    unfold monthDays
    split_ifs <;> decide
  omega

theorem convertRawTimeToIso8601Time_eq {rawTime : Int} {date : DateTime} (printable : Printable date)
    (given : localtime rawTime = tmOf date) : convertRawTimeToIso8601Time localtime rawTime = isoText date := by
  obtain ⟨month, day, hour, minute, second⟩ := printable.short
  have valid := printable.valid
  have year : (date.year : Int) - 1900 + 1900 = date.year := by omega
  have first : (date.month : Int) - 1 + 1 = date.month := by omega
  simp only [convertRawTimeToIso8601Time, given, tmOf, year, first]
  rw [intToString_year (by have := valid.year; omega), formatTime_decimal month, formatTime_decimal day,
    formatTime_decimal hour, formatTime_decimal minute, formatTime_decimal second]
  simp only [isoText, List.append_assoc]

/-! ## The form of the text -/

def Matches (place c : UInt8) : Prop := if place ∈ str "YMDhms" then isDigit c = true else c = place

def IsoForm (text : Bytes) : Prop := List.Forall₂ Matches (str "YYYY-MM-DDThh:mm:ssZ") text

theorem forall₂_matches_padded {place : UInt8} (digits : place ∈ str "YMDhms") {width n : Nat}
    (positive : 0 < width) (fits : n < 10 ^ width) :
    List.Forall₂ Matches (List.replicate width place) (padded width n) := by
  rw [List.forall₂_iff_get]
  refine ⟨by rw [List.length_replicate, length_padded positive fits], fun i inside inside' => ?_⟩
  have all := List.all_eq_true.mp (all_isDigit_padded width n) _ (List.getElem_mem inside')
  simpa [Matches, digits] using all

theorem forall₂_matches_self {separators : Bytes}
    (apart : (separators.all fun c => c ∉ str "YMDhms") = true) :
    List.Forall₂ Matches separators separators := by
  apply List.forall₂_same.mpr
  intro c member
  have other : c ∉ str "YMDhms" := of_decide_eq_true (List.all_eq_true.mp apart c member)
  rw [Matches, if_neg other]

theorem isoForm_isoText {date : DateTime} (printable : Printable date) : IsoForm (isoText date) := by
  obtain ⟨month, day, hour, minute, second⟩ := printable.short
  have year : date.year < 10 ^ 4 := printable.year
  have two : 0 < 2 := by decide
  have template : str "YYYY-MM-DDThh:mm:ssZ" =
      List.replicate 4 89 ++ (str "-" ++ (List.replicate 2 77 ++ (str "-" ++ (List.replicate 2 68 ++
        (str "T" ++ (List.replicate 2 104 ++ (str ":" ++ (List.replicate 2 109 ++
          (str ":" ++ (List.replicate 2 115 ++ str "Z")))))))))) := by decide
  rw [IsoForm, template, isoText]
  apply List.rel_append (forall₂_matches_padded (by decide) (by decide) year)
  apply List.rel_append (forall₂_matches_self (by decide))
  apply List.rel_append (forall₂_matches_padded (by decide) two month)
  apply List.rel_append (forall₂_matches_self (by decide))
  apply List.rel_append (forall₂_matches_padded (by decide) two day)
  apply List.rel_append (forall₂_matches_self (by decide))
  apply List.rel_append (forall₂_matches_padded (by decide) two hour)
  apply List.rel_append (forall₂_matches_self (by decide))
  apply List.rel_append (forall₂_matches_padded (by decide) two minute)
  apply List.rel_append (forall₂_matches_self (by decide))
  apply List.rel_append (forall₂_matches_padded (by decide) two second)
  exact forall₂_matches_self (by decide)

/-! ## Reading the text back -/

def field (text : Bytes) (start width : Nat) : Nat := digitsValue ((text.drop start).take width)

def parseIso8601 (text : Bytes) : DateTime :=
  ⟨field text 0 4, field text 5 2, field text 8 2, field text 11 2, field text 14 2, field text 17 2⟩

theorem field_append_left {width n : Nat} (positive : 0 < width) (fits : n < 10 ^ width) (rest : Bytes) :
    field (padded width n ++ rest) 0 width = n := by
  rw [field, List.drop_zero, List.take_left' (length_padded positive fits), digitsValue_padded]

theorem field_skip {before : Bytes} {n : Nat} (long : before.length = n) (rest : Bytes) (start width : Nat) :
    field (before ++ rest) (n + start) width = field rest start width := by
  rw [field, field, ← long, List.drop_length_add_append]

theorem parseIso8601_isoText {date : DateTime} (printable : Printable date) :
    parseIso8601 (isoText date) = date := by
  obtain ⟨month, day, hour, minute, second⟩ := printable.short
  have year : date.year < 10 ^ 4 := printable.year
  have two : 0 < 2 := by decide
  have four := length_padded (by decide) year
  have skip {n : Nat} (fits : n < 10 ^ 2) := field_skip (length_padded two fits)
  have separator (c : Bytes) (single : c.length = 1) := field_skip single
  simp only [parseIso8601, isoText]
  congr 1
  · exact field_append_left (by decide) year _
  · rw [show 5 = 4 + (1 + 0) from rfl, field_skip four, separator _ rfl, field_append_left two month]
  · rw [show 8 = 4 + (1 + (2 + (1 + 0))) from rfl, field_skip four, separator _ rfl, skip month, separator _ rfl,
      field_append_left two day]
  · rw [show 11 = 4 + (1 + (2 + (1 + (2 + (1 + 0))))) from rfl, field_skip four, separator _ rfl, skip month,
      separator _ rfl, skip day, separator _ rfl, field_append_left two hour]
  · rw [show 14 = 4 + (1 + (2 + (1 + (2 + (1 + (2 + (1 + 0))))))) from rfl, field_skip four, separator _ rfl,
      skip month, separator _ rfl, skip day, separator _ rfl, skip hour, separator _ rfl,
      field_append_left two minute]
  · rw [show 17 = 4 + (1 + (2 + (1 + (2 + (1 + (2 + (1 + (2 + (1 + 0))))))))) from rfl, field_skip four,
      separator _ rfl, skip month, separator _ rfl, skip day, separator _ rfl, skip hour, separator _ rfl,
      skip minute, separator _ rfl, field_append_left two second]

/-! ## The order of the texts -/

theorem padded_lt {width m n : Nat} (positive : 0 < width) (less : m < n) (fits : n < 10 ^ width) :
    padded width m < padded width n := by
  apply lt_of_digitsValue_lt
  · rw [length_padded positive (less.trans fits), length_padded positive fits]
  · exact List.all_eq_true.mp (all_isDigit_padded width m)
  · exact List.all_eq_true.mp (all_isDigit_padded width n)
  · rwa [digitsValue_padded, digitsValue_padded]

/-- A field decides the order, or it is the same and the fields after it decide. -/
theorem padded_append_lt {width m n : Nat} (positive : 0 < width) (fits : n < 10 ^ width)
    {u v : Bytes} (less : m < n ∨ m = n ∧ u < v) : padded width m ++ u < padded width n ++ v := by
  rcases less with before | ⟨rfl, after⟩
  · apply lt_append_of_lt
    · rw [length_padded positive (before.trans fits), length_padded positive fits]
    · exact padded_lt positive before fits
  · exact List.append_left_lt after

theorem isoText_lt {a b : DateTime} (printable : Printable b) (less : a.fields < b.fields) :
    isoText a < isoText b := by
  obtain ⟨month, day, hour, minute, second⟩ := printable.short
  have year : b.year < 10 ^ 4 := printable.year
  have two : 0 < 2 := by decide
  simp only [DateTime.fields, List.cons_lt_cons_iff, List.not_lt_nil, and_false, or_false] at less
  apply padded_append_lt (by decide) year
  apply less.imp_right
  apply And.imp_right
  intro less
  apply List.append_left_lt
  apply padded_append_lt two month
  apply less.imp_right
  apply And.imp_right
  intro less
  apply List.append_left_lt
  apply padded_append_lt two day
  apply less.imp_right
  apply And.imp_right
  intro less
  apply List.append_left_lt
  apply padded_append_lt two hour
  apply less.imp_right
  apply And.imp_right
  intro less
  apply List.append_left_lt
  apply padded_append_lt two minute
  apply less.imp_right
  apply And.imp_right
  intro less
  apply List.append_left_lt
  exact padded_append_lt two second (.inl less)

/-! ## Raw times -/

theorem valid_year10000 : year10000.Valid :=
  ⟨by decide, by decide, by decide, by decide, by decide, by decide⟩

theorem printable_of_lt {date : DateTime} (valid : date.Valid) (before : date.seconds < year10000.seconds) :
    Printable date := by
  refine ⟨valid, ?_⟩
  have month := valid.month
  have day := valid.day
  have less := DateTime.fields_lt_of_seconds valid_year10000 before
  simp only [DateTime.fields, year10000, List.cons_lt_cons_iff, List.not_lt_nil, and_false, or_false] at less
  omega

variable {localtime}

theorem printed (utc : GregorianUtc localtime) {rawTime : Int} (positive : 0 ≤ rawTime)
    (before : rawTime < year10000.seconds) :
    ∃ date, Printable date ∧ (date.seconds : Int) = rawTime ∧
      convertRawTimeToIso8601Time localtime rawTime = isoText date := by
  obtain ⟨seconds, rfl⟩ := Int.eq_ofNat_of_zero_le positive
  obtain ⟨date, valid, same, given⟩ := utc.fields seconds (Int.ofNat_lt.mp before)
  have printable : Printable date := printable_of_lt valid (by rw [same]; exact Int.ofNat_lt.mp before)
  exact ⟨date, printable, by rw [same], convertRawTimeToIso8601Time_eq localtime printable given⟩

/-- The texts have the form of a date, read back as the raw times and are ordered as they are. -/
theorem convertRawTimeToIso8601Time_ordered (utc : GregorianUtc localtime) {t₁ t₂ : Int}
    (positive : 0 ≤ t₁) (earlier : t₁ < t₂) (before : t₂ < year10000.seconds) :
    (∀ t ∈ [t₁, t₂], (convertRawTimeToIso8601Time localtime t).length = 20 ∧
      IsoForm (convertRawTimeToIso8601Time localtime t) ∧
      ((parseIso8601 (convertRawTimeToIso8601Time localtime t)).seconds : Int) = t) ∧
    convertRawTimeToIso8601Time localtime t₁ < convertRawTimeToIso8601Time localtime t₂ := by
  obtain ⟨first, printable, seconds, text⟩ := printed utc positive (earlier.trans before)
  obtain ⟨second, printable', seconds', text'⟩ := printed utc (positive.trans earlier.le) before
  have less : first.fields < second.fields :=
    DateTime.fields_lt_of_seconds printable'.valid (by omega)
  refine ⟨?_, by rw [text, text']; exact isoText_lt printable' less⟩
  have form := isoForm_isoText printable
  have form' := isoForm_isoText printable'
  rw [List.forall_mem_cons, List.forall_mem_singleton, text, text', parseIso8601_isoText printable,
    parseIso8601_isoText printable']
  exact ⟨⟨form.length_eq.symm, form, seconds⟩, form'.length_eq.symm, form', seconds'⟩

theorem convertRawTimeToIso8601Time_ordered_tested :
    (∀ t ∈ [0, 1561519234], (convertRawTimeToIso8601Time gmtime t).length = 20 ∧
      IsoForm (convertRawTimeToIso8601Time gmtime t) ∧
      ((parseIso8601 (convertRawTimeToIso8601Time gmtime t)).seconds : Int) = t) ∧
    convertRawTimeToIso8601Time gmtime 0 < convertRawTimeToIso8601Time gmtime 1561519234 := by
  have inside : (1561519234 : Int) < year10000.seconds := by
    have instant : (⟨2019, 6, 26, 3, 20, 34⟩ : DateTime).seconds = 1561519234 := by decide
    have valid : (⟨2019, 6, 26, 3, 20, 34⟩ : DateTime).Valid :=
      ⟨by decide, by decide, by decide, by decide, by decide, by decide⟩
    have less := @DateTime.seconds_lt_of_fields _ year10000 valid (by decide)
    omega
  exact convertRawTimeToIso8601Time_ordered gregorianUtc_gmtime (by decide) (by decide) inside

end DecadaEmbedded.TimeEngine
