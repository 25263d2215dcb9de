import DecadaEmbedded.Conversions

/-!
# What `StringToInt` and `StringToTime` read

A `Scan` splits a text into white space, an optional sign, the digits after it and a rest that does
not go on with them. The two functions return its number as long as there is something to scan.
-/

namespace DecadaEmbedded.Conversions
open Library

structure Scan (text : Bytes) where
  spaces : Bytes
  sign : Bytes
  digits : Bytes
  rest : Bytes
  whole : text = spaces ++ (sign ++ (digits ++ rest))
  blank : ∀ c ∈ spaces, isSpace c = true
  started : ∀ c ∈ (sign ++ (digits ++ rest)).head?, isSpace c = false
  optional : sign = [] ∨ sign = [43] ∨ sign = [45]
  decimal : ∀ c ∈ digits, isDigit c = true
  longest : ∀ c ∈ rest.head?, isDigit c = false
  unsigned : sign = [] → digits = [] → ∀ c ∈ rest.head?, c ≠ 43 ∧ c ≠ 45

/-- The number of a scan; 0 without digits. -/
def Scan.value {text : Bytes} (scan : Scan text) : Int :=
  if scan.sign = [45] then -(digitsValue scan.digits : Int) else digitsValue scan.digits

def Blank (text : Bytes) : Prop := ∀ c ∈ text, isSpace c = true

def clamp (min max value : Int) : Int := Max.max min (Min.min max value)

theorem takeWhile_digits {digits rest : Bytes} (decimal : ∀ c ∈ digits, isDigit c = true)
    (longest : ∀ c ∈ rest.head?, isDigit c = false) : (digits ++ rest).takeWhile isDigit = digits := by
  rw [List.takeWhile_append_of_pos decimal]
  cases rest with
  | nil => simp
  | cons c rest => simp [longest c (by simp)]

theorem dropWhile_spaces {spaces rest : Bytes} (blank : ∀ c ∈ spaces, isSpace c = true)
    (started : ∀ c ∈ rest.head?, isSpace c = false) : (spaces ++ rest).dropWhile isSpace = rest := by
  rw [List.dropWhile_append_of_pos blank]
  cases rest with
  | nil => rfl
  | cons c rest => rw [List.dropWhile_cons_of_neg (by simp [started c (by simp)])]

variable {text : Bytes}

theorem Scan.dropWhile (scan : Scan text) :
    text.dropWhile isSpace = scan.sign ++ (scan.digits ++ scan.rest) := by
  have dropped := dropWhile_spaces scan.blank scan.started
  rwa [← scan.whole] at dropped

/-- Every scan of a text has the number that the streams read. -/
theorem Scan.value_eq (scan : Scan text) : scan.value = leadingInteger (text.dropWhile isSpace) := by
  have taken := takeWhile_digits scan.decimal scan.longest
  rw [scan.dropWhile, Scan.value]
  rcases scan.optional with none | plus | minus
  · rw [none, List.nil_append, if_neg (by decide)]
    cases digits : scan.digits with
    | nil =>
        rw [List.nil_append]
        cases rest : scan.rest with
        | nil => rfl
        | cons c tail =>
            have unsigned := scan.unsigned none digits c (by rw [rest]; rfl)
            have stops := scan.longest c (by rw [rest]; rfl)
            simp [leadingInteger, unsigned.1, unsigned.2, stops, digitsValue]
    | cons d tail =>
        have first := scan.decimal d (by rw [digits]; exact List.mem_cons_self ..)
        rw [digits] at taken
        rw [List.cons_append, leadingInteger_of_isDigit first, ← List.cons_append, taken]
  · rw [plus, if_neg (by decide), List.singleton_append, leadingInteger, if_neg (by decide), if_pos rfl, taken]
  · rw [minus, if_pos rfl, List.singleton_append, leadingInteger, if_pos rfl, taken]

theorem head?_dropWhile_isSpace (text : Bytes) : ∀ c ∈ (text.dropWhile isSpace).head?, isSpace c = false := by
  intro c first
  have stop := List.head?_dropWhile_not isSpace text
  rw [Option.mem_def.mp first] at stop
  simpa using stop

theorem head?_dropWhile_isDigit (text : Bytes) : ∀ c ∈ (text.dropWhile isDigit).head?, isDigit c = false := by
  intro c first
  have stop := List.head?_dropWhile_not isDigit text
  rw [Option.mem_def.mp first] at stop
  simpa using stop

theorem nonempty_scan (sign : Bytes) {spaces number : Bytes} (whole : text = spaces ++ (sign ++ number))
    (blank : ∀ c ∈ spaces, isSpace c = true) (started : ∀ c ∈ (sign ++ number).head?, isSpace c = false)
    (optional : sign = [] ∨ sign = [43] ∨ sign = [45])
    (unsigned : sign = [] → number.takeWhile isDigit = [] → ∀ c ∈ number.head?, c ≠ 43 ∧ c ≠ 45) :
    Nonempty (Scan text) := by
  have split := List.takeWhile_append_dropWhile (p := isDigit) (l := number)
  refine ⟨⟨spaces, sign, number.takeWhile isDigit, number.dropWhile isDigit, by rw [split, whole], blank,
    by rwa [split], optional, fun c member => List.mem_takeWhile_imp member,
    head?_dropWhile_isDigit number, fun none empty => ?_⟩⟩
  rw [empty, List.nil_append] at split
  rw [split]
  exact unsigned none empty

theorem exists_scan (text : Bytes) : Nonempty (Scan text) := by
  have parts := (List.takeWhile_append_dropWhile (p := isSpace) (l := text)).symm
  have blank : ∀ c ∈ text.takeWhile isSpace, isSpace c = true := fun c member => List.mem_takeWhile_imp member
  have started := head?_dropWhile_isSpace text
  cases tail : text.dropWhile isSpace with
  | nil =>
      rw [tail] at parts
      exact nonempty_scan [] parts blank (by simp) (.inl rfl) (by simp)
  | cons c rest =>
      rw [tail] at parts started
      by_cases signed : c = 43 ∨ c = 45
      · apply nonempty_scan [c] parts blank started
        · rcases signed with rfl | rfl
          · exact .inr (.inl rfl)
          · exact .inr (.inr rfl)
        · simp
      · apply nonempty_scan [] parts blank started (.inl rfl)
        intro _ _ d first
        cases first
        exact not_or.mp signed

/-! ## The two conversions -/

/-- Whatever its local variable holds, a conversion gives the clamped number of the text. -/
def Determinate (convert : Int → Bytes → Int) (min max : Int) (text : Bytes) : Prop :=
  ∃ scan : Scan text, ∀ junk, convert junk text = clamp min max scan.value

theorem dropWhile_eq_nil_iff_blank (text : Bytes) : text.dropWhile isSpace = [] ↔ Blank text :=
  List.dropWhile_eq_nil_iff

theorem stringToInt_of_not_blank (scan : Scan text) (started : ¬ Blank text) (junk : Int) :
    stringToInt junk text = clamp intMin intMax scan.value := by
  rw [scan.value_eq, stringToInt, extractInt]
  split
  · rename_i empty
    exact absurd ((dropWhile_eq_nil_iff_blank text).mp empty) started
  · rename_i c rest tail
    rw [tail]
    rfl

theorem stringToInt_of_blank (blank : Blank text) (junk : Int) : stringToInt junk text = junk := by
  rw [stringToInt, extractInt, (dropWhile_eq_nil_iff_blank text).mpr blank]

theorem stringToTime_of_blank (type : TimeType) (blank : Blank text) (junk : Int) :
    stringToTime type junk text = junk := by
  rw [stringToTime, extractTime, (dropWhile_eq_nil_iff_blank text).mpr blank]

theorem stringToTime_of_not_blank (type : TimeType) (scan : Scan text) (started : ¬ Blank text) (junk : Int) :
    stringToTime type junk text =
      if type.signed || decide (0 ≤ scan.value) then clamp type.min type.max scan.value
      else if -scan.value ≤ type.max then scan.value + type.max + 1
      else type.max := by
  rw [scan.value_eq, stringToTime, extractTime]
  split
  · rename_i empty
    exact absurd ((dropWhile_eq_nil_iff_blank text).mp empty) started
  · rename_i c rest tail
    rw [tail]
    rfl

theorem not_determinate_of_blank {convert : Int → Bytes → Int} (blank : ∀ junk, convert junk text = junk)
    (min max : Int) : ¬ Determinate convert min max text := by
  rintro ⟨scan, every⟩
  have zero := (every 0).symm.trans (blank 0)
  have one := (every 1).symm.trans (blank 1)
  rw [zero] at one
  cases one

theorem determinate_stringToInt_iff (text : Bytes) :
    Determinate stringToInt intMin intMax text ↔ ¬ Blank text := by
  constructor
  · intro determinate blank
    exact not_determinate_of_blank (stringToInt_of_blank blank) _ _ determinate
  · intro started
    obtain ⟨scan⟩ := exists_scan text
    exact ⟨scan, stringToInt_of_not_blank scan started⟩

theorem determinate_stringToTime_iff {type : TimeType} (wide : 0 < type.max) (text : Bytes) :
    Determinate (stringToTime type) type.min type.max text ↔
      ¬ Blank text ∧ (type.signed = true ∨ ∀ scan : Scan text, 0 ≤ scan.value) := by
  constructor
  · intro determinate
    have started : ¬ Blank text := fun blank =>
      not_determinate_of_blank (stringToTime_of_blank type blank) _ _ determinate
    refine ⟨started, ?_⟩
    by_contra neither
    obtain ⟨unsigned, negative⟩ := not_or.mp neither
    obtain ⟨other, below⟩ := not_forall.mp negative
    obtain ⟨scan, every⟩ := determinate
    have value : scan.value < 0 := by
      rw [scan.value_eq, ← other.value_eq]
      omega
    have zero := (stringToTime_of_not_blank type scan started 0).symm.trans (every 0)
    have range : type.min = 0 := if_neg unsigned
    rw [Bool.not_eq_true] at unsigned
    rw [unsigned, Bool.false_or, if_neg (by simpa using value), clamp, range] at zero
    split_ifs at zero <;> omega
  · rintro ⟨started, kept⟩
    obtain ⟨scan⟩ := exists_scan text
    refine ⟨scan, fun junk => ?_⟩
    have condition : (type.signed || decide (0 ≤ scan.value)) = true := by
      rcases kept with signed | positive
      · rw [signed, Bool.true_or]
      · simp [positive scan]
    rw [stringToTime_of_not_blank type scan started, if_pos condition]

/-- The conversions are determinate exactly for the texts with something to scan; where times are
unsigned the number must not be negative either. -/
theorem determinate_iff {type : TimeType} (wide : 0 < type.max) (text : Bytes) :
    (Determinate stringToInt intMin intMax text ↔ ¬ Blank text) ∧
    (Determinate (stringToTime type) type.min type.max text ↔
      ¬ Blank text ∧ (type.signed = true ∨ ∀ scan : Scan text, 0 ≤ scan.value)) :=
  ⟨determinate_stringToInt_iff text, determinate_stringToTime_iff wide text⟩

def long : TimeType := ⟨true, 2147483647⟩

theorem determinate_iff_long :
    (Determinate stringToInt intMin intMax (str "-5x") ↔ ¬ Blank (str "-5x")) ∧
    (Determinate (stringToTime long) long.min long.max (str "-5x") ↔
      ¬ Blank (str "-5x") ∧ (long.signed = true ∨ ∀ scan : Scan (str "-5x"), 0 ≤ scan.value)) :=
  determinate_iff (by decide) _

theorem stringToInt_nil_indeterminate :
    stringToInt 7 [] = 7 ∧ stringToInt 8 [] = 8 ∧
    (¬ ∀ text, Determinate stringToInt intMin intMax text) ∧
    ¬ ∀ text, Determinate (stringToTime long) long.min long.max text := by
  refine ⟨rfl, rfl, fun always => ?_, fun always => ?_⟩
  · exact not_determinate_of_blank (fun _ => rfl) _ _ (always [])
  · exact not_determinate_of_blank (fun _ => rfl) _ _ (always [])

end DecadaEmbedded.Conversions
