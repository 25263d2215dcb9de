import DecadaEmbedded.Mqtt.Client
import Mathlib.Data.Bool.AllAny

/-!
# Topic filters

`isTopicMatched` walks along the filter and the name at once, and takes the filter to be well formed. The
levels of a filter say what it is for: `+` stands for a level, and `#` for those that are left.
-/

namespace DecadaEmbedded.Mqtt

def separator : UInt8 := 47
def singleLevel : UInt8 := 43
def multiLevel : UInt8 := 35

def mqttPacketEquals (a : Bytes) (bptr : Bytes) : Bool := a = cstr bptr

-- where the loop leaves `curf` and `curn`
def topicLoop : (curf curn : Bytes) → Bytes × Bytes
  | [], curn => ([], curn)
  | f :: curf, [] => (f :: curf, [])
  | f :: curf, n :: curn =>
      if n = separator ∧ f ≠ separator then (f :: curf, n :: curn)
      else if f ≠ singleLevel ∧ f ≠ multiLevel ∧ f ≠ n then (f :: curf, n :: curn)
      else if f = singleLevel then topicLoop curf (curn.dropWhile (· ≠ separator))
      else if f = multiLevel then topicLoop curf []
      else topicLoop curf curn

def isTopicMatched (topicFilter topicName : Bytes) : Bool := topicLoop (cstr topicFilter) topicName = ([], [])

def handles (topicFilter topicName : Bytes) : Bool :=
  mqttPacketEquals topicName topicFilter || isTopicMatched topicFilter topicName

/-! ## Levels -/

def Plain (text : Bytes) : Prop := ∀ c ∈ text, c ≠ 0 ∧ c ≠ separator ∧ c ≠ singleLevel ∧ c ≠ multiLevel

inductive Level where
  | literal (text : Bytes) (plain : Plain text)
  | any

inductive Filter where
  | last (level : Level)
  | rest
  | cons (level : Level) (filter : Filter)

def Level.text : Level → Bytes
  | literal text _ => text
  | any => [singleLevel]

def Filter.text : Filter → Bytes
  | last level => level.text
  | rest => [multiLevel]
  | cons level filter => level.text ++ separator :: filter.text

/-- A filter matches by levels; what `+` and `#` may stand for is a parameter. -/
def Level.Matches (one : Bytes → Prop) : Level → Bytes → Prop
  | literal text _, level => text = level
  | any, level => one level

def Filter.Matches (one : Bytes → Prop) (others : List Bytes → Prop) : Filter → List Bytes → Prop
  | rest, levels => others levels
  | last _, [] | cons _ _, [] => False
  | last level, first :: levels => level.Matches one first ∧ levels = []
  | cons level filter, first :: levels => level.Matches one first ∧ filter.Matches one others levels

/-- What the protocol asks for: `+` stands for every level, and `#` for all those that are left, which may
be none. -/
def Filter.Standard (filter : Filter) (levels : List Bytes) : Prop :=
  filter.Matches (fun _ => True) (fun _ => True) levels

/-- What is left for `#` begins with a level that is not empty. -/
def Begins (levels : List Bytes) : Prop := ∃ first others, levels = first :: others ∧ first ≠ []

theorem Filter.Matches.standard {one : Bytes → Prop} {others : List Bytes → Prop} {filter : Filter}
    {levels : List Bytes} (matched : filter.Matches one others levels) : filter.Standard levels := by
  have level_standard {level : Level} {text : Bytes} (matched : level.Matches one text) :
      level.Matches (fun _ => True) text := by
    cases level with
    | literal => exact matched
    | any => trivial
  induction filter generalizing levels with
  | rest => trivial
  | last level =>
      cases levels with
      | nil => exact matched
      | cons first levels => exact ⟨level_standard matched.1, matched.2⟩
  | cons level filter ih =>
      cases levels with
      | nil => exact matched
      | cons first levels => exact ⟨level_standard matched.1, ih matched.2⟩

theorem Filter.matches_of_filled (filter : Filter) {levels : List Bytes} (filled : ∀ level ∈ levels, level ≠ []) :
    filter.Matches (· ≠ []) Begins levels ↔ filter.Matches (fun _ => True) (· ≠ []) levels := by
  have level_iff (level : Level) {text : Bytes} (some' : text ≠ []) :
      level.Matches (· ≠ []) text ↔ level.Matches (fun _ => True) text := by
    cases level with
    | literal => exact Iff.rfl
    | any => exact iff_of_true some' trivial
  induction filter generalizing levels with
  | rest =>
      cases levels with
      | nil => simp [Matches, Begins]
      | cons first levels => exact iff_of_true ⟨first, levels, rfl, filled first List.mem_cons_self⟩ (List.cons_ne_nil first levels)
  | last level =>
      cases levels with
      | nil => exact Iff.rfl
      | cons first levels => exact and_congr_left' (level_iff level (filled first List.mem_cons_self))
  | cons level filter ih =>
      cases levels with
      | nil => exact Iff.rfl
      | cons first levels =>
          obtain ⟨some', filled⟩ := List.forall_mem_cons.mp filled
          exact and_congr (level_iff level some') (ih filled)

/-! ## The loop, level by level -/

/-- At the end of a level: the text ends or goes on with the separator. -/
def Boundary (text : Bytes) : Prop := text = [] ∨ ∃ rest, text = separator :: rest

theorem topicLoop_separator (curf curn : Bytes) :
    topicLoop (separator :: curf) (separator :: curn) = topicLoop curf curn := by
  simp [topicLoop, separator, singleLevel, multiLevel]

theorem not_topicLoop_of_boundary {curf : Bytes} {f : UInt8} (inside : f ≠ separator) {curn : Bytes}
    (boundary : Boundary curn) : topicLoop (f :: curf) curn ≠ ([], []) := by
  rcases boundary with rfl | ⟨rest, rfl⟩
  · simp [topicLoop]
  · rw [topicLoop, if_pos ⟨rfl, inside⟩]
    simp

theorem topicLoop_any {curf curn : Bytes} (nameEnds : Boundary curn) {level : Bytes} (single : separator ∉ level) :
    topicLoop (singleLevel :: curf) (level ++ curn) = ([], []) ↔ level ≠ [] ∧ topicLoop curf curn = ([], []) := by
  cases level with
  | nil => exact iff_of_false (not_topicLoop_of_boundary (by decide) nameEnds) (by simp)
  | cons n level =>
      obtain ⟨other, singleRest⟩ := List.ne_and_not_mem_of_not_mem_cons single
      have skipped : (level ++ curn).dropWhile (· ≠ separator) = curn := by
        rw [List.dropWhile_append_of_pos fun c member => by
          simpa using fun same : c = separator => singleRest (same ▸ member)]
        rcases nameEnds with rfl | ⟨rest, rfl⟩
        · rfl
        · simp
      rw [List.cons_append, topicLoop, if_neg (fun here => other here.1.symm), if_neg (fun here => here.1 rfl),
        if_pos rfl, skipped]
      simp

section Level
variable {curf curn : Bytes} (filterEnds : Boundary curf) (nameEnds : Boundary curn)
include filterEnds nameEnds

theorem topicLoop_literal {text : Bytes} (plain : Plain text) {level : Bytes} (single : separator ∉ level) :
    topicLoop (text ++ curf) (level ++ curn) = ([], []) ↔ text = level ∧ topicLoop curf curn = ([], []) := by
  induction text generalizing level with
  | nil =>
      cases level with
      | nil => simp
      | cons n level =>
          have inside : n ≠ separator := fun same => single (same ▸ List.mem_cons_self)
          refine iff_of_false ?_ (by simp)
          rcases filterEnds with rfl | ⟨rest, rfl⟩
          · simp [topicLoop]
          · rw [List.nil_append, List.cons_append, topicLoop, if_neg (fun here => inside here.1),
              if_pos ⟨by decide, by decide, inside.symm⟩]
            simp
  | cons f text ih =>
      obtain ⟨⟨-, inside, notSingle, notMulti⟩, plainRest⟩ := List.forall_mem_cons.mp plain
      cases level with
      | nil => exact iff_of_false (not_topicLoop_of_boundary inside nameEnds) (by simp)
      | cons n level =>
          obtain ⟨other, singleRest⟩ := List.ne_and_not_mem_of_not_mem_cons single
          rw [List.cons_append, List.cons_append, topicLoop, if_neg (fun here => other here.1.symm)]
          by_cases same : f = n
          · rw [if_neg (fun here => here.2.2 same), if_neg notSingle, if_neg notMulti, ih plainRest singleRest, same,
              List.cons.injEq, eq_self, true_and]
          · rw [if_pos ⟨notSingle, notMulti, same⟩]
            exact iff_of_false (by simp) (by simp [same])

theorem topicLoop_level (filterLevel : Level) {level : Bytes} (single : separator ∉ level) :
    topicLoop (filterLevel.text ++ curf) (level ++ curn) = ([], []) ↔
      filterLevel.Matches (· ≠ []) level ∧ topicLoop curf curn = ([], []) := by
  cases filterLevel with
  | literal text plain => exact topicLoop_literal filterEnds nameEnds plain single
  | any => exact topicLoop_any nameEnds single

end Level

theorem topicLoop_rest (name : Bytes) :
    topicLoop [multiLevel] name = ([], []) ↔ Begins (name.splitOn separator) := by
  cases name with
  | nil => exact iff_of_false (by simp [topicLoop]) (by simp [Begins])
  | cons n name =>
      rw [topicLoop, List.splitOn_cons_eq_if_modifyHead]
      by_cases empty : n = separator
      · rw [if_pos ⟨empty, by decide⟩, if_pos (by simpa using empty)]
        exact iff_of_false (by simp) (by simp [Begins])
      · obtain ⟨first, others, split⟩ := List.exists_cons_of_ne_nil (List.splitOn_ne_nil separator name)
        rw [if_neg (fun here => empty here.1), if_neg (fun here => here.2.1 rfl), if_neg (by decide), if_pos rfl,
          if_neg (by simpa using empty), split]
        exact iff_of_true rfl ⟨n :: first, others, rfl, by simp⟩

theorem not_matches_nil {one : Bytes → Prop} (filter : Filter) : ¬ filter.Matches one Begins [] := by
  cases filter with
  | rest => simp [Filter.Matches, Begins]
  | last | cons => exact id

theorem topicLoop_filter (filter : Filter) (name : Bytes) :
    topicLoop filter.text name = ([], []) ↔ filter.Matches (· ≠ []) Begins (name.splitOn separator) := by
  induction filter generalizing name with
  | rest => exact topicLoop_rest name
  | last level =>
      by_cases more : separator ∈ name
      · obtain ⟨first, behind, rfl, single⟩ := List.eq_append_cons_of_mem more
        have matched := topicLoop_level (.inl rfl) (.inr ⟨behind, rfl⟩) level single
        rw [List.append_nil] at matched
        rw [Filter.text, matched, List.splitOn_append_cons_self_of_not_mem single]
        exact iff_of_false (by simp [topicLoop]) fun here => List.splitOn_ne_nil _ _ here.2
      · have matched := topicLoop_level (.inl rfl) (.inl rfl) level more
        rw [List.append_nil, List.append_nil] at matched
        rw [Filter.text, matched, List.splitOn_eq_singleton more]
        exact and_congr_right fun _ => iff_of_true rfl rfl
  | cons level filter ih =>
      by_cases more : separator ∈ name
      · obtain ⟨first, behind, rfl, single⟩ := List.eq_append_cons_of_mem more
        rw [Filter.text, topicLoop_level (.inr ⟨_, rfl⟩) (.inr ⟨behind, rfl⟩) level single, topicLoop_separator, ih,
          List.splitOn_append_cons_self_of_not_mem single]
        rfl
      · have matched := topicLoop_level (.inr ⟨filter.text, rfl⟩) (.inl rfl) level more
        rw [List.append_nil] at matched
        rw [Filter.text, matched, List.splitOn_eq_singleton more]
        exact iff_of_false (by simp [topicLoop]) fun here => not_matches_nil filter here.2

/-! ## The handlers -/

theorem Filter.text_ne_zero (filter : Filter) : ∀ c ∈ filter.text, c ≠ 0 := by
  have level_ne_zero (level : Level) : ∀ c ∈ level.text, c ≠ 0 := by
    cases level with
    | literal text plain => exact fun c member => (plain c member).1
    | any => exact List.forall_mem_singleton.mpr (by decide)
  induction filter with
  | last level => exact level_ne_zero level
  | rest => exact List.forall_mem_singleton.mpr (by decide)
  | cons level filter ih =>
      exact List.forall_mem_append.mpr ⟨level_ne_zero level, List.forall_mem_cons.mpr ⟨by decide, ih⟩⟩

theorem Filter.cstr_text (filter : Filter) : cstr filter.text = filter.text :=
  List.takeWhile_eq_self_iff.mpr fun c member => by simpa using filter.text_ne_zero c member

theorem topicLoop_self {name : Bytes} (names : ∀ c ∈ name, c ≠ singleLevel ∧ c ≠ multiLevel) :
    topicLoop name name = ([], []) := by
  induction name with
  | nil => rfl
  | cons c name ih =>
      obtain ⟨⟨notSingle, notMulti⟩, names⟩ := List.forall_mem_cons.mp names
      rw [topicLoop, if_neg (fun here => here.2 here.1), if_neg (fun here => here.2.2 rfl), if_neg notSingle,
        if_neg notMulti, ih names]

/-- The protocol's rules, but for an empty level in the place of `+`, and in that of `#` for nothing or what
begins with an empty level. -/
theorem handles_iff (filter : Filter) {topicName : Bytes}
    (names : ∀ c ∈ topicName, c ≠ singleLevel ∧ c ≠ multiLevel) :
    handles filter.text topicName = true ↔ filter.Matches (· ≠ []) Begins (topicName.splitOn separator) := by
  unfold handles mqttPacketEquals isTopicMatched
  rw [Filter.cstr_text, Bool.or_eq_true, decide_eq_true_iff, decide_eq_true_iff, topicLoop_filter]
  refine or_iff_right_of_imp fun same => (topicLoop_filter filter topicName).mp ?_
  rw [← same, topicLoop_self names]

/-- A handler is called for no topic but those that its filter stands for, and for all of them that have no
empty level, the parent of `#` apart. -/
theorem handles_standard (filter : Filter) {topicName : Bytes}
    (names : ∀ c ∈ topicName, c ≠ singleLevel ∧ c ≠ multiLevel) :
    (handles filter.text topicName = true → filter.Standard (topicName.splitOn separator)) ∧
      ((∀ level ∈ topicName.splitOn separator, level ≠ []) →
        (handles filter.text topicName = true ↔
          filter.Matches (fun _ => True) (· ≠ []) (topicName.splitOn separator))) := by
  rw [handles_iff filter names]
  exact ⟨Filter.Matches.standard, filter.matches_of_filled⟩

theorem handles_standard_parent : handles (str "a/#") (str "a/b") = true ∧ handles (str "a/#") (str "a") = false := by
  let filter := Filter.cons (.literal (str "a") (List.all_iff_forall_prop.mp (by decide))) .rest
  have below := (@handles_standard filter (str "a/b") (List.all_iff_forall_prop.mp (by decide))).2 (by decide)
  have parent := (@handles_standard filter (str "a") (List.all_iff_forall_prop.mp (by decide))).2 (by decide)
  refine ⟨below.mpr ⟨rfl, List.cons_ne_nil (str "b") []⟩, Bool.eq_false_iff.mpr fun called => ?_⟩
  exact (parent.mp called).2 rfl

end DecadaEmbedded.Mqtt
