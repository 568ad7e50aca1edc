import SoqlForm.Proofs.Text.Blank
import SoqlForm.Proofs.Text.Split
import SoqlForm.Style

/-!
# Text: how a date and a time are written

A date with a time behind it is written with a space between the two, whichever of the two marks
stood there and whatever blanks stood around; a bare hour and minute gets its seconds, once.

* `timestamp`            a date and a trimmed time, as they are written;
* `trim_dated`           what is left of a date and a time when they are trimmed together;
* `normalizeTimestamp_dated`   they are written as a timestamp;
* `normalizeTimestamp_timestamp`   a timestamp is written already;
* `normalizeTimestamp_of_date`   all of it together.
-/

namespace SoqlForm

namespace Text

variable {before behind date time rest raw : List Char} {mark : Char}

/-- a date: some text without blanks and without the letter that may begin a time -/
structure IsDate (date : List Char) : Prop where
  ne_nil : date ≠ []
  not_isBlank : ∀ c ∈ date, isBlank c = false
  not_mark : 'T' ∉ date

theorem IsDate.isTrimmed (h : IsDate date) : IsTrimmed date :=
  isTrimmed_of_not_isBlank h.not_isBlank

theorem IsDate.not_isTimeMark (h : IsDate date) : ∀ c ∈ date, isTimeMark c = false := by
  intro c hc
  rw [isTimeMark, Bool.or_eq_false_iff, beq_eq_false_iff_ne, beq_eq_false_iff_ne]
  refine ⟨?_, ?_⟩
  · rintro rfl
    exact h.not_mark hc
  · rintro rfl
    cases h.not_isBlank ' ' hc

/-! ### seconds -/

def IsHourMinute (time : List Char) : Prop :=
  ∃ a b c d, time = [a, b, ':', c, d] ∧ ∀ x ∈ [a, b, c, d], x.isDigit = true

theorem isHourMinute_iff : isHourMinute time = true ↔ IsHourMinute time := by
  unfold isHourMinute
  split
  · next a b c d => simp [IsHourMinute, and_assoc]
  · next other =>
    refine iff_of_false Bool.false_ne_true ?_
    rintro ⟨a, b, c, d, htime, -⟩
    exact other a b c d htime

theorem withSeconds_of_isHourMinute (h : IsHourMinute time) :
    withSeconds time = time ++ [':', '0', '0'] :=
  if_pos (isHourMinute_iff.mpr h)

theorem withSeconds_of_not_isHourMinute (h : ¬ IsHourMinute time) : withSeconds time = time :=
  if_neg (fun hm => h (isHourMinute_iff.mp hm))

theorem withSeconds_withSeconds (time : List Char) :
    withSeconds (withSeconds time) = withSeconds time := by
  by_cases h : IsHourMinute time
  · rw [withSeconds_of_isHourMinute h]
    apply withSeconds_of_not_isHourMinute
    -- a time with seconds is too long
    obtain ⟨a, b, c, d, rfl, -⟩ := h
    rintro ⟨_, _, _, _, hlong, -⟩
    simp at hlong
  · rw [withSeconds_of_not_isHourMinute h, withSeconds_of_not_isHourMinute h]

theorem withSeconds_ne_nil (h : time ≠ []) : withSeconds time ≠ [] := by
  unfold withSeconds
  split
  · exact List.append_ne_nil_of_left_ne_nil h _
  · exact h

theorem isTrimmed_withSeconds (hne : time ≠ []) (h : IsTrimmed time) :
    IsTrimmed (withSeconds time) := by
  unfold withSeconds
  split
  · refine ⟨fun c hc => ?_, fun c hc => ?_⟩
    · rw [List.head?_append_of_ne_nil _ hne] at hc
      exact h.1 c hc
    · rw [List.getLast?_append_of_ne_nil _ (List.cons_ne_nil _ _)] at hc
      cases hc
      rfl
  · exact h

/-! ### a date and a time -/

/-- a date and a trimmed time as they are written; a date without time is written alone -/
def timestamp (date : List Char) : List Char → List Char
  | [] => date
  | time => date ++ ' ' :: withSeconds time

theorem timestamp_nil (date : List Char) : timestamp date [] = date := rfl

theorem timestamp_of_ne_nil (date : List Char) (h : time ≠ []) :
    timestamp date time = date ++ ' ' :: withSeconds time := by
  cases time with
  | nil => exact absurd rfl h
  | cons c time => rfl

theorem timestamp_of_isHourMinute (date : List Char) (h : IsHourMinute time) :
    timestamp date time = date ++ ' ' :: (time ++ [':', '0', '0']) := by
  have hne : time ≠ [] := by
    obtain ⟨a, b, c, d, rfl, -⟩ := h
    exact List.cons_ne_nil _ _
  rw [timestamp_of_ne_nil date hne, withSeconds_of_isHourMinute h]

theorem timestamp_of_not_isHourMinute (date : List Char) (hne : time ≠ [])
    (h : ¬ IsHourMinute time) : timestamp date time = date ++ ' ' :: time := by
  rw [timestamp_of_ne_nil date hne, withSeconds_of_not_isHourMinute h]

theorem normalizeTimestamp_of_trim_eq (hdate : IsDate date) (h : trim raw = date) :
    normalizeTimestamp raw = date := by
  have hstops : Stops isTimeMark [] := nofun
  have htake := takeWhile_append_of_stops hdate.not_isTimeMark hstops
  have hdrop := dropWhile_append_of_stops hdate.not_isTimeMark hstops
  rw [List.append_nil] at htake hdrop
  rw [normalizeTimestamp, h, htake, hdrop]
  rfl

theorem normalizeTimestamp_of_trim_mark (hdate : IsDate date) (hmark : isTimeMark mark = true)
    (h : trim raw = date ++ mark :: rest) : normalizeTimestamp raw = timestamp date (trim rest) := by
  have hstops : Stops isTimeMark (mark :: rest) := stops_cons hmark rest
  rw [normalizeTimestamp, h, takeWhile_append_of_stops hdate.not_isTimeMark hstops,
    dropWhile_append_of_stops hdate.not_isTimeMark hstops, List.drop_one, List.tail_cons]
  cases trim rest <;> rfl

/-- trimmed together, a date and a time lose what stands around them; of a blank time the mark is
left at most -/
theorem trim_dated (hdate : IsDate date) (hbefore : ∀ x ∈ before, isBlank x = true)
    (hbehind : ∀ x ∈ behind, isBlank x = true) (mark : Char) (time : List Char) :
    trim (before ++ (date ++ mark :: (time ++ behind))) = date ∧ trim time = [] ∨
      ∃ rest, trim (before ++ (date ++ mark :: (time ++ behind))) = date ++ mark :: rest ∧
        trim rest = trim time := by
  obtain ⟨a, c, htime, ha, hc⟩ := trim_parts time
  by_cases hnil : trim time = []
  · have hblank : ∀ x ∈ time ++ behind, isBlank x = true := by
      rw [htime, hnil, List.nil_append]
      exact List.forall_mem_append.mpr ⟨List.forall_mem_append.mpr ⟨ha, hc⟩, hbehind⟩
    cases hmark : isBlank mark with
    | true =>
      exact .inl ⟨trim_of_isTrimmed hbefore (List.forall_mem_cons.mpr ⟨hmark, hblank⟩)
        hdate.isTrimmed, hnil⟩
    | false =>
      refine .inr ⟨[], ?_, by rw [hnil, trim_nil]⟩
      rw [List.append_cons date]
      refine trim_of_isTrimmed hbefore hblank (isTrimmed_of_not_isBlank ?_)
      exact List.forall_mem_append.mpr
        ⟨hdate.not_isBlank, List.forall_mem_singleton.mpr hmark⟩
  · refine .inr ⟨a ++ trim time, ?_, ?_⟩
    · have hparts : date ++ mark :: (time ++ behind)
          = (date ++ mark :: (a ++ trim time)) ++ (c ++ behind) := by
        conv_lhs => rw [htime]
        simp only [List.append_assoc, List.cons_append]
      rw [hparts]
      refine trim_of_isTrimmed hbefore (List.forall_mem_append.mpr ⟨hc, hbehind⟩) ⟨?_, ?_⟩
      · rw [List.head?_append_of_ne_nil _ hdate.ne_nil]
        exact hdate.isTrimmed.1
      · rw [List.append_cons, ← List.append_assoc, List.getLast?_append_of_ne_nil _ hnil]
        exact (isTrimmed_trim time).2
    · have hrest := trim_padded ha (c := []) nofun (trim time)
      rw [List.append_nil] at hrest
      rw [hrest, trim_eq_self (isTrimmed_trim time)]

theorem normalizeTimestamp_dated (hdate : IsDate date) (hmark : isTimeMark mark = true)
    (hbefore : ∀ x ∈ before, isBlank x = true) (hbehind : ∀ x ∈ behind, isBlank x = true)
    (time : List Char) : normalizeTimestamp (before ++ (date ++ mark :: (time ++ behind)))
      = timestamp date (trim time) := by
  rcases trim_dated hdate hbefore hbehind mark time with ⟨htrim, hnil⟩ | ⟨rest, htrim, hrest⟩
  · rw [normalizeTimestamp_of_trim_eq hdate htrim, hnil, timestamp_nil]
  · rw [normalizeTimestamp_of_trim_mark hdate hmark htrim, hrest]

theorem normalizeTimestamp_undated (hdate : IsDate date)
    (hbefore : ∀ x ∈ before, isBlank x = true) (hbehind : ∀ x ∈ behind, isBlank x = true) :
    normalizeTimestamp (before ++ (date ++ behind)) = date :=
  normalizeTimestamp_of_trim_eq hdate (trim_of_isTrimmed hbefore hbehind hdate.isTrimmed)

/-- a timestamp is written already -/
theorem normalizeTimestamp_timestamp (hdate : IsDate date) (htime : IsTrimmed time) :
    normalizeTimestamp (timestamp date time) = timestamp date time := by
  by_cases hne : time = []
  · rw [hne, timestamp_nil]
    exact normalizeTimestamp_of_trim_eq hdate (trim_eq_self hdate.isTrimmed)
  · have hwritten : normalizeTimestamp ([] ++ (date ++ ' ' :: (withSeconds time ++ [])))
        = timestamp date (trim (withSeconds time)) :=
      normalizeTimestamp_dated hdate rfl (List.forall_mem_nil _) (List.forall_mem_nil _) _
    rw [List.nil_append, List.append_nil, trim_eq_self (isTrimmed_withSeconds hne htime),
      timestamp_of_ne_nil date (withSeconds_ne_nil hne), withSeconds_withSeconds] at hwritten
    rw [timestamp_of_ne_nil date hne, hwritten]

end Text

open Text

variable {before date behind : String}

theorem normalizeTimestamp_marked {mark : Char} (hdate : IsDate date.toList)
    (hbefore : ∀ c ∈ before.toList, isBlank c = true)
    (hbehind : ∀ c ∈ behind.toList, isBlank c = true) (hmark : isTimeMark mark = true)
    (time : String) :
    normalizeTimestamp (before ++ date ++ String.singleton mark ++ time ++ behind) =
      String.ofList (timestamp date.toList (trim time.toList)) := by
  have hraw : (before ++ date ++ String.singleton mark ++ time ++ behind).toList =
      before.toList ++ (date.toList ++ mark :: (time.toList ++ behind.toList)) := by
    simp
  rw [normalizeTimestamp, hraw, normalizeTimestamp_dated hdate hmark hbefore hbehind]

theorem normalizeTimestamp_alone (hdate : IsDate date.toList)
    (hbefore : ∀ c ∈ before.toList, isBlank c = true)
    (hbehind : ∀ c ∈ behind.toList, isBlank c = true) :
    normalizeTimestamp (before ++ date ++ behind) = date := by
  have hraw : (before ++ date ++ behind).toList
      = before.toList ++ (date.toList ++ behind.toList) := by
    simp
  rw [normalizeTimestamp, hraw, normalizeTimestamp_undated hdate hbefore hbehind,
    String.ofList_toList]

theorem normalizeTimestamp_again (hdate : IsDate date.toList) (time : List Char) :
    normalizeTimestamp (String.ofList (timestamp date.toList (trim time))) =
      String.ofList (timestamp date.toList (trim time)) := by
  rw [normalizeTimestamp, String.toList_ofList,
    normalizeTimestamp_timestamp hdate (isTrimmed_trim time)]

/-- **A date with a time is written with a space between the two**, whichever mark stood there and
whatever blanks stand around.  A blank time is left out, a bare hour and minute gets seconds, any
other time is written as it is; and what is written stays as it is when it is written again. -/
theorem normalizeTimestamp_of_date (before date time behind : String) (hdate : IsDate date.toList)
    (hbefore : ∀ c ∈ before.toList, isBlank c = true)
    (hbehind : ∀ c ∈ behind.toList, isBlank c = true) :
    let trimmed := String.ofList (trim time.toList)
    let raw := fun mark => before ++ date ++ mark ++ time ++ behind
    (∀ mark ∈ ["T", " "],
        (trimmed = "" → normalizeTimestamp (raw mark) = date) ∧
        (IsHourMinute trimmed.toList →
          normalizeTimestamp (raw mark) = date ++ " " ++ trimmed ++ ":00") ∧
        (trimmed ≠ "" → ¬ IsHourMinute trimmed.toList →
          normalizeTimestamp (raw mark) = date ++ " " ++ trimmed) ∧
        normalizeTimestamp (normalizeTimestamp (raw mark)) = normalizeTimestamp (raw mark)) ∧
      normalizeTimestamp (raw "T") = normalizeTimestamp (raw " ") ∧
      normalizeTimestamp (before ++ date ++ behind) = date ∧ normalizeTimestamp date = date := by
  intro trimmed raw
  have htime : trimmed.toList = trim time.toList := String.toList_ofList
  have hwritten : ∀ mark ∈ ["T", " "],
      normalizeTimestamp (raw mark) = String.ofList (timestamp date.toList trimmed.toList) := by
    have hchar : ∀ c, isTimeMark c = true → normalizeTimestamp (raw (String.singleton c)) =
        String.ofList (timestamp date.toList trimmed.toList) := by
      intro c hc
      rw [htime]
      exact normalizeTimestamp_marked hdate hbefore hbehind hc time
    exact List.forall_mem_cons.mpr ⟨hchar 'T' rfl, List.forall_mem_singleton.mpr (hchar ' ' rfl)⟩
  refine ⟨fun mark hmark => ?marked, ?same, normalizeTimestamp_alone hdate hbefore hbehind, ?again⟩
  case marked =>
    rw [hwritten mark hmark]
    refine ⟨?blank, ?bare, ?other, ?written⟩
    case blank =>
      intro hnil
      rw [hnil, String.toList_empty, timestamp_nil, String.ofList_toList]
    case bare =>
      intro hbare
      apply String.toList_injective
      simp [timestamp_of_isHourMinute _ hbare]
    case other =>
      intro hne hother
      apply String.toList_injective
      simp [timestamp_of_not_isHourMinute _ (mt String.toList_eq_nil_iff.mp hne) hother]
    case written =>
      rw [htime]
      exact normalizeTimestamp_again hdate time.toList
  case same => rw [hwritten "T" (by decide), hwritten " " (by decide)]
  case again =>
    rw [normalizeTimestamp, normalizeTimestamp_of_trim_eq hdate (trim_eq_self hdate.isTrimmed),
      String.ofList_toList]

/-- a time in blanks behind the letter, and a date in blanks -/
theorem normalizeTimestamp_of_date_padded :
    let raw := "\u3000 " ++ "2024-03-01" ++ "T" ++ " 09:30\t" ++ "\n"
    IsDate "2024-03-01".toList ∧ (∀ c ∈ "\u3000 ".toList, isBlank c = true) ∧
      (∀ c ∈ "\n".toList, isBlank c = true) ∧ IsHourMinute (trim " 09:30\t".toList) ∧
      normalizeTimestamp raw = "2024-03-01 09:30:00" ∧
      normalizeTimestamp "2024-03-01 09:30:00" = "2024-03-01 09:30:00" := by
  intro raw
  have hshown : ∀ c ∈ "2024-03-01".toList, (!isBlank c) = true := List.all_eq_true.mp (by decide)
  have hdate : IsDate "2024-03-01".toList :=
    ⟨by decide, fun c hc => (Bool.not_eq_true' _).mp (hshown c hc), by decide⟩
  have hbefore : ∀ c ∈ "\u3000 ".toList, isBlank c = true := List.all_eq_true.mp (by decide)
  have hbehind : ∀ c ∈ "\n".toList, isBlank c = true := List.all_eq_true.mp (by decide)
  have hdigits : ∀ c ∈ ['0', '9', '3', '0'], c.isDigit = true := List.all_eq_true.mp (by decide)
  have hbare : IsHourMinute (trim " 09:30\t".toList) := ⟨'0', '9', '3', '0', by decide, hdigits⟩
  obtain ⟨-, hraw, -, hagain⟩ := (normalizeTimestamp_of_date "\u3000 " "2024-03-01" " 09:30\t" "\n"
    hdate hbefore hbehind).1 "T" (by decide)
  have hwritten : normalizeTimestamp raw = "2024-03-01 09:30:00" := hraw hbare
  refine ⟨hdate, hbefore, hbehind, hbare, hwritten, ?_⟩
  rw [← hwritten]
  exact hagain

end SoqlForm
