import Mathlib.Algebra.BigOperators.Group.Finset.Basic
import Mathlib.Algebra.Order.BigOperators.Group.Finset
import Mathlib.Tactic.IntervalCases
import Mathlib.Data.List.Lex

set_option autoImplicit false

/-!
# The time in Kerberos messages

`secs_to_datetime` and the text that `current_kerberos_time` makes of it. The date is computed with
divisions within an era of 400 years that begins on a first of March; here it is compared with the
Gregorian calendar, counted year by year and month by month from 1970.
-/

namespace Smb2.Kerberos

structure DateTime where
  year : ℕ
  month : ℕ
  day : ℕ
  hour : ℕ
  minute : ℕ
  second : ℕ
deriving DecidableEq, Repr

/-- The year of the era, for a day of the era. -/
def yearOfEra (doe : ℕ) : ℕ := (doe - doe / 1460 + doe / 36524 - doe / 146096) / 365

/-- The day of the era on which a year begins. -/
def marchOf (yoe : ℕ) : ℕ := 365 * yoe + yoe / 4 - yoe / 100

/-- The civil date of a day since 1970: year, month and day. -/
def civilDate (days : ℕ) : ℕ × ℕ × ℕ :=
  let z : ℤ := days + 719468
  let era : ℤ := (if 0 ≤ z then z else z - 146096).tdiv 146097
  let doe := (z - era * 146097).toNat
  let yoe := yearOfEra doe
  let y : ℤ := yoe + era * 400
  let doy := doe - marchOf yoe
  let mp := (5 * doy + 2) / 153
  let d := doy - (153 * mp + 2) / 5 + 1
  let m := if mp < 10 then mp + 3 else mp - 9
  let y := if m ≤ 2 then y + 1 else y
  ((y % 4294967296).toNat, m, d)

def secsToDatetime (secs : ℕ) : DateTime :=
  let timeOfDay := secs % 86400
  let (year, month, day) := civilDate (secs / 86400)
  ⟨year, month, day, timeOfDay / 3600, timeOfDay % 3600 / 60, timeOfDay % 60⟩

/-- `format!` with a width and leading zeros, which prints longer numbers in full. -/
def zeroPadded (width n : ℕ) : List Char :=
  List.replicate (width - (Nat.toDigits 10 n).length) '0' ++ Nat.toDigits 10 n

def DateTime.text (t : DateTime) : List Char :=
  zeroPadded 4 t.year ++ (zeroPadded 2 t.month ++ (zeroPadded 2 t.day ++ (zeroPadded 2 t.hour ++
    (zeroPadded 2 t.minute ++ (zeroPadded 2 t.second ++ ['Z'])))))

/-! ## The calendar -/

abbrev IsLeap (y : ℕ) : Prop := y % 4 = 0 ∧ (y % 100 ≠ 0 ∨ y % 400 = 0)

def daysInMonth (y : ℕ) : ℕ → ℕ
  | 2 => if IsLeap y then 29 else 28
  | 4 | 6 | 9 | 11 => 30
  | _ => 31

/-- The days of the months before month `m`. -/
def daysBeforeMonth (y m : ℕ) : ℕ := ∑ i ∈ Finset.range (m - 1), daysInMonth y (i + 1)

/-- The days of the years from 1970 up to year `y`, a year being its twelve months. -/
def daysBeforeYear (y : ℕ) : ℕ := ∑ i ∈ Finset.range (y - 1970), daysBeforeMonth (1970 + i) 13

structure DateTime.Valid (t : DateTime) : Prop where
  year : 1970 ≤ t.year
  month : 1 ≤ t.month ∧ t.month ≤ 12
  day : 1 ≤ t.day ∧ t.day ≤ daysInMonth t.year t.month
  time : t.hour < 24 ∧ t.minute < 60 ∧ t.second < 60

/-- **The seconds since 1970**, by the calendar. -/
def DateTime.seconds (t : DateTime) : ℕ :=
  86400 * (daysBeforeYear t.year + daysBeforeMonth t.year t.month + (t.day - 1)) +
    3600 * t.hour + 60 * t.minute + t.second

lemma daysBeforeMonth_of_le_two (y : ℕ) {m : ℕ} (h1 : 1 ≤ m) (h2 : m ≤ 2) :
    daysBeforeMonth y m = 31 * (m - 1) := by
  interval_cases m <;> rfl

lemma daysBeforeMonth_march (y : ℕ) {k : ℕ} (h : k ≤ 10) :
    daysBeforeMonth y (k + 3) = (153 * k + 2) / 5 + 59 + if IsLeap y then 1 else 0 := by
  interval_cases k <;>
    simp only [daysBeforeMonth, Nat.reduceAdd, Nat.reduceSub, Finset.sum_range_succ,
      Finset.sum_range_zero, daysInMonth] <;>
    split_ifs <;> rfl

lemma daysBeforeYear_succ (n : ℕ) : daysBeforeYear (1970 + (n + 1)) =
    daysBeforeYear (1970 + n) + 365 + if IsLeap (1970 + n) then 1 else 0 := by
  rw [daysBeforeYear, Nat.add_sub_cancel_left, Finset.sum_range_succ,
    daysBeforeMonth_march _ (k := 10) (Nat.le_refl _), daysBeforeYear, Nat.add_sub_cancel_left,
    ← Nat.add_assoc]

lemma daysBeforeYear_add (n : ℕ) :
    daysBeforeYear (1970 + n) + 477 + (1969 + n) / 100 =
      365 * n + (1969 + n) / 4 + (1969 + n) / 400 := by
  induction n with
  | zero => rfl
  | succ n ih =>
    rw [daysBeforeYear_succ, ← Nat.add_assoc 1969 n 1, Nat.succ_div (a := 1969 + n) (b := 4),
      Nat.succ_div (a := 1969 + n) (b := 100), Nat.succ_div (a := 1969 + n) (b := 400),
      show 1969 + n + 1 = 1970 + n by omega]
    simp only [IsLeap, Nat.dvd_iff_mod_eq_zero]
    split_ifs <;> omega

/-- The same for a day after February, when the leap day of the year has passed. -/
lemma daysBeforeYear_add_leap (n : ℕ) :
    daysBeforeYear (1970 + n) + (if IsLeap (1970 + n) then 1 else 0) + 477 + (1970 + n) / 100 =
      365 * n + (1970 + n) / 4 + (1970 + n) / 400 := by
  have h := daysBeforeYear_add (n + 1)
  rw [daysBeforeYear_succ, show 1969 + (n + 1) = 1970 + n by omega] at h
  omega

/-! ## Dates from days -/

lemma yearOfEra_mono {a b : ℕ} (h : a ≤ b) : yearOfEra a ≤ yearOfEra b :=
  Nat.div_le_div_right (by omega)

lemma yearOfEra_march : ∀ y < 400, yearOfEra (marchOf y) = y ∧
    (y < 399 → yearOfEra (marchOf (y + 1) - 1) = y) := by
  decide +kernel

/-- The formula is monotone, so it is right if it is on the first and the last day of each year. -/
lemma yearOfEra_spec {doe : ℕ} (h : doe < 146097) :
    yearOfEra doe < 400 ∧ marchOf (yearOfEra doe) ≤ doe ∧
      (yearOfEra doe < 399 → doe < marchOf (yearOfEra doe + 1)) := by
  have hlt : yearOfEra doe < 400 := Nat.lt_succ_of_le (yearOfEra_mono (Nat.lt_succ_iff.1 h))
  generalize hy : yearOfEra doe = y at *
  refine ⟨hlt, ?_, fun hlast => ?_⟩
  · by_contra hbefore
    obtain _ | y := y
    · exact hbefore (Nat.zero_le _)
    · have hle := yearOfEra_mono (show doe ≤ marchOf (y + 1) - 1 by omega)
      rw [(yearOfEra_march y (by omega)).2 (by omega)] at hle
      omega
  · by_contra hafter
    have hle := yearOfEra_mono (Nat.le_of_not_lt hafter)
    rw [(yearOfEra_march _ (by omega)).1] at hle
    omega

lemma daysInMonth_march (y : ℕ) {k : ℕ} (h : k < 10) :
    daysInMonth y (k + 3) = (153 * k + 155) / 5 - (153 * k + 2) / 5 := by
  interval_cases k <;> rfl

lemma civilDate_eq {days e doe : ℕ} (hdays : days + 719468 = 146097 * e + doe)
    (hdoe : doe < 146097) (he : e < 25) {y doy mp : ℕ} (hy : 400 * e + yearOfEra doe = y)
    (hdoy : doe - marchOf (yearOfEra doe) = doy) (hmp : (5 * doy + 2) / 153 = mp) (hle : mp ≤ 11) :
    civilDate days = if mp < 10 then (y, mp + 3, doy - (153 * mp + 2) / 5 + 1)
      else (y + 1, mp - 9, doy - (153 * mp + 2) / 5 + 1) := by
  have hz : (days : ℤ) + 719468 = 146097 * e + doe := by exact_mod_cast hdays
  have hera : (146097 * e + doe : ℤ).tdiv 146097 = e := by
    rw [Int.tdiv_eq_ediv_of_nonneg (by positivity)]
    omega
  have hrest : ((146097 * e + doe : ℤ) - e * 146097).toNat = doe := by
    rw [mul_comm (e : ℤ), add_sub_cancel_left, Int.toNat_natCast]
  have hlt := (yearOfEra_spec hdoe).1
  simp only [civilDate, hz, if_pos (show (0 : ℤ) ≤ 146097 * e + doe by positivity), hera, hrest,
    hdoy, hmp]
  split_ifs <;> simp only [Prod.mk.injEq, and_true] <;> omega

lemma civilDate_spec {days : ℕ} (h : days < 2932897) :
    ∃ y m d, civilDate days = (y, m, d) ∧ (1970 ≤ y ∧ y ≤ 9999) ∧ (1 ≤ m ∧ m ≤ 12) ∧
      (1 ≤ d ∧ d ≤ daysInMonth y m) ∧ daysBeforeYear y + daysBeforeMonth y m + (d - 1) = days := by
  obtain ⟨e, doe, hdays, hdoe⟩ : ∃ e doe, days + 719468 = 146097 * e + doe ∧ doe < 146097 :=
    ⟨(days + 719468) / 146097, (days + 719468) % 146097, by omega, by omega⟩
  obtain ⟨hlt, hlow, hhigh⟩ := yearOfEra_spec hdoe
  obtain ⟨doy, hdoy⟩ := Nat.exists_eq_add_of_le hlow
  obtain ⟨mp, hmp⟩ : ∃ mp, (5 * doy + 2) / 153 = mp := ⟨_, rfl⟩
  have hyears : doy ≤ 364 ∨ doy = 365 ∧ IsLeap (400 * e + yearOfEra doe + 1) := by
    simp only [marchOf] at hdoy hhigh
    generalize yearOfEra doe = yoe at *
    by_cases hlast : yoe = 399
    · subst hlast
      omega
    · have hnext := hhigh (by omega)
      rw [Nat.succ_div (b := 4), Nat.succ_div (b := 100)] at hnext
      simp only [Nat.dvd_iff_mod_eq_zero] at hnext
      clear hdays hmp
      split_ifs at hnext <;> omega
  have hle : mp ≤ 11 := by omega
  have hdate := civilDate_eq hdays hdoe (by omega) rfl (by omega) hmp hle
  generalize yearOfEra doe = yoe at *
  simp only [marchOf] at hdoy
  have hstart : 1969 ≤ 400 * e + yoe ∧ (400 * e + yoe = 1969 → 306 ≤ doy) := by
    obtain rfl | hlater := Nat.eq_or_lt_of_le (show 4 ≤ e by omega) <;> omega
  have hquarter : (400 * e + yoe) / 4 = 100 * e + yoe / 4 := by omega
  have hcentury : (400 * e + yoe) / 100 = 4 * e + yoe / 100 := by omega
  have hera : (400 * e + yoe) / 400 = e := by omega
  split_ifs at hdate with hearly
  · obtain ⟨n, hn⟩ : ∃ n, 400 * e + yoe = 1970 + n := Nat.exists_eq_add_of_le (by omega)
    have hyear := daysBeforeYear_add_leap n
    have hmonth := daysBeforeMonth_march (1970 + n) (Nat.le_of_lt hearly)
    have hlength := daysInMonth_march (1970 + n) hearly
    rw [hn] at hdate hquarter hcentury hera
    rw [hquarter, hcentury, hera] at hyear
    exact ⟨_, _, _, hdate, by omega, by omega, by omega, by omega⟩
  · obtain ⟨n, hn⟩ : ∃ n, 400 * e + yoe + 1 = 1970 + n := Nat.exists_eq_add_of_le (by omega)
    have hyear := daysBeforeYear_add n
    have hmonth := daysBeforeMonth_of_le_two (1970 + n) (m := mp - 9) (by omega) (by omega)
    rw [hn] at hdate hyears
    rw [show 1969 + n = 400 * e + yoe by omega, hquarter, hcentury, hera] at hyear
    have hlength : doy - (153 * mp + 2) / 5 + 1 ≤ daysInMonth (1970 + n) (mp - 9) := by
      obtain rfl | rfl : mp = 10 ∨ mp = 11 := by omega
      · simp only [Nat.reduceSub, daysInMonth]
        omega
      · simp only [Nat.reduceSub, daysInMonth]
        split_ifs <;> omega
    exact ⟨_, _, _, hdate, by omega, by omega, ⟨by omega, hlength⟩, by omega⟩

lemma secsToDatetime_spec {secs : ℕ} (h : secs < 253402300800) :
    (secsToDatetime secs).Valid ∧ (secsToDatetime secs).year ≤ 9999 ∧
      (secsToDatetime secs).seconds = secs := by
  obtain ⟨y, m, d, hdate, hyear, hmonth, hday, hcount⟩ :=
    civilDate_spec (show secs / 86400 < 2932897 by omega)
  simp only [secsToDatetime, hdate, DateTime.seconds, hcount]
  exact ⟨⟨hyear.1, hmonth, hday, by dsimp only; omega⟩, hyear.2, by omega⟩

/-! ## The order of the texts -/

lemma append_lt_append {a b x y : List Char} (hlen : a.length = b.length)
    (h : a < b ∨ a = b ∧ x < y) : a ++ x < b ++ y := by
  rcases h with h | ⟨rfl, h⟩
  · induction a generalizing b with
    | nil => exact absurd (List.length_eq_zero_iff.1 hlen.symm ▸ h) (List.lt_irrefl _)
    | cons c a ih =>
      obtain ⟨c', b, rfl⟩ := List.exists_cons_of_length_eq_add_one hlen.symm
      exact List.cons_lt_cons_iff.2 ((List.cons_lt_cons_iff.1 h).imp_right
        (And.imp_right fun hrest => ih (Nat.succ.inj hlen) hrest))
  · exact List.append_left_lt h

lemma zeroPadded_succ {w : ℕ} (hw : 0 < w) (n : ℕ) :
    zeroPadded (w + 1) n = zeroPadded w (n / 10) ++ [(n % 10).digitChar] := by
  by_cases hn : n < 10
  · obtain ⟨k, rfl⟩ := Nat.exists_eq_add_of_lt hw
    rw [zeroPadded, zeroPadded, Nat.div_eq_of_lt hn, Nat.mod_eq_of_lt hn,
      Nat.toDigits_of_lt_base hn]
    simp [Nat.toDigits_of_lt_base, List.replicate_succ']
  · rw [zeroPadded, Nat.toDigits_of_base_le (by decide) (Nat.le_of_not_lt hn), List.length_append,
      List.length_singleton, Nat.add_sub_add_right, ← List.append_assoc, zeroPadded]

lemma length_zeroPadded {w n : ℕ} (hw : 0 < w) (hn : n < 10 ^ w) : (zeroPadded w n).length = w := by
  have hle := (Nat.length_toDigits_le_iff (b := 10) (by decide) hw).2 hn
  rw [zeroPadded, List.length_append, List.length_replicate]
  omega

lemma zeroPadded_lt {w n m : ℕ} (hw : 0 < w) (hnm : n < m) (hm : m < 10 ^ w) :
    zeroPadded w n < zeroPadded w m := by
  have hdigit : ∀ i < 10, ∀ j < 10, i < j → [Nat.digitChar i] < [Nat.digitChar j] := by decide
  induction w, hw using Nat.le_induction generalizing n m with
  | base =>
    replace hm : m < 10 := hm
    rw [zeroPadded, zeroPadded, Nat.toDigits_of_lt_base (hnm.trans hm), Nat.toDigits_of_lt_base hm]
    exact hdigit n (hnm.trans hm) m hm hnm
  | succ w hw ih =>
    have hm' : m / 10 < 10 ^ w := by rw [Nat.pow_succ] at hm; omega
    have hle : n / 10 ≤ m / 10 := Nat.div_le_div_right hnm.le
    rw [zeroPadded_succ hw, zeroPadded_succ hw]
    refine append_lt_append ?_ ?_
    · rw [length_zeroPadded hw (hle.trans_lt hm'), length_zeroPadded hw hm']
    · rcases Nat.eq_or_lt_of_le hle with heq | hlt
      · exact .inr ⟨by rw [heq], hdigit _ (by omega) _ (by omega) (by omega)⟩
      · exact .inl (ih hlt hm')

lemma zeroPadded_append_lt {w n m : ℕ} {x y : List Char} (hw : 0 < w) (hm : m < 10 ^ w)
    (hle : n ≤ m) (h : n = m → x < y) : zeroPadded w n ++ x < zeroPadded w m ++ y := by
  refine append_lt_append ?_ ?_
  · rw [length_zeroPadded hw (hle.trans_lt hm), length_zeroPadded hw hm]
  · rcases Nat.eq_or_lt_of_le hle with heq | hlt
    · exact .inr ⟨by rw [heq], h heq⟩
    · exact .inl (zeroPadded_lt hw hlt hm)

lemma sum_range_add_le {f : ℕ → ℕ} {a b : ℕ} (h : a < b) :
    ∑ i ∈ Finset.range a, f i + f a ≤ ∑ i ∈ Finset.range b, f i := by
  rw [← Finset.sum_range_succ]
  exact Finset.sum_le_sum_of_subset (Finset.range_mono h)

lemma daysBeforeMonth_add_le {y m m' : ℕ} (h1 : 1 ≤ m) (h : m < m') :
    daysBeforeMonth y m + daysInMonth y m ≤ daysBeforeMonth y m' := by
  have hsum := sum_range_add_le (f := fun i => daysInMonth y (i + 1)) (Nat.sub_lt_sub_right h1 h)
  rwa [Nat.sub_add_cancel h1] at hsum

lemma daysInMonth_le (y m : ℕ) : daysInMonth y m ≤ 31 := by
  unfold daysInMonth
  split
  · split_ifs <;> decide
  all_goals decide

/-- A date lies within its year. -/
lemma DateTime.Valid.days_le {t : DateTime} (ht : t.Valid) {y : ℕ} (h : t.year < y) :
    daysBeforeYear t.year + daysBeforeMonth t.year t.month + t.day ≤ daysBeforeYear y := by
  have hyear := sum_range_add_le (f := fun i => daysBeforeMonth (1970 + i) 13)
    (Nat.sub_lt_sub_right ht.year h)
  rw [Nat.add_sub_cancel' ht.year] at hyear
  have hmonth := daysBeforeMonth_add_le (y := t.year) ht.month.1 (show t.month < 13 from Nat.lt_succ_of_le ht.month.2)
  have hday := ht.day.2
  unfold daysBeforeYear
  omega

/-- A later second has a later date: a month ends before the next one begins, and so does a year. -/
lemma DateTime.Valid.text_lt {t u : DateTime} (ht : t.Valid) (hu : u.Valid) (huy : u.year ≤ 9999)
    (h : t.seconds < u.seconds) : t.text < u.text := by
  have hday := daysInMonth_le u.year u.month
  have hmonth := fun hlt : u.month < t.month =>
    daysBeforeMonth_add_le (y := u.year) hu.month.1 hlt
  obtain ⟨-, -, htd, htt⟩ := ht
  have hyear : t.year ≤ u.year := by
    by_contra hlt
    have := hu.days_le (Nat.lt_of_not_le hlt)
    simp only [seconds] at h
    have := hu.day
    have := hu.time
    omega
  obtain ⟨-, ⟨-, hum⟩, hud, hut⟩ := hu
  simp only [seconds] at h
  refine zeroPadded_append_lt (by decide) (by omega) hyear fun heq => ?_
  rw [heq] at h htd
  have hmonth' : t.month ≤ u.month := by
    by_contra hlt
    have := hmonth (Nat.lt_of_not_le hlt)
    omega
  refine zeroPadded_append_lt (by decide) (by omega) hmonth' fun heq' => ?_
  rw [heq'] at h
  refine zeroPadded_append_lt (by decide) (by omega) (by omega) fun _ => ?_
  refine zeroPadded_append_lt (by decide) (by omega) (by omega) fun _ => ?_
  refine zeroPadded_append_lt (by decide) (by omega) (by omega) fun _ => ?_
  exact zeroPadded_append_lt (by decide) (by omega) (by omega) fun _ => by omega

/-- **The date is the Gregorian one.** Up to the year 9999, the result is a valid date and time, counting
days from 1970-01-01 gives back the input, and a later second has a text that is sorted behind. -/
theorem secsToDatetime_gregorian {secs : ℕ} (h : secs < 253402300800) :
    (secsToDatetime secs).Valid ∧ (secsToDatetime secs).seconds = secs ∧
      ∀ later, secs < later → later < 253402300800 →
        (secsToDatetime secs).text < (secsToDatetime later).text := by
  obtain ⟨hvalid, -, hsecs⟩ := secsToDatetime_spec h
  refine ⟨hvalid, hsecs, fun later hlater hend => ?_⟩
  obtain ⟨hvalid', hyear, hsecs'⟩ := secsToDatetime_spec hend
  exact hvalid.text_lt hvalid' hyear (by rw [hsecs, hsecs']; exact hlater)

/-- A leap day of a century. -/
theorem secsToDatetime_gregorian_leapDay :
    secsToDatetime 951782399 = ⟨2000, 2, 28, 23, 59, 59⟩ ∧
      (secsToDatetime 951782400).seconds = 951782400 :=
  ⟨by decide, (secsToDatetime_gregorian (by decide)).2.1⟩

end Smb2.Kerberos
