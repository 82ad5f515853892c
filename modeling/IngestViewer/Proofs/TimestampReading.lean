import IngestViewer.Proofs.TimestampSpelling
import IngestViewer.Proofs.Trimming

namespace IngestViewer.Timestamp

theorem bind_eq_ok {α β : Type} {x : Except TimestampFault α} {f : α → Except TimestampFault β}
    {b : β} : (x >>= f) = .ok b ↔ ∃ a, x = .ok a ∧ f a = .ok b := by
  cases x with
  | error e => simp [bind, Except.bind]
  | ok a => simp [bind, Except.bind]

theorem map_eq_ok {α β : Type} {x : Except TimestampFault α} {f : α → β} {b : β} :
    x.map f = .ok b ↔ ∃ a, x = .ok a ∧ f a = b := by
  cases x with
  | error e => simp [Except.map]
  | ok a => simp [Except.map]

theorem isDigit_iff {c : Char} : c.isDigit = true ↔ 48 ≤ c.toNat ∧ c.toNat ≤ 57 := by
  simp only [Char.isDigit, Bool.and_eq_true, decide_eq_true_eq]
  exact and_congr UInt32.le_iff_toNat_le UInt32.le_iff_toNat_le

theorem digitValue_lt {c : Char} (digit : c.isDigit = true) : digitValue c < 10 := by
  have range := isDigit_iff.mp digit
  show c.toNat - 48 < 10
  omega

theorem digitChar_digitValue {c : Char} (digit : c.isDigit = true) :
    Nat.digitChar (digitValue c) = c := by
  have range := isDigit_iff.mp digit
  have value : digitValue c = c.toNat - 48 := rfl
  apply Char.toNat_inj.mp
  rw [Nat.toNat_digitChar_of_lt_ten (digitValue_lt digit), value]
  omega

theorem digitValue_digitChar {d : Nat} (small : d < 10) : digitValue (Nat.digitChar d) = d :=
  Nat.toNat_digitChar_sub_48_of_lt_ten small

theorem twoDigits_eq_ok {cs rest : List Char} {n : Nat} :
    twoDigits cs = .ok (n, rest) ↔ n < 100 ∧ cs = pair n ++ rest := by
  constructor
  · intro h
    match cs, h with
    | a :: b :: cs, h =>
      rw [twoDigits] at h
      split at h
      next digits =>
        obtain ⟨first, second⟩ := Bool.and_eq_true_iff.mp digits
        cases h
        have tens := digitValue_lt first
        have ones := digitValue_lt second
        have front : (digitValue a * 10 + digitValue b) / 10 = digitValue a := by omega
        have back : (digitValue a * 10 + digitValue b) % 10 = digitValue b := by omega
        refine ⟨by omega, ?_⟩
        rw [pair, front, back, digitChar_digitValue first, digitChar_digitValue second]
        rfl
      next => cases h
  · rintro ⟨small, rfl⟩
    have tens : n / 10 < 10 := by omega
    have ones : n % 10 < 10 := by omega
    have digits : ((n / 10).digitChar.isDigit && (n % 10).digitChar.isDigit) = true := by
      rw [Nat.isDigit_digitChar, Nat.isDigit_digitChar]
      simp [tens, ones]
    have whole : n / 10 * 10 + n % 10 = n := by omega
    simp only [pair, List.cons_append, List.nil_append, twoDigits, digits, if_true,
      digitValue_digitChar tens, digitValue_digitChar ones, whole]

theorem expect_eq_ok {p : Char → Bool} {cs rest : List Char} :
    expect p cs = .ok rest ↔ ∃ c, p c = true ∧ cs = c :: rest := by
  cases cs with
  | nil => simp [expect]
  | cons c cs =>
    rw [expect]
    split
    next accepted =>
      constructor
      · intro h
        cases h
        exact ⟨c, accepted, rfl⟩
      · rintro ⟨d, -, same⟩
        cases same
        rfl
    next refused =>
      constructor
      · intro h
        cases h
      · rintro ⟨d, accepted, same⟩
        cases same
        exact absurd accepted refused

theorem byteSize_cons (c : Char) (cs : List Char) :
    byteSize (c :: cs) = c.utf8Size + byteSize cs := by
  have from_size (cs : List Char) (n : Nat) :
      cs.foldl (fun n c => n + c.utf8Size) n = n + byteSize cs := by
    induction cs generalizing n with
    | nil => rfl
    | cons d cs ih =>
      rw [byteSize, List.foldl_cons, List.foldl_cons, ih, ih]
      omega
  rw [byteSize, List.foldl_cons, from_size]
  omega

theorem length_le_byteSize (cs : List Char) : cs.length ≤ byteSize cs := by
  induction cs with
  | nil => exact Nat.zero_le _
  | cons c cs ih =>
    have := c.utf8Size_pos
    rw [byteSize_cons, List.length_cons]
    omega

theorem lastTwoDigits_eq_ok {cs rest : List Char} {n : Nat} :
    lastTwoDigits cs = .ok (n, rest) ↔ n < 100 ∧ cs = pair n ++ rest := by
  rw [← twoDigits_eq_ok, lastTwoDigits]
  split
  next short =>
    refine ⟨fun h => (by cases h), fun h => ?_⟩
    obtain ⟨-, rfl⟩ := twoDigits_eq_ok.mp h
    have size := length_le_byteSize (pair n ++ rest)
    rw [List.length_append, pair] at size
    simp only [pair, List.length_cons, List.length_nil] at size short
    omega
  next => exact Iff.rfl

theorem ofDigitChars_take {k m : Nat} (enough : k ≤ m) (ds : List (Fin 10)) (n : Nat) :
    Nat.ofDigitChars 10 (((ds.map fun d => Nat.digitChar d.val) ++ List.replicate m '0').take k) n =
      n * 10 ^ k + worth (10 ^ k / 10) ds := by
  -- on the places that are left, with what has been read before them as it grows
  induction k generalizing m ds n with
  | zero => simp [Nat.ofDigitChars, worth_zero]
  | succ k ih =>
    have shift : 10 * n * 10 ^ k = n * (10 ^ k * 10) := by ac_rfl
    cases ds with
    | nil =>
      obtain ⟨m, rfl⟩ : ∃ m', m = m' + 1 := ⟨m - 1, by omega⟩
      have others := ih (show k ≤ m by omega) [] (10 * n)
      rw [List.map_nil, List.nil_append] at others ⊢
      rw [List.replicate_succ, List.take_succ_cons, Nat.ofDigitChars, List.foldl_cons]
      show Nat.ofDigitChars 10 ((List.replicate m '0').take k) (10 * n) = _
      rw [others, worth, worth, Nat.pow_succ, shift]
    | cons d ds =>
      have others := ih (show k ≤ m by omega) ds (10 * n + d.val)
      have digit := digitValue_digitChar d.isLt
      rw [List.map_cons, List.cons_append, List.take_succ_cons, Nat.ofDigitChars, List.foldl_cons]
      show Nat.ofDigitChars 10 _ (10 * n + digitValue (Nat.digitChar d.val)) = _
      rw [digit, others, worth, unit_succ, Nat.pow_succ, Nat.add_mul, shift, Nat.add_assoc]

theorem nanosOfDigits_eq (ds : List (Fin 10)) :
    nanosOfDigits (ds.map fun d => Nat.digitChar d.val) = worth 100000000 ds := by
  have whole := ofDigitChars_take (Nat.le_refl 9) ds 0
  rw [Nat.zero_mul, Nat.zero_add] at whole
  exact whole

theorem isDigit_of_mem_digits (ds : List (Fin 10)) :
    ∀ c ∈ ds.map fun d => Nat.digitChar d.val, c.isDigit = true := by
  intro c hc
  obtain ⟨d, -, rfl⟩ := List.mem_map.mp hc
  rw [Nat.isDigit_digitChar]
  exact decide_eq_true d.isLt

theorem exists_digits {cs : List Char} (digits : ∀ c ∈ cs, c.isDigit = true) :
    ∃ ds : List (Fin 10), cs = ds.map fun d => Nat.digitChar d.val := by
  induction cs with
  | nil => exact ⟨[], rfl⟩
  | cons c cs ih =>
    obtain ⟨first, others⟩ := List.forall_mem_cons.mp digits
    obtain ⟨ds, rfl⟩ := ih others
    exact ⟨⟨digitValue c, digitValue_lt first⟩ :: ds, by simp [digitChar_digitValue first]⟩

/-- Whether a text goes on with something that a fraction cannot go on with. -/
def EndsFraction (rest : List Char) : Prop :=
  ∀ c ∈ rest.head?, c.isDigit = false ∧ c ≠ '.'

theorem readFraction_text (ds : List (Fin 10)) {rest : List Char} (ends : EndsFraction rest) :
    readFraction (fractionText ds ++ rest) = .ok (worth 100000000 ds, rest) := by
  cases ds with
  | nil =>
    rw [fractionText, List.nil_append]
    unfold readFraction
    split
    next cs => exact absurd rfl (ends '.' rfl).2
    next => rfl
  | cons d ds =>
    have digits := isDigit_of_mem_digits (d :: ds)
    have first : (Nat.digitChar d.val).isDigit = true := digits _ (by simp)
    have none : rest.takeWhile Char.isDigit = [] ∧ rest.dropWhile Char.isDigit = rest := by
      cases rest with
      | nil => exact ⟨rfl, rfl⟩
      | cons c cs => simp [(ends c rfl).1]
    have taken : (((d :: ds).map fun d => Nat.digitChar d.val) ++ rest).takeWhile Char.isDigit =
        (d :: ds).map fun d => Nat.digitChar d.val := by
      rw [List.takeWhile_append_of_pos digits, none.1, List.append_nil]
    have dropped : (((d :: ds).map fun d => Nat.digitChar d.val) ++ rest).dropWhile Char.isDigit =
        rest := by
      rw [List.dropWhile_append_of_pos digits, none.2]
    have value := nanosOfDigits_eq (d :: ds)
    rw [fractionText, List.cons_append]
    simp only [List.map_cons, List.cons_append] at taken dropped value ⊢
    rw [readFraction]
    simp only [first, if_true, taken, dropped, value]

theorem exists_of_readFraction {cs rest : List Char} {n : Nat}
    (h : readFraction cs = .ok (n, rest)) :
    ∃ ds, cs = fractionText ds ++ rest ∧ n = worth 100000000 ds := by
  unfold readFraction at h
  split at h
  next cs =>
    split at h
    next => cases h
    next c cs =>
      split at h
      next first =>
        have taken : ∀ e ∈ (c :: cs).takeWhile Char.isDigit, e.isDigit = true :=
          List.all_eq_true.mp List.all_takeWhile
        obtain ⟨ds, digits⟩ := exists_digits taken
        cases h
        refine ⟨ds, ?_, by rw [digits, nanosOfDigits_eq]⟩
        have some : ds ≠ [] := by
          rintro rfl
          simp [first] at digits
        obtain ⟨e, es, rfl⟩ := List.exists_cons_of_ne_nil some
        rw [fractionText, ← digits, List.cons_append, List.takeWhile_append_dropWhile]
      next => cases h
  next =>
    cases h
    exact ⟨[], rfl, rfl⟩

theorem readDate_eq_ok {cs rest : List Char} {d : Date} :
    readDate cs = .ok (d, rest) ↔
      d.IsReal ∧ 0 ≤ d.year ∧ d.year ≤ 9999 ∧ cs = dateText d ++ rest := by
  simp only [readDate, bind_eq_ok, Prod.exists, twoDigits_eq_ok, expect_eq_ok, beq_iff_eq]
  constructor
  · rintro ⟨century, _, ⟨smallCentury, rfl⟩, year, _, ⟨smallYear, rfl⟩, _, ⟨_, rfl, rfl⟩, month, _,
      ⟨-, rfl⟩, _, ⟨_, rfl, rfl⟩, day, _, ⟨-, rfl⟩, h⟩
    split at h
    next found =>
      cases h
      obtain ⟨real, sameYear, sameMonth, sameDay⟩ := Date.ofNumbers?_eq_some.mp found
      have front : d.year.toNat / 100 = century := by omega
      have back : d.year.toNat % 100 = year := by omega
      refine ⟨real, by omega, by omega, ?_⟩
      rw [dateText, front, back, sameMonth, sameDay]
      simp
    next => cases h
  · rintro ⟨real, nonneg, le, rfl⟩
    have small : d.day < 100 := by
      have length := real.day_le
      have bound := d.monthLength_le
      omega
    have numbers : Date.ofNumbers? (d.year.toNat / 100 * 100 + d.year.toNat % 100 : Nat)
        (d.month.val + 1) d.day = some d :=
      Date.ofNumbers?_eq_some.mpr ⟨real, by omega, rfl, rfl⟩
    have shape : dateText d ++ rest = pair (d.year.toNat / 100) ++ (pair (d.year.toNat % 100) ++
        '-' :: (pair (d.month.val + 1) ++ '-' :: (pair d.day ++ rest))) := by
      simp [dateText]
    refine ⟨_, _, ⟨by omega, shape⟩, _, _, ⟨by omega, rfl⟩, _, ⟨'-', rfl, rfl⟩, _, _,
      ⟨by omega, rfl⟩, _, ⟨'-', rfl, rfl⟩, _, _, ⟨small, rfl⟩, ?_⟩
    rw [numbers]

theorem readTime_text {hour minute second : Nat} (smallHour : hour ≤ 23) (smallMinute : minute ≤ 59)
    (smallSecond : second ≤ 60) (ds : List (Fin 10)) {rest : List Char}
    (ends : EndsFraction rest) :
    readTime (timeText hour minute second ds ++ rest) =
      .ok ((hour * 3600 + minute * 60 + min second 59,
        worth 100000000 ds + if second = 60 then 1000000000 else 0), rest) := by
  simp only [readTime, bind_eq_ok, Prod.exists, twoDigits_eq_ok, expect_eq_ok, beq_iff_eq]
  refine ⟨_, _, ⟨by omega, List.append_assoc ..⟩, _, ⟨':', rfl, List.cons_append⟩, _, _,
    ⟨by omega, List.append_assoc ..⟩, _, ⟨':', rfl, List.cons_append⟩, _, _,
    ⟨by omega, List.append_assoc ..⟩, _, _, readFraction_text ds ends, ?_⟩
  rw [if_pos ⟨smallHour, smallMinute, smallSecond⟩]

theorem exists_of_readTime {cs rest : List Char} {second nanos : Nat}
    (h : readTime cs = .ok ((second, nanos), rest)) :
    ∃ (hour : Fin 24) (minute : Fin 60) (last : Fin 61) (ds : List (Fin 10)),
      cs = timeText hour minute last ds ++ rest ∧
      second = hour * 3600 + minute * 60 + min last.val 59 ∧
      nanos = worth 100000000 ds + if last.val = 60 then 1000000000 else 0 := by
  simp only [readTime, bind_eq_ok, Prod.exists, twoDigits_eq_ok, expect_eq_ok, beq_iff_eq] at h
  obtain ⟨hour, _, ⟨-, rfl⟩, _, ⟨_, rfl, rfl⟩, minute, _, ⟨-, rfl⟩, _, ⟨_, rfl, rfl⟩, last, _,
    ⟨-, rfl⟩, n, _, fraction, h⟩ := h
  obtain ⟨ds, rfl, rfl⟩ := exists_of_readFraction fraction
  split at h
  next small =>
    obtain ⟨smallHour, smallMinute, smallLast⟩ := small
    cases h
    refine ⟨⟨hour, by omega⟩, ⟨minute, by omega⟩, ⟨last, by omega⟩, ds, ?_, rfl, rfl⟩
    simp [timeText]
  next => cases h

theorem readHoursMinutes_eq_ok {cs rest : List Char} {n : Nat} :
    readHoursMinutes cs = .ok (n, rest) ↔
      ∃ hours minutes, hours < 100 ∧ minutes < 60 ∧ n = hours * 3600 + minutes * 60 ∧
        cs = pair hours ++ ':' :: pair minutes ++ rest := by
  simp only [readHoursMinutes, bind_eq_ok, Prod.exists, lastTwoDigits_eq_ok]
  constructor
  · rintro ⟨hours, _, ⟨smallHours, rfl⟩, h⟩
    split at h
    next => simp only [bind_eq_ok, reduceCtorEq, false_and, exists_false] at h
    next =>
      simp only [bind_eq_ok, Prod.exists, lastTwoDigits_eq_ok, expect_eq_ok, beq_iff_eq] at h
      obtain ⟨_, ⟨_, rfl, rfl⟩, minutes, _, ⟨-, rfl⟩, h⟩ := h
      split at h
      next smallMinutes =>
        cases h
        exact ⟨hours, minutes, smallHours, by omega, rfl, by simp⟩
      next => cases h
  · rintro ⟨hours, minutes, smallHours, smallMinutes, rfl, rfl⟩
    have shape : pair hours ++ ':' :: pair minutes ++ rest =
        pair hours ++ ':' :: (pair minutes ++ rest) := by simp
    have colon : expect (· == ':') (':' :: (pair minutes ++ rest)) = .ok (pair minutes ++ rest) :=
      expect_eq_ok.mpr ⟨':', rfl, rfl⟩
    have digits : lastTwoDigits (pair minutes ++ rest) = .ok (minutes, rest) :=
      lastTwoDigits_eq_ok.mpr ⟨by omega, rfl⟩
    refine ⟨_, _, ⟨smallHours, shape⟩, bind_eq_ok.mpr ⟨_, colon, bind_eq_ok.mpr ⟨_, digits, ?_⟩⟩⟩
    rw [if_pos (by omega)]

theorem exists_of_readHoursMinutes {cs rest : List Char} {n : Nat}
    (h : readHoursMinutes cs = .ok (n, rest)) (day : n < 86400) :
    ∃ (hours : Fin 24) (minutes : Fin 60), n = hours.val * 3600 + minutes.val * 60 ∧
      ∀ sign : Sign, sign.char :: cs = (Offset.signed sign hours minutes).text ++ rest := by
  obtain ⟨hours, minutes, -, smallMinutes, rfl, rfl⟩ := readHoursMinutes_eq_ok.mp h
  exact ⟨⟨hours, by omega⟩, ⟨minutes, smallMinutes⟩, rfl, fun _ => rfl⟩

theorem readOffset_text (o : Offset) (rest : List Char) :
    readOffset (o.text ++ rest) = .ok (o.seconds, rest) := by
  cases o with
  | capital => rfl
  | small => rfl
  | signed sign hours minutes =>
    have digits : readHoursMinutes (pair hours ++ ':' :: pair minutes ++ rest) =
        .ok (hours.val * 3600 + minutes.val * 60, rest) :=
      readHoursMinutes_eq_ok.mpr ⟨hours, minutes, by omega, by omega, rfl, rfl⟩
    rw [Offset.text, List.cons_append, readOffset, digits]
    cases sign <;> rfl

theorem natAbs_seconds_lt (o : Offset) : o.seconds.natAbs < 86400 := by
  cases o with
  | capital => decide
  | small => decide
  | signed sign hours minutes =>
    cases sign <;> simp only [Offset.seconds, Sign.apply] <;> omega

theorem exists_of_readOffset {cs rest : List Char} {seconds : Int}
    (h : readOffset cs = .ok (seconds, rest)) (day : seconds.natAbs < 86400) :
    ∃ o : Offset, cs = o.text ++ rest ∧ seconds = o.seconds := by
  unfold readOffset at h
  split at h
  next => cases h
  next c cs =>
    split at h
    next letter =>
      cases h
      rcases Bool.or_eq_true_iff.mp letter with letter | letter
      · exact ⟨.capital, congrArg (· :: rest) (eq_of_beq letter), rfl⟩
      · exact ⟨.small, congrArg (· :: rest) (eq_of_beq letter), rfl⟩
    next =>
      split at h
      next plus =>
        obtain ⟨⟨n, rest'⟩, read, same⟩ := map_eq_ok.mp h
        cases same
        obtain ⟨hours, minutes, rfl, text⟩ := exists_of_readHoursMinutes read (by omega)
        exact ⟨.signed .plus hours minutes, eq_of_beq plus ▸ text .plus, rfl⟩
      next =>
        split at h
        next minus =>
          obtain ⟨⟨n, rest'⟩, read, same⟩ := map_eq_ok.mp h
          cases same
          obtain ⟨hours, minutes, rfl, text⟩ := exists_of_readHoursMinutes read (by omega)
          rcases Bool.or_eq_true_iff.mp minus with sign | sign
          · exact ⟨.signed .hyphen hours minutes, eq_of_beq sign ▸ text .hyphen, rfl⟩
          · exact ⟨.signed .minus hours minutes, eq_of_beq sign ▸ text .minus, rfl⟩
        next => cases h

theorem expect_separator {cs rest : List Char} :
    expect (fun c => c == 'T' || c == 't' || c == ' ') cs = .ok rest ↔
      ∃ s : Separator, cs = s.char :: rest := by
  rw [expect_eq_ok]
  constructor
  · rintro ⟨c, accepted, rfl⟩
    simp only [Bool.or_eq_true, beq_iff_eq] at accepted
    rcases accepted with (rfl | rfl) | rfl
    · exact ⟨.capital, rfl⟩
    · exact ⟨.small, rfl⟩
    · exact ⟨.space, rfl⟩
  · rintro ⟨s, rfl⟩
    exact ⟨s.char, by cases s <;> rfl, rfl⟩

theorem endsFraction_text (o : Offset) (rest : List Char) : EndsFraction (o.text ++ rest) := by
  intro c hc
  cases o with
  | capital => cases hc; decide
  | small => cases hc; decide
  | signed sign hours minutes => cases hc; cases sign <;> decide

theorem length_text (w : Spelling) : 19 ≤ w.text.length := by
  simp [Spelling.text, dateText, timeText, pair]

theorem read_eq_ok {cs : List Char} {t : Instant} :
    read cs = .ok t ↔ ∃ w : Spelling, cs = w.text ∧ w.instant = t := by
  constructor
  · intro h
    unfold read at h
    split at h
    next => cases h
    next =>
      simp only [bind_eq_ok, Prod.exists, readDate_eq_ok, expect_separator] at h
      obtain ⟨date, _, ⟨real, nonneg, le, rfl⟩, _, ⟨separator, rfl⟩, second, nanos, _, time,
        seconds, rest, offset, h⟩ := h
      split at h
      next => cases h
      next none =>
        split at h
        next => cases h
        next day =>
          cases h
          obtain ⟨hour, minute, last, ds, rfl, rfl, rfl⟩ := exists_of_readTime time
          obtain ⟨o, rfl, rfl⟩ := exists_of_readOffset offset (by omega)
          have empty : rest = [] := by simpa using none
          subst empty
          refine ⟨⟨date, real, nonneg, le, separator, hour, minute, last, ds, o⟩, ?_, ?_⟩
          · simp [Spelling.text]
          · simp [Spelling.instant, Spelling.secondOfDay, Spelling.nanos, Int.mul_comm]
  · rintro ⟨w, rfl, rfl⟩
    have long := Nat.le_trans (length_text w) (length_le_byteSize w.text)
    have day := natAbs_seconds_lt w.offset
    have shape : w.text = dateText w.date ++ w.separator.char ::
        (timeText w.hour w.minute w.second w.fraction ++ (w.offset.text ++ [])) := by
      rw [Spelling.text, List.append_nil]
    have time := readTime_text (show w.hour.val ≤ 23 by omega) (show w.minute.val ≤ 59 by omega)
      (show w.second.val ≤ 60 by omega) w.fraction (endsFraction_text w.offset [])
    rw [read, if_neg (by omega), shape]
    refine bind_eq_ok.mpr ⟨_, readDate_eq_ok.mpr ⟨w.real, w.year_nonneg, w.year_le, rfl⟩, ?_⟩
    refine bind_eq_ok.mpr ⟨_, expect_separator.mpr ⟨w.separator, rfl⟩, ?_⟩
    refine bind_eq_ok.mpr ⟨_, time, bind_eq_ok.mpr ⟨_, readOffset_text w.offset [], ?_⟩⟩
    simp only [ne_eq, not_true_eq_false, if_false, if_neg (show ¬86400 ≤ w.offset.seconds.natAbs by omega)]
    rw [Spelling.instant, Spelling.secondOfDay, Spelling.nanos, Int.mul_comm]

theorem isBlank_digitChar {d : Nat} (small : d < 10) : isBlank (Nat.digitChar d) = false := by
  have digits : ∀ d : Fin 10, isBlank (Nat.digitChar d.val) = false := by decide
  exact digits ⟨d, small⟩

theorem getLast?_offset (o : Offset) : ∃ d, o.text.getLast? = some d ∧ isBlank d = false := by
  cases o with
  | capital => exact ⟨'Z', rfl, rfl⟩
  | small => exact ⟨'z', rfl, rfl⟩
  | signed sign hours minutes =>
    exact ⟨Nat.digitChar (minutes.val % 10), rfl, isBlank_digitChar (by omega)⟩

theorem solid_text (w : Spelling) :
    ∃ c d, w.text.head? = some c ∧ w.text.getLast? = some d ∧ isBlank c = false ∧
      isBlank d = false := by
  obtain ⟨d, last, solidLast⟩ := getLast?_offset w.offset
  have thousands : w.date.year.toNat / 100 / 10 < 10 := by
    have := w.year_le
    omega
  refine ⟨_, d, rfl, ?_, isBlank_digitChar thousands, solidLast⟩
  have shape : w.text = (dateText w.date ++ w.separator.char ::
      timeText w.hour w.minute w.second w.fraction) ++ w.offset.text := by
    simp [Spelling.text]
  rw [shape, List.getLast?_append, last]
  rfl

/-- Whether a text is a spelling with blanks around it. -/
def Spelling.IsIn (w : Spelling) (s : String) : Prop :=
  IsPadded w.text s.toList

theorem parse_of_isIn {w : Spelling} {s : String} (spelled : w.IsIn s) :
    parse s = .ok w.instant := by
  obtain ⟨c, d, first, last, solidFirst, solidLast⟩ := solid_text w
  have trimmed := trimBlanks_of_isPadded first last solidFirst solidLast spelled
  have read := read_eq_ok.mpr ⟨w, trimmed, rfl⟩
  rw [parse, read]

theorem exists_of_parse {s : String} {t : Instant} (h : parse s = .ok t) :
    ∃ w : Spelling, w.IsIn s ∧ w.instant = t := by
  unfold parse at h
  split at h
  next found =>
    cases h
    obtain ⟨w, trimmed, meant⟩ := read_eq_ok.mp found
    refine ⟨w, ?_, meant⟩
    rw [Spelling.IsIn, ← trimmed]
    exact isPadded_trimBlanks s.toList
  next => cases h

/-- What reading a text comes to. -/
structure ReadsAsSpelled (s : String) : Prop where
  /-- A spelling is read as the moment it means. -/
  reads : ∀ w : Spelling, w.IsIn s → parse s = .ok w.instant
  /-- Any other text is an error that hands it back as it is. -/
  refuses : (∀ w : Spelling, ¬w.IsIn s) → ∃ fault, parse s = .error ⟨s, fault⟩
  /-- A moment that is written at an offset is read back. -/
  reads_back : ∀ t o, (spellable : IsSpellable t o) → (Spelling.ofInstant t o spellable).IsIn s →
    parse s = .ok t
  /-- Another spelling of the same moment is read as the same. -/
  reads_alike : ∀ s' (w w' : Spelling), w.IsIn s → w'.IsIn s' → w.instant = w'.instant →
    parse s = parse s'

/-- Texts are read as they are spelled, with days counted one by one across months and years. At any
offset there is a spelling for each moment of the four-digit local years. -/
theorem readsAsSpelled :
    Date.CountsDays Date.dayNumber ∧
      (∀ t o, IsSpellable t o ↔ ∃ w : Spelling, w.offset = o ∧ w.instant = t) ∧
      ∀ s, ReadsAsSpelled s := by
  refine ⟨Date.countsDays_dayNumber, fun t o => ⟨fun spellable => ?_, ?_⟩, fun s => ?_⟩
  · exact ⟨Spelling.ofInstant t o spellable, rfl, Spelling.instant_ofInstant spellable⟩
  · rintro ⟨w, rfl, rfl⟩
    exact w.isSpellable_instant
  · refine ⟨fun w spelled => parse_of_isIn spelled, fun none => ?_, ?_, ?_⟩
    · unfold parse
      split
      next t found =>
        have read : parse s = .ok t := by rw [parse, found]
        obtain ⟨w, spelled, -⟩ := exists_of_parse read
        exact absurd spelled (none w)
      next fault _ => exact ⟨fault, rfl⟩
    · intro t o spellable spelled
      rw [parse_of_isIn spelled, Spelling.instant_ofInstant spellable]
    · intro s' w w' spelled spelled' same
      rw [parse_of_isIn spelled, parse_of_isIn spelled', same]

/-- A leap second with a fraction, half an hour behind universal time. -/
def leapSpelling : Spelling where
  date := ⟨2016, ⟨11, by decide⟩, 31⟩
  real := ⟨by decide, by decide⟩
  year_nonneg := by decide
  year_le := by decide
  separator := .small
  hour := ⟨23, by decide⟩
  minute := ⟨29, by decide⟩
  second := ⟨60, by decide⟩
  fraction := [⟨2, by decide⟩, ⟨5, by decide⟩]
  offset := .signed .minus ⟨0, by decide⟩ ⟨30, by decide⟩

theorem leapSpelling_read :
    leapSpelling.IsIn "\u00A02016-12-31t23:29:60.25\u221200:30\n" ∧
      parse "\u00A02016-12-31t23:29:60.25\u221200:30\n" = .ok ⟨1483228799, 1250000000⟩ := by
  have spelled : leapSpelling.IsIn "\u00A02016-12-31t23:29:60.25\u221200:30\n" :=
    ⟨['\u00A0'], ['\n'], by simp [isBlank], by simp [isBlank], by decide⟩
  exact ⟨spelled, (readsAsSpelled.2.2 _).reads leapSpelling spelled⟩

end IngestViewer.Timestamp
