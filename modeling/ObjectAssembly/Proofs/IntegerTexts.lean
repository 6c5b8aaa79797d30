import ObjectAssembly.Object
import Mathlib.Algebra.Ring.Int.Defs

/-!
# Integer texts — which texts an integer field takes, and what it then holds

`Writes` says which number a text writes: digits, behind a sign if there is one, and a minus sign only
in signed formats.  The reader takes a text iff it writes a number of the format.  It checks the range
after each digit; since further digits only lead away from zero, a text whose first digits have left the
range writes no number of the format either.
-/

namespace ObjectAssembly

namespace Number

/-! ### Numbers and texts -/

/-- The text has digits, at least one, and nothing else. -/
def IsDigits (cs : List Char) : Prop := cs ≠ [] ∧ ∀ c ∈ cs, c.isDigit = true

section Digits

variable {cs : List Char} {c : Char} {k : Nat}

instance : Decidable (IsDigits cs) :=
  decidable_of_iff (cs ≠ [] ∧ cs.all Char.isDigit = true) (by simp [IsDigits])

theorem isDigits_cons : IsDigits (c :: cs) ↔ c.isDigit = true ∧ ∀ c ∈ cs, c.isDigit = true := by
  simp [IsDigits]

theorem digit?_of_isDigit (h : c.isDigit = true) : digit? c = some (c.toNat - '0'.toNat) := if_pos h

theorem digit?_of_not_isDigit (h : ¬ c.isDigit = true) : digit? c = none := if_neg h

theorem le_ofDigitChars (cs : List Char) (k : Nat) : k ≤ Nat.ofDigitChars 10 cs k := by
  have hpos : 1 ≤ 10 ^ cs.length := Nat.one_le_pow _ _ (by decide)
  have hle : 1 * k ≤ 10 ^ cs.length * k := Nat.mul_le_mul_right k hpos
  rw [Nat.ofDigitChars_eq_ofDigitChars_zero]
  omega

theorem isDigits_toDigits (k : Nat) : IsDigits (Nat.toDigits 10 k) :=
  ⟨Nat.toDigits_ne_nil, fun _ => Nat.isDigit_of_mem_toDigits (by decide) (by decide)⟩

theorem toList_toString_int (n : Int) : (toString n).toList =
    if 0 ≤ n then Nat.toDigits 10 n.toNat else '-' :: Nat.toDigits 10 (-n).toNat := by
  rw [Int.toString_eq_repr, Int.repr_eq_if]
  split <;> simp [Nat.toList_repr]

end Digits

namespace IntFormat

variable {f : IntFormat} {cs : List Char} {n : Int} {negative : Bool} {k d : Nat} {c : Char}

/-- The numbers of a format; those of a signed format are as many on either side of zero, zero taken with
the positive ones. -/
def InRange (f : IntFormat) (n : Int) : Prop :=
  if f.signed then -2 ^ (f.bits - 1) ≤ n ∧ n < 2 ^ (f.bits - 1) else 0 ≤ n ∧ n < 2 ^ f.bits

instance : Decidable (f.InRange n) :=
  inferInstanceAs (Decidable
    (if f.signed then -2 ^ (f.bits - 1) ≤ n ∧ n < 2 ^ (f.bits - 1) else 0 ≤ n ∧ n < 2 ^ f.bits))

/-- The number that a text writes, leading zeros or not. -/
inductive Writes (f : IntFormat) : List Char → Int → Prop
  | plain {cs : List Char} : IsDigits cs → Writes f cs (Nat.ofDigitChars 10 cs 0)
  | plus {cs : List Char} : IsDigits cs → Writes f ('+' :: cs) (Nat.ofDigitChars 10 cs 0)
  | minus {cs : List Char} : f.signed = true → IsDigits cs →
      Writes f ('-' :: cs) (-Nat.ofDigitChars 10 cs 0)

theorem inRange_iff : f.InRange n ↔ f.least ≤ n ∧ n ≤ f.greatest := by
  have hpatterns : ∀ bits, ((patterns bits : Nat) : Int) = 2 ^ bits := fun bits => by
    simp [patterns]
  unfold InRange least greatest
  cases f.signed <;> simp only [hpatterns] <;> grind

example : [i8, i16, i32, i64, u8, u16, u32, u64].map (fun f => (f.least, f.greatest)) =
    [(-128, 127), (-32768, 32767), (-2147483648, 2147483647),
      (-9223372036854775808, 9223372036854775807),
      (0, 255), (0, 65535), (0, 4294967295), (0, 18446744073709551615)] := by decide

/-- The number that lies so far from zero, on the side that `negative` tells. -/
def away (negative : Bool) (k : Nat) : Int := if negative then -k else k

theorem InRange.zero (f : IntFormat) : f.InRange 0 := by
  have hbelow : (0 : Int) < 2 ^ (f.bits - 1) := Int.pow_pos (by decide)
  have hbits : (0 : Int) < 2 ^ f.bits := Int.pow_pos (by decide)
  unfold InRange
  split <;> omega

/-- What lies between zero and a number of the format is one too. -/
theorem InRange.of_le {m : Nat} (h : f.InRange (away negative m)) (hk : k ≤ m) :
    f.InRange (away negative k) := by
  have hzero := InRange.zero f
  unfold InRange away at *
  cases negative <;> split at h <;> simp_all <;> omega

/-! ### Reading digits -/

/-- One more digit leads away from zero, and the range is checked behind it. -/
theorem accumulate_cons (hc : c.isDigit = true) :
    f.accumulate negative (away negative k) (c :: cs) =
      if f.InRange (away negative (10 * k + (c.toNat - '0'.toNat))) then
        f.accumulate negative (away negative (10 * k + (c.toNat - '0'.toNat))) cs
      else .error (if negative then .tooSmall else .tooLarge) := by
  rw [accumulate, digit?_of_isDigit hc]
  generalize c.toNat - '0'.toNat = d
  have hnext : (if negative then away negative k * 10 - d else away negative k * 10 + d) =
      away negative (10 * k + d) := by
    unfold away
    cases negative <;> simp <;> omega
  have hzero := inRange_iff.mp (InRange.zero f)
  dsimp only
  rw [hnext]
  by_cases hlow : away negative (10 * k + d) < f.least
  · have hside : negative = true := by
      cases negative
      · simp only [away, Bool.false_eq_true, if_false] at hlow
        omega
      · rfl
    have hout : ¬ f.InRange (away negative (10 * k + d)) := by
      rw [inRange_iff]
      omega
    rw [if_pos hlow, if_neg hout, if_pos hside]
  · rw [if_neg hlow]
    by_cases hhigh : f.greatest < away negative (10 * k + d)
    · have hside : ¬ negative = true := by
        rintro rfl
        simp only [away, if_true] at hhigh
        omega
      have hout : ¬ f.InRange (away negative (10 * k + d)) := by
        rw [inRange_iff]
        omega
      rw [if_pos hhigh, if_neg hout, if_neg hside]
    · have hin : f.InRange (away negative (10 * k + d)) := by
        rw [inRange_iff]
        omega
      rw [if_neg hhigh, if_pos hin]

/-- Digits are read iff their number lies in the range. -/
theorem accumulate_eq_ok_iff (hk : f.InRange (away negative k)) :
    f.accumulate negative (away negative k) cs = .ok n ↔
      (∀ c ∈ cs, c.isDigit = true) ∧ n = away negative (Nat.ofDigitChars 10 cs k) ∧ f.InRange n := by
  induction cs generalizing k with
  | nil =>
    rw [accumulate, Nat.ofDigitChars_nil, Except.ok.injEq]
    constructor
    · rintro rfl
      exact ⟨by simp, rfl, hk⟩
    · rintro ⟨-, rfl, -⟩
      rfl
  | cons c cs ih =>
    rw [List.forall_mem_cons, Nat.ofDigitChars_cons]
    by_cases hc : c.isDigit = true
    · rw [accumulate_cons hc]
      by_cases hnext : f.InRange (away negative (10 * k + (c.toNat - '0'.toNat)))
      · rw [if_pos hnext, ih hnext, and_iff_right hc]
      · -- the number has left the range, and further digits do not lead back
        rw [if_neg hnext]
        refine iff_of_false (by simp) ?_
        rintro ⟨-, rfl, hrange⟩
        exact hnext (hrange.of_le (le_ofDigitChars cs _))
    · rw [accumulate, digit?_of_not_isDigit hc]
      simp [hc]

theorem digits_eq_ok_iff :
    f.digits negative cs = .ok n ↔
      IsDigits cs ∧ n = away negative (Nat.ofDigitChars 10 cs 0) ∧ f.InRange n := by
  have hzero : f.InRange (away negative 0) := by
    cases negative <;> exact InRange.zero f
  cases cs with
  | nil => simp [digits, IsDigits]
  | cons c cs =>
    have hstart : f.digits negative (c :: cs) = f.accumulate negative (away negative 0) (c :: cs) := by
      cases negative <;> rfl
    rw [hstart, accumulate_eq_ok_iff hzero, IsDigits, and_iff_right (List.cons_ne_nil c cs)]

/-- A text is read iff it writes a number of the format. -/
theorem parseChars_eq_ok_iff : f.parseChars cs = .ok n ↔ f.Writes cs n ∧ f.InRange n := by
  have hunsigned : ∀ cs, f.digits false cs = .ok n ↔
      IsDigits cs ∧ n = Nat.ofDigitChars 10 cs 0 ∧ f.InRange n := fun cs => digits_eq_ok_iff
  constructor
  · intro h
    unfold parseChars at h
    split at h
    · cases h
    · obtain ⟨hdigits, rfl, hrange⟩ := (hunsigned _).mp h
      exact ⟨.plus hdigits, hrange⟩
    · split at h
      · obtain ⟨hdigits, rfl, hrange⟩ := digits_eq_ok_iff.mp h
        exact ⟨.minus ‹_› hdigits, hrange⟩
      · cases h
    · obtain ⟨hdigits, rfl, hrange⟩ := (hunsigned _).mp h
      exact ⟨.plain hdigits, hrange⟩
  · rintro ⟨hwrites, hrange⟩
    cases hwrites with
    | plus hdigits => exact (hunsigned _).mpr ⟨hdigits, rfl, hrange⟩
    | @minus cs hsigned hdigits =>
      have hminus : f.parseChars ('-' :: cs) = f.digits true cs := if_pos hsigned
      rw [hminus]
      exact digits_eq_ok_iff.mpr ⟨hdigits, rfl, hrange⟩
    | @plain cs hdigits =>
      have hplain : f.parseChars cs = f.digits false cs := by
        unfold parseChars
        -- a sign is no digit
        split
        · exact absurd rfl hdigits.1
        · exact absurd (isDigits_cons.mp hdigits).1 (by decide)
        · exact absurd (isDigits_cons.mp hdigits).1 (by decide)
        · rfl
      rw [hplain]
      exact (hunsigned cs).mpr ⟨hdigits, rfl, hrange⟩

/-! ### Decimal texts -/

/-- A number of the format is written by its decimal text. -/
theorem writes_toString (h : f.InRange n) : f.Writes (toString n).toList n := by
  have hvalue : ∀ k, Nat.ofDigitChars 10 (Nat.toDigits 10 k) 0 = k := fun k =>
    Nat.ofDigitChars_toDigits (by decide) (by decide)
  rw [toList_toString_int]
  by_cases hn : 0 ≤ n
  · obtain ⟨k, rfl⟩ := Int.eq_ofNat_of_zero_le hn
    have hplain := Writes.plain (f := f) (isDigits_toDigits k)
    rw [hvalue] at hplain
    rwa [if_pos hn, Int.toNat_natCast]
  · obtain ⟨k, rfl⟩ : ∃ k : Nat, n = -k := ⟨(-n).toNat, by omega⟩
    have hsigned : f.signed = true := by
      unfold InRange at h
      split at h
      · assumption
      · omega
    have hminus := Writes.minus hsigned (isDigits_toDigits k)
    rw [hvalue] at hminus
    rwa [if_neg hn, Int.neg_neg, Int.toNat_natCast]

end IntFormat

end Number

/-! ### Integer fields -/

section Fields

open Number

variable {f : IntFormat} {arity : Arity} {raw ident : String} {v w : FieldValue} {fields : Record}
  {n : Int} {e : ParseError}

theorem parse_int_eq_ok_iff {x : Scalar} :
    (ScalarType.int f).parse raw = .ok x ↔
      ∃ n, f.Writes raw.toList n ∧ f.InRange n ∧ x = .int n := by
  have hparse : ∀ n, f.parse raw = .ok n ↔ f.Writes raw.toList n ∧ f.InRange n := fun n =>
    IntFormat.parseChars_eq_ok_iff
  rw [ScalarType.parse]
  cases h : f.parse raw with
  | error e =>
    refine iff_of_false (by simp) ?_
    rintro ⟨n, hwrites, hrange, -⟩
    rw [(hparse n).mpr ⟨hwrites, hrange⟩] at h
    cases h
  | ok m =>
    obtain ⟨hwrites, hrange⟩ := (hparse m).mp h
    constructor
    · intro hx
      cases hx
      exact ⟨m, hwrites, hrange, rfl⟩
    · rintro ⟨n, hwrites', hrange', rfl⟩
      have hn := (hparse n).mpr ⟨hwrites', hrange'⟩
      rw [h, Except.ok.injEq] at hn
      rw [hn]

theorem apply_int_eq_ok_iff :
    (⟨arity, .int f⟩ : FieldType).apply raw v = .ok w ↔
      ∃ n, f.Writes raw.toList n ∧ f.InRange n ∧ w = v.assign (.int n) := by
  rw [FieldType.apply]
  constructor
  · intro h
    cases hx : (ScalarType.int f).parse raw with
    | error e =>
      rw [hx] at h
      cases h
    | ok x =>
      rw [hx] at h
      cases h
      obtain ⟨n, hwrites, hrange, rfl⟩ := parse_int_eq_ok_iff.mp hx
      exact ⟨n, hwrites, hrange, rfl⟩
  · rintro ⟨n, hwrites, hrange, rfl⟩
    rw [parse_int_eq_ok_iff.mpr ⟨n, hwrites, hrange, rfl⟩]
    rfl

theorem FieldType.setter_of_apply_ok {t : FieldType} (hv : fields.get? ident = some v)
    (h : t.apply raw v = .ok w) : t.setter ident fields raw = ⟨fields.set ident w, none⟩ := by
  rw [FieldType.setter, hv]
  simp only [h]

theorem FieldType.setter_of_apply_error {t : FieldType} (hv : fields.get? ident = some v)
    (h : t.apply raw v = .error e) : t.setter ident fields raw = ⟨fields, some e.message⟩ := by
  rw [FieldType.setter, hv]
  simp only [h]

/-- **Integer fields never wrap.**  A field of an integer format, also an optional one or a list, takes a
text iff it writes a number of the format, and then holds exactly that number.  It refuses any other text
with a reason and keeps what it held.  The decimal text of every number of the format stores that
number. -/
theorem integer_fields_exact (f : IntFormat) (arity : Arity) (ident raw : String) (fields : Record)
    (v : FieldValue) (hv : fields.get? ident = some v) :
    let t : FieldType := ⟨arity, .int f⟩
    (∀ w, t.apply raw v = .ok w ↔
      ∃ n, f.Writes raw.toList n ∧ f.InRange n ∧ w = v.assign (.int n)) ∧
    (∀ n, f.Writes raw.toList n → f.InRange n →
      t.setter ident fields raw = ⟨fields.set ident (v.assign (.int n)), none⟩) ∧
    ((¬ ∃ n, f.Writes raw.toList n ∧ f.InRange n) →
      ∃ e, t.apply raw v = .error e ∧ t.setter ident fields raw = ⟨fields, some e.message⟩) ∧
    ∀ n, f.InRange n →
      t.setter ident fields (toString n) = ⟨fields.set ident (v.assign (.int n)), none⟩ := by
  intro t
  have hstores : ∀ raw n, f.Writes raw.toList n → f.InRange n →
      t.setter ident fields raw = ⟨fields.set ident (v.assign (.int n)), none⟩ := by
    intro raw n hwrites hrange
    exact FieldType.setter_of_apply_ok hv (apply_int_eq_ok_iff.mpr ⟨n, hwrites, hrange, rfl⟩)
  refine ⟨fun w => apply_int_eq_ok_iff, hstores raw, fun hnone => ?_, fun n hrange => ?_⟩
  · cases h : t.apply raw v with
    | ok w =>
      obtain ⟨n, hwrites, hrange, -⟩ := apply_int_eq_ok_iff.mp h
      exact absurd ⟨n, hwrites, hrange⟩ hnone
    | error e => exact ⟨e, rfl, FieldType.setter_of_apply_error hv h⟩
  · exact hstores _ n (IntFormat.writes_toString hrange) hrange

end Fields

section Sample

open Number

/-- A record with a level that holds five. -/
def levelRecord : Record := [("name", .single (.text "gauge")), ("level", .single (.int 5))]

theorem integer_fields_exact_level :
    levelRecord.get? "level" = some (.single (.int 5)) ∧
      (FieldType.mk .single (.int .i8)).setter "level" levelRecord "-00128" =
        ⟨levelRecord.set "level" (.single (.int (-128))), none⟩ ∧
      (FieldType.mk .single (.int .i8)).setter "level" levelRecord (toString (-128 : Int)) =
        ⟨levelRecord.set "level" (.single (.int (-128))), none⟩ ∧
      (FieldType.mk .single (.int .i8)).setter "level" levelRecord "128" =
        ⟨levelRecord, some "number too large to fit in target type"⟩ := by
  have hv : levelRecord.get? "level" = some (.single (.int 5)) := by decide
  have hlow : IntFormat.i8.InRange (-128) := by decide
  obtain ⟨-, hstored, -, hdecimal⟩ :=
    integer_fields_exact .i8 .single "level" "-00128" levelRecord _ hv
  have hdigits : IsDigits ['0', '0', '1', '2', '8'] := by decide
  have hwrites : IntFormat.i8.Writes "-00128".toList (-128) := .minus rfl hdigits
  exact ⟨hv, hstored _ hwrites hlow, hdecimal _ hlow, by decide⟩

end Sample

end ObjectAssembly
