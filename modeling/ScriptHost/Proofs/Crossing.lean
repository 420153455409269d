import ScriptHost.Native.Marshal
import Mathlib.Algebra.Ring.Int.Defs

/-!
What crosses between host and script comes out as it went in. The ranges of the
integer types are given here by width and sign, apart from the tables that the
conversions look their bounds up in; a host integer then crosses into a script
exactly up to the greatest script integer, and a script integer is read back as
exactly the types that hold it. A script value that is read as a host value
crosses back as itself.
-/

namespace ScriptHost

namespace IntType

/-- Whether the integers of a type have a sign. -/
def isSigned : IntType → Bool
  | .i8 | .i16 | .i32 | .i64 => true
  | .u8 | .u16 | .u32 | .u64 | .usize => false

/-- The width of an integer type in bits. -/
def bits : IntType → Nat
  | .i8 | .u8 => 8
  | .i16 | .u16 => 16
  | .i32 | .u32 => 32
  | .i64 | .u64 | .usize => 64

/-- Whether an integer of the type can have a value: one bit of a type with sign
is the sign. -/
def Holds (type : IntType) (value : Int) : Prop :=
  if type.isSigned then -2 ^ (type.bits - 1) ≤ value ∧ value < 2 ^ (type.bits - 1)
  else 0 ≤ value ∧ value < 2 ^ type.bits

/-- The tabulated bounds are those of the width and the sign. -/
theorem holds_iff (type : IntType) (value : Int) :
    type.Holds value ↔ type.least ≤ value ∧ value ≤ type.greatest := by
  cases type <;> simp [Holds, isSigned, bits, least, greatest] <;> omega

/-- No type goes below the least script integer. -/
theorem least_le_least (type : IntType) : IntType.i64.least ≤ type.least := by
  cases type <;> decide

end IntType

namespace NativeInt

/-- An integer is told by its type and its value. -/
theorem eq_of_type_value {a b : NativeInt} (htype : a.type = b.type) (hvalue : a.value = b.value) :
    a = b := by
  cases a
  cases b
  simp only at htype hvalue
  subst htype
  subst hvalue
  rfl

theorem holds (given : NativeInt) : given.type.Holds given.value :=
  (IntType.holds_iff _ _).mpr ⟨given.least_le, given.le_greatest⟩

theorem ofInt?_eq_some_iff {type : IntType} {value : Int} {result : NativeInt} :
    ofInt? type value = some result ↔ result.type = type ∧ result.value = value := by
  constructor
  · intro h
    unfold ofInt? at h
    split at h
    · split at h
      · cases h
        exact ⟨rfl, rfl⟩
      · cases h
    · cases h
  · rintro ⟨rfl, rfl⟩
    simp [ofInt?, result.least_le, result.le_greatest]

theorem ofInt?_eq_none_iff {type : IntType} {value : Int} :
    ofInt? type value = none ↔ ¬type.Holds value := by
  rw [IntType.holds_iff]
  unfold ofInt?
  split
  · split
    · simp [*]
    · simp [*]
  · simp [*]

end NativeInt

theorem scriptInt?_eq_some_iff {value : Int} {narrowed : Int64} :
    scriptInt? value = some narrowed ↔ narrowed.toInt = value := by
  constructor
  · intro h
    unfold scriptInt? at h
    split at h
    · next hrange =>
      cases h
      exact Int64.toInt_ofInt_of_le (by simpa using hrange.1) (by omega)
    · cases h
  · rintro rfl
    have hleast : -9223372036854775808 ≤ narrowed.toInt := Int64.le_toInt narrowed
    have hgreatest : narrowed.toInt < 9223372036854775808 := Int64.toInt_lt narrowed
    rw [scriptInt?, if_pos ⟨hleast, by omega⟩, Int64.ofInt_toInt]

theorem scriptInt?_eq_none_iff {value : Int} :
    scriptInt? value = none ↔ ¬IntType.i64.Holds value := by
  rw [IntType.holds_iff]
  simp [scriptInt?, IntType.least, IntType.greatest]

namespace NativeValue

variable (types : TypeTable) (given : NativeInt)

/-- A host integer crosses as the script integer of the same value. -/
theorem toScript_int_of_le (h : given.value ≤ IntType.i64.greatest) :
    ∃ narrowed : Int64, narrowed.toInt = given.value ∧
      (NativeValue.int given).toScript types = .ok (.int narrowed) := by
  have hholds : IntType.i64.Holds given.value :=
    (IntType.holds_iff _ _).mpr ⟨Int.le_trans given.type.least_le_least given.least_le, h⟩
  cases hnarrow : scriptInt? given.value with
  | none => exact absurd hholds (scriptInt?_eq_none_iff.mp hnarrow)
  | some narrowed =>
    exact ⟨narrowed, scriptInt?_eq_some_iff.mp hnarrow, by simp only [toScript, hnarrow]⟩

/-- A host integer above all script integers does not cross. -/
theorem toScript_int_of_gt (h : IntType.i64.greatest < given.value) :
    (NativeValue.int given).toScript types =
      .error (.outOfRange (toString given.value) "int") := by
  have hnarrow : scriptInt? given.value = none := by
    refine scriptInt?_eq_none_iff.mpr fun hholds => ?_
    have hle := ((IntType.holds_iff _ _).mp hholds).2
    omega
  simp only [toScript, hnarrow]

end NativeValue

namespace ScriptValue

/-- A script integer is read as a type that holds it with its value. -/
theorem toReturn_int_of_holds {raw : Int64} {target : IntType} (h : target.Holds raw.toInt) :
    ∃ back : NativeInt, back.type = target ∧ back.value = raw.toInt ∧
      (ScriptValue.int raw).toReturn (.int target) = .ok (.int back) := by
  cases hread : NativeInt.ofInt? target raw.toInt with
  | none => exact absurd h (NativeInt.ofInt?_eq_none_iff.mp hread)
  | some back =>
    obtain ⟨htype, hvalue⟩ := NativeInt.ofInt?_eq_some_iff.mp hread
    exact ⟨back, htype, hvalue, by simp only [toReturn, hread]⟩

/-- A script integer is not read as a type that does not hold it. -/
theorem toReturn_int_of_not_holds {raw : Int64} {target : IntType}
    (h : ¬target.Holds raw.toInt) :
    (ScriptValue.int raw).toReturn (.int target) =
      .error (.outOfRange (toString raw.toInt) target.name) := by
  have hread := NativeInt.ofInt?_eq_none_iff.mpr h
  simp only [toReturn, hread]

end ScriptValue

/-- Takes a host integer over into a script and reads it back as a type. -/
def NativeInt.cross (types : TypeTable) (given : NativeInt) (target : IntType) :
    Except MarshalError NativeValue := do
  let value ← (NativeValue.int given).toScript types
  value.toReturn (.int target)

/-- Integers cross exactly. Taking one over fails just above the greatest script
integer, with its decimal text; what was taken over is read back as a type
with the value it had if the type holds it, and is told not to fit otherwise.
So whatever is read back, under whichever type, has the value that was sent, and
an integer that was taken over is read back under its own type as itself. -/
theorem NativeInt.crosses_exactly (types : TypeTable) (given : NativeInt) (target : IntType) :
    (∀ err, (NativeValue.int given).toScript types = .error err ↔
      2 ^ 63 - 1 < given.value ∧ err = .outOfRange (toString given.value) "int") ∧
    (∀ back, given.cross types target = .ok back ↔
      given.value ≤ 2 ^ 63 - 1 ∧ target.Holds given.value ∧
        ∃ read : NativeInt, back = .int read ∧ read.type = target ∧ read.value = given.value) ∧
    (∀ err, given.cross types target = .error err ↔
      2 ^ 63 - 1 < given.value ∧ err = .outOfRange (toString given.value) "int" ∨
      given.value ≤ 2 ^ 63 - 1 ∧ ¬target.Holds given.value ∧
        err = .outOfRange (toString given.value) target.name) ∧
    (given.cross types given.type = .ok (.int given) ↔ given.value ≤ 2 ^ 63 - 1) := by
  have hbound : (2 : Int) ^ 63 - 1 = IntType.i64.greatest := by decide
  rw [hbound]
  by_cases hle : given.value ≤ IntType.i64.greatest
  · obtain ⟨narrowed, hnarrowed, hscript⟩ := NativeValue.toScript_int_of_le types given hle
    have hcross (target : IntType) :
        given.cross types target = (ScriptValue.int narrowed).toReturn (.int target) := by
      simp only [NativeInt.cross, hscript]
      rfl
    have hnot : ¬IntType.i64.greatest < given.value := by omega
    have hown : given.cross types given.type = .ok (.int given) := by
      obtain ⟨read, htype, hvalue, hread⟩ :=
        ScriptValue.toReturn_int_of_holds (hnarrowed ▸ given.holds)
      rw [hcross, hread, NativeInt.eq_of_type_value htype (hvalue.trans hnarrowed)]
    refine ⟨fun err => by simp [hscript, hnot], fun back => ?_, fun err => ?_, by simp [hown, hle]⟩
    · by_cases hholds : target.Holds narrowed.toInt
      · obtain ⟨read, htype, hvalue, hread⟩ := ScriptValue.toReturn_int_of_holds hholds
        rw [hcross, hread]
        constructor
        · intro h
          cases h
          exact ⟨hle, hnarrowed ▸ hholds, read, rfl, htype, hvalue.trans hnarrowed⟩
        · rintro ⟨-, -, other, rfl, hother, hsame⟩
          rw [NativeInt.eq_of_type_value (htype.trans hother.symm)
            ((hvalue.trans hnarrowed).trans hsame.symm)]
      · rw [hcross, ScriptValue.toReturn_int_of_not_holds hholds]
        simp [hnarrowed ▸ hholds]
    · by_cases hholds : target.Holds narrowed.toInt
      · obtain ⟨read, -, -, hread⟩ := ScriptValue.toReturn_int_of_holds hholds
        rw [hcross, hread]
        simp [hnot, hnarrowed ▸ hholds]
      · rw [hcross, ScriptValue.toReturn_int_of_not_holds hholds, hnarrowed]
        simp [hnot, hle, hnarrowed ▸ hholds, eq_comm]
  · have hgt : IntType.i64.greatest < given.value := by omega
    have hscript := NativeValue.toScript_int_of_gt types given hgt
    have hcross (target : IntType) : given.cross types target =
        .error (.outOfRange (toString given.value) "int") := by
      simp only [NativeInt.cross, hscript]
      rfl
    rw [hcross, hcross, hscript]
    simp [hle, hgt, eq_comm]

namespace ScriptValue

/-- A script value is the script form of the host value it is read as, whatever
types are registered. -/
theorem toScript_toNative (types : TypeTable) (value : ScriptValue) :
    value.toNative.toScript types = .ok value := by
  cases value with
  | int raw =>
    have hsame : scriptInt? (NativeInt.ofInt64 raw).value = some raw :=
      scriptInt?_eq_some_iff.mpr rfl
    simp only [toNative, NativeValue.toScript, hsame]
  | unit => rfl
  | bool value => rfl
  | float value => rfl
  | char value => rfl
  | string value => rfl
  | array items => rfl
  | map entries => rfl
  | function name => rfl
  | object ref => rfl

/-- The host value that a script value is read as holds the handles that the
script value holds, in their order. -/
theorem objects_toNative (value : ScriptValue) : value.toNative.objects = value.objects := by
  cases value <;> simp [toNative, NativeValue.objects, objects]

end ScriptValue

/-- Script values that were read as host values are taken over as themselves. -/
theorem scriptForms_toNative (types : TypeTable) (index : Nat) (values : List ScriptValue) :
    scriptForms types index (values.map ScriptValue.toNative) = .ok values := by
  induction values generalizing index with
  | nil => rfl
  | cons value rest ih =>
    simp only [List.map_cons, scriptForms, ScriptValue.toScript_toNative, ih]

end ScriptHost
