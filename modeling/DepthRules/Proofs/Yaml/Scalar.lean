import DepthRules.Proofs.Yaml.Scan
import DepthRules.Yaml.Scalar

/-!
# Faults of scalars

A scalar of a type that has to be converted may be a misfit: no value of the type it is given. The
fault of a misfit is never that of a malformed document (`Misfit.isScalar`), so that the two can be
told apart. Scalars of other types are malformed, if they are no values.
-/

namespace DepthRules.Yaml

open Text Value

/-- Of a fault: it is that of a scalar, not that of a malformed document. -/
def Fault.IsScalar : Fault → Prop
  | .malformed | .unfinished | .encoding _ => False
  | _ => True

/-- Types of scalars whose texts need not be values of them. -/
def Tag.IsConverted : Tag → Prop
  | .bool | .int | .float | .timestamp => True
  | _ => False

theorem meets_binaryInteger (base : Nat) (cs : List Char) :
    Meets (binaryInteger base cs) Fault.IsScalar fun _ => True := by
  unfold binaryInteger
  dsimp only
  split
  · exact .ok trivial
  · exact .error (by trivial)

theorem meets_decimalInteger (cs : List Char) :
    Meets (decimalInteger cs) Fault.IsScalar fun _ => True := by
  unfold decimalInteger
  split
  · exact .ok trivial
  · exact .guard (fun _ => by trivial) fun _ => .error (by trivial)

theorem meets_unsignedInteger (cs : List Char) :
    Meets (unsignedInteger cs) Fault.IsScalar fun _ => True := by
  unfold unsignedInteger
  split
  · exact .error (by trivial)
  · exact .ok trivial
  · exact meets_binaryInteger 2 _
  · exact meets_binaryInteger 16 _
  · exact meets_binaryInteger 8 _
  · exact .ite (fun _ => (Meets.mapM meets_decimalInteger _).bind fun _ _ => .ok trivial) fun _ =>
      meets_decimalInteger _

theorem meets_integer (cs : List Char) : Meets (integer cs) Fault.IsScalar fun _ => True :=
  (meets_unsignedInteger _).bind fun _ _ => .ok trivial

theorem meets_decimalReal (cs : List Char) :
    Meets (decimalReal cs) Fault.IsScalar fun _ => True := by
  unfold decimalReal
  split
  · exact .ok trivial
  · exact .error (by trivial)

theorem meets_addPlaces (base : Nat) (sum : Decimal.Double) (places : List Decimal.Double) :
    Meets (addPlaces base sum places) Fault.IsScalar fun _ => True := by
  fun_induction addPlaces base sum places with
  | case1 => exact .ok trivial
  | case2 => exact .error (by trivial)
  | case3 _ _ _ _ _ _ ih => exact ih

theorem meets_unsignedReal (cs : List Char) :
    Meets (unsignedReal cs) Fault.IsScalar fun _ => True := by
  unfold unsignedReal
  split
  · exact .ok trivial
  · exact .ok trivial
  · exact .ite (fun _ => (Meets.mapM meets_decimalReal _).bind fun _ _ => meets_addPlaces _ _ _)
      fun _ => meets_decimalReal _

theorem meets_real (cs : List Char) : Meets (real cs) Fault.IsScalar fun _ => True := by
  unfold real
  dsimp only
  split
  · exact .error (by trivial)
  · exact (meets_unsignedReal _).bind fun _ _ => .ok trivial

theorem meets_truth (content : Content) : Meets (truth content) Fault.IsScalar fun _ => True := by
  unfold truth
  split
  · exact .error (by trivial)
  · dsimp only
    split
    · exact .ok trivial
    · exact .error (by trivial)

theorem meets_calendar {α : Type} (x : Except CalendarError α) :
    Meets (calendar x) Fault.IsScalar fun _ => True := by
  cases x with
  | ok a => exact .ok trivial
  | error cause => exact .error (by trivial)

theorem meets_toValue (parts : TimestampParts) :
    Meets parts.toValue Fault.IsScalar fun _ => True := by
  unfold TimestampParts.toValue
  split
  · exact (meets_calendar _).bind fun _ _ => .ok trivial
  · rename_i hour minute second microsecond offset htime
    have hclock (offset : Option Int) : Meets (do
        let date ← calendar (Date.make parts.year parts.month parts.day)
        let clock ← calendar (Clock.make hour minute second microsecond)
        return Value.moment ⟨date, clock, offset⟩) Fault.IsScalar fun _ => True :=
      (meets_calendar _).bind fun _ _ => (meets_calendar _).bind fun _ _ => .ok trivial
    cases offset with
    | none => exact hclock none
    | some minutes =>
        have hoffset : Meets (some <$> calendar (Offset.make (60 * minutes))) Fault.IsScalar
            fun _ => True := (meets_calendar _).map fun _ _ => trivial
        exact hoffset.bind fun offset _ => hclock offset

theorem meets_timestamp (content : Content) :
    Meets (timestamp content) Fault.IsScalar fun _ => True := by
  unfold timestamp
  split
  · exact .error (by trivial)
  · split
    · exact meets_toValue _
    · exact .error (by trivial)

theorem meets_binary (content : Content) :
    Meets (binary content) (· = .malformed) fun _ => True := by
  unfold binary
  split
  · exact .error rfl
  · refine .ite (fun _ => ?_) fun _ => .error rfl
    split
    · exact .ok trivial
    · exact .error rfl

/-- A text that cannot be converted fails with the fault of a scalar. -/
theorem meets_converted {tag : Tag} (htag : tag.IsConverted) (content : Content) :
    Meets (valueOfText tag content) Fault.IsScalar fun _ => True := by
  cases tag with
  | bool => exact (meets_truth content).map fun _ _ => trivial
  | int =>
      cases content with
      | text chars => exact (meets_integer chars).map fun _ _ => trivial
      | codes => exact .error (by trivial)
  | float =>
      cases content with
      | text chars => exact (meets_real chars).map fun _ _ => trivial
      | codes => exact .error (by trivial)
  | timestamp => exact meets_timestamp content
  | _ => exact absurd htag id  -- types that are not converted

theorem meets_unconverted {tag : Tag} (htag : ¬ tag.IsConverted) (content : Content) :
    Meets (valueOfText tag content) (· = .malformed) fun _ => True := by
  cases tag with
  | bool => exact absurd trivial htag
  | int => exact absurd trivial htag
  | float => exact absurd trivial htag
  | timestamp => exact absurd trivial htag
  | null => exact .ok trivial
  | str =>
      cases content with
      | text => exact .ok trivial
      | codes => exact .ok trivial
  | binary => exact (meets_binary content).map fun _ _ => trivial
  | merge => exact .error rfl
  | value => exact .error rfl
  | seq => exact .error rfl
  | map => exact .error rfl
  | set => exact .error rfl
  | omap => exact .error rfl
  | pairs => exact .error rfl
  | unknown => exact .error rfl

/-! ## Misfits -/

/-- The faults of a scalar that is no value of its type, of a code point that there is not, and of a
number of a version that is too long. -/
inductive Misfit : Fault → Prop where
  | codePoint {code : Nat} (h : codePointLimit ≤ code) : Misfit (.codePoint code)
  | longVersion {digits : Nat} (h : maxDigits < digits) : Misfit (.longInteger digits)
  | text {tag : Tag} {content : Content} {fault : Fault} (htag : tag.IsConverted)
      (h : valueOfText tag content = .error fault) : Misfit fault
  | momentOfMapping : Misfit .momentOfMapping

/-- The fault of a misfit is not that of a malformed document. -/
theorem Misfit.isScalar {fault : Fault} (h : Misfit fault) : fault.IsScalar := by
  cases h with
  | codePoint => trivial
  | longVersion => trivial
  | text htag hfault => exact (meets_converted htag _).of_error hfault
  | momentOfMapping => trivial

end DepthRules.Yaml
