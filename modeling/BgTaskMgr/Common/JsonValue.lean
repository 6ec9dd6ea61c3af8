import BgTaskMgr.Common.ErrCode
import BgTaskMgr.Lib.Json
import BgTaskMgr.Lib.NumberText

/-!
# JSON of the record files

`CommonUtils::CheckJsonValue` and the conversions by which the records read the members of a
JSON object, after the test for their type.
-/

set_option autoImplicit false

namespace BgTaskMgr

def IsInt32 (x : Int) : Prop := -2 ^ 31 ≤ x ∧ x < 2 ^ 31

def IsUInt32 (n : Nat) : Prop := n < 2 ^ 32

instance : DecidablePred IsInt32 := fun _ => inferInstanceAs (Decidable (_ ∧ _))

instance : DecidablePred IsUInt32 := fun _ => inferInstanceAs (Decidable (_ < _))

theorem toInt32_of_isInt32 {x : Int} (range : IsInt32 x) : toInt32 x = x :=
  Int.bmod_eq_of_le (by have := range.1; omega) (by have := range.2; omega)

def getInt32 (value : Json) : Int := toInt32 value.toInt

def getUInt32 (value : Json) : Nat := (value.toInt % 2 ^ 32).toNat

theorem getInt32_integer {x : Int} (range : IsInt32 x) : getInt32 (.integer x) = x :=
  toInt32_of_isInt32 range

theorem getUInt32_integer {n : Nat} (range : IsUInt32 n) : getUInt32 (.integer n) = n := by
  have small : (n : Int) % 2 ^ 32 = n := Int.emod_eq_of_lt (by omega) (by exact_mod_cast range)
  rw [getUInt32, Json.toInt, small, Int.toNat_natCast]

def checkJsonValue (value : Json) (params : List String) : Bool := params.all value.contains

/-- What is used of `OHOS::SplitStr`: a text of digits and commas is cut at the commas, and
empty tokens are dropped. -/
def SplitsAtCommas (splitStr : String → String → List String) : Prop :=
  ∀ text : String, (∀ c ∈ text.toList, c = ',' ∨ c.isDigit = true) →
    splitStr text "," = NumberText.commaParts text

end BgTaskMgr
