import NoKnowledge.Core.SignedRecords
import NoKnowledge.Foundation.JsonOrder
import NoKnowledge.Crypto.SymbolicSuite

/-!
# The forms of a record

A record reaches its readers as the octets or the text a relay stores, or as the
object a relay backend has parsed.  The readers look for an unsealed record only
in a text, so an unsealed one is lost as an object; on sealed records the forms agree,
as long as what is read from the box does not depend on the order of fields in it.
-/

namespace NoKnowledge

variable (suite : Suite)

namespace RecordForms

variable {suite} {data : Json} {isign idh : Bytes}

/-- A parsed object: its keys are distinct, its fields in the order they came in. -/
def IsDict (data : Json) : Prop := ∃ fields, data = .obj fields ∧ (fields.map Prod.fst).Nodup

/-- `box is not None` -/
def Sealed (data : Json) : Prop := data.getD "box" ≠ .null

/-- The text of an object spells it. -/
structure Spells (text : String) (data : Json) : Prop where
  parses : Json.parse text.toList = some data
  object : data.isObj = true

theorem IsDict.isObj (dict : IsDict data) : data.isObj = true := by
  obtain ⟨fields, rfl, -⟩ := dict
  rfl

end RecordForms

end NoKnowledge
