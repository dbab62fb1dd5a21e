import SqlDump.Adapter.Standard

/-!
# Standard adapters

No standard adapter claims a type of a program's own, so a value of such a type goes to the adapter
of the value under it.

Main statement: `ofRaw_eq_convert`.
-/

namespace SqlDump

open Client (Raw ValueType)

namespace Adapters

theorem standard_find?_derived (name : String) (base : ValueType) :
    standard.find? (.derived name base) = standard.find? base := rfl

/-- The standard adapters see through types of a program's own. -/
theorem standard_find?_plain (raw : Raw) :
    standard.find? raw.plain.type = standard.find? raw.type := by
  fun_induction Raw.plain raw with
  | case1 name base hypothesis => rw [hypothesis, Raw.type, standard_find?_derived]
  | case2 typeName name number => rw [Raw.type, Raw.type, standard_find?_derived]
  | case3 => rfl

end Adapters

namespace Value

/-- A value is stored by the adapter of the value under it. -/
theorem ofRaw_eq_convert {raw : Raw} {adapter : Adapter}
    (found : Adapters.standard.find? raw.plain.type = some adapter) (kind : Option Kind) :
    ofRaw kind raw = adapter.convert kind raw := by
  rw [Adapters.standard_find?_plain] at found
  cases raw with
  | nothing => cases found
  | stored => cases found
  | _ => simp only [ofRaw, Adapters.store, found]

end Value

end SqlDump
