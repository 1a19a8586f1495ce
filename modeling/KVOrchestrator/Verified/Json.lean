import KVOrchestrator.Verified.Builtins
import KVOrchestrator.Verified.OrdDict

/-!
# JSON documents and the Python values they stand for

`json.dump` writes the value built from `None`, truth values, numbers, strings,
lists and string-keyed dictionaries as a text, and `json.load` reads the text
back.  A document is that value, as a tree.  An object is the list of its
entries in the order in which they are written; the keys of a `dict` are
distinct, and `WellFormed` says so of every object of the tree.

Texts are a parameter: an instance of `JsonText` is a type of texts whose
`load` inverts its `dump` on well-formed documents.
-/

namespace KVOrchestrator.Verified

inductive Json where
  | null
  | bool (value : Bool)
  | int (value : Int)
  | float (value : ℚ)
  | str (value : String)
  | arr (items : List Json)
  | obj (entries : List (String × Json))

namespace Json

/-- No object of the document has two entries with one key. -/
inductive WellFormed : Json → Prop where
  | null : WellFormed .null
  | bool (value : Bool) : WellFormed (.bool value)
  | int (value : Int) : WellFormed (.int value)
  | float (value : ℚ) : WellFormed (.float value)
  | str (value : String) : WellFormed (.str value)
  | arr {items : List Json} (h : ∀ v ∈ items, WellFormed v) : WellFormed (.arr items)
  | obj {entries : List (String × Json)} (hkeys : (entries.map Prod.fst).Nodup)
      (hvalues : ∀ e ∈ entries, WellFormed e.2) : WellFormed (.obj entries)

/-- A dictionary as a document. -/
def ofDict (d : OrdDict String Json) : Json := .obj d.entries

theorem wellFormed_ofDict {d : OrdDict String Json} (h : ∀ e ∈ d.entries, e.2.WellFormed) :
    (ofDict d).WellFormed :=
  .obj d.nodup h

theorem wellFormed_floats (xs : List ℚ) : (arr (xs.map .float)).WellFormed := by
  refine .arr (fun v hv => ?_)
  obtain ⟨x, _, rfl⟩ := List.mem_map.mp hv
  exact .float x

/-! ## What a document is used as

A use that the value's type does not have raises. -/

def typeError {α : Type*} : Except PyError α := .error (.other "TypeError")

def asStr : Json → Except PyError String
  | .str value => .ok value
  | _ => typeError

def asInt : Json → Except PyError Int
  | .int value => .ok value
  | _ => typeError

/-- An `int` is taken for the `float` it equals. -/
def asFloat : Json → Except PyError ℚ
  | .float value => .ok value
  | .int value => .ok value
  | _ => typeError

def asFloats : Json → Except PyError (List ℚ)
  | .arr items => items.mapM asFloat
  | _ => typeError

def asDict : Json → Except PyError (OrdDict String Json)
  | .obj entries => .ok (OrdDict.ofEntries entries)
  | _ => typeError

/-- `value.items()` -/
def items : Json → Except PyError (OrdDict String Json)
  | .obj entries => .ok (OrdDict.ofEntries entries)
  | _ => .error (.attributeError "items")

/-- `for x in value`: a dictionary gives its keys, a string its characters. -/
def iter : Json → Except PyError (List Json)
  | .arr items => .ok items
  | .obj entries => .ok ((OrdDict.ofEntries entries).keys.map .str)
  | .str value => .ok (value.toList.map (fun c => .str c.toString))
  | _ => typeError

@[simp] theorem asStr_str (value : String) : asStr (.str value) = .ok value := rfl

@[simp] theorem asInt_int (value : Int) : asInt (.int value) = .ok value := rfl

@[simp] theorem asFloat_float (value : ℚ) : asFloat (.float value) = .ok value := rfl

@[simp] theorem iter_arr (items : List Json) : iter (.arr items) = .ok items := rfl

@[simp] theorem asFloats_floats (xs : List ℚ) : asFloats (.arr (xs.map .float)) = .ok xs := by
  rw [asFloats]
  exact mapM_map_ok (fun x _ => asFloat_float x)

@[simp] theorem asDict_ofDict (d : OrdDict String Json) : asDict (ofDict d) = .ok d :=
  congrArg Except.ok d.ofEntries_entries

@[simp] theorem items_ofDict (d : OrdDict String Json) : items (ofDict d) = .ok d :=
  congrArg Except.ok d.ofEntries_entries

end Json

/-- A type of texts: reading a text back gives the document it was written
from. -/
class JsonText (τ : Type*) where
  dump : Json → τ
  load : τ → Except PyError Json
  load_dump : ∀ v : Json, v.WellFormed → load (dump v) = .ok v

/-- The documents themselves, as their own texts. -/
instance : JsonText Json where
  dump v := v
  load v := .ok v
  load_dump _ _ := rfl

end KVOrchestrator.Verified
