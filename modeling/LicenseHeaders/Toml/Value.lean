import LicenseHeaders.Decimal.Double

/-!
# TOML values

A `Value` is what a key of a TOML document holds, and a `Table` is the list of its entries in
the order in which their keys first occur. `Table.within` changes the table that a path of keys
leads to and creates the tables on the way.
-/

set_option autoImplicit false
set_option relaxedAutoImplicit false

namespace LicenseHeaders.Toml

/-- What a key holds. -/
inductive Value where
  | text (content : String)
  | integer (number : Int)
  | float (number : Decimal.Double)
  | boolean (value : Bool)
  /-- A date, a time of day, or both. -/
  | moment
  | array (items : List Value)
  | table (entries : List (String × Value))
deriving Inhabited

/-- The entries of a table, in the order in which their keys first occur. -/
abbrev Table := List (String × Value)

/-- A sequence of keys that leads to a value. -/
abbrev Path := List String

namespace Value

/-- The text that a value is. -/
def text? : Value → Option String
  | text content => some content
  | _ => none

/-- The entries of a value that is a table. -/
def table? : Value → Option Table
  | table entries => some entries
  | _ => none

/-- The members of a value that is an array. -/
def array? : Value → Option (List Value)
  | array items => some items
  | _ => none

/-- The texts of a value that is an array of texts. -/
def texts? : Value → Option (List String)
  | array items => items.mapM text?
  | _ => none

/-- Whether a value has parts: then it cannot be extended from outside. -/
def isClosed : Value → Bool
  | array _ | table _ => true
  | _ => false

end Value

namespace Table

/-- What a key holds. -/
def get? (table : Table) (key : String) : Option Value :=
  (table.find? fun entry ↦ entry.1 == key).map (·.2)

/-- Whether a key is present. -/
def contains (table : Table) (key : String) : Bool :=
  table.any fun entry ↦ entry.1 == key

/-- The keys, in the order in which they first occur. -/
def keys (table : Table) : List String :=
  table.map (·.1)

/-- Lets a key hold a value: in its place if it is present, else at the end. -/
def set (key : String) (value : Value) : Table → Table
  | [] => [(key, value)]
  | entry :: rest =>
    if entry.1 == key then (key, value) :: rest else entry :: set key value rest

/-- Changes the table that a path leads to. Tables that are missing on the way are created, and
where `intoArrays` allows it an array on the way stands for its last member. There is no result
if the path leads through another value or if `change` has none. -/
def within (intoArrays : Bool) (change : Table → Option Table) : Path → Table → Option Table
  | [], table => change table
  | key :: path, table =>
    match get? table key with
    | none => (within intoArrays change path []).map fun nested ↦ set key (.table nested) table
    | some (.table nested) =>
      (within intoArrays change path nested).map fun nested ↦ set key (.table nested) table
    | some (.array items) =>
      match intoArrays, items.getLast? with
      | true, some (.table nested) =>
        (within intoArrays change path nested).map fun nested ↦
          set key (.array (items.dropLast ++ [.table nested])) table
      | _, _ => none
    | some _ => none

/-- Adds a key that must not be present. -/
def insertNew (key : String) (value : Value) (table : Table) : Option Table :=
  if contains table key then none else some (table ++ [(key, value)])

/-- Adds an empty table to the array that a key holds. A missing array is created. -/
def appendTable (key : String) (table : Table) : Option Table :=
  match get? table key with
  | none => some (table ++ [(key, .array [.table []])])
  | some (.array items) => some (set key (.array (items ++ [.table []])) table)
  | some _ => none

end Table

end LicenseHeaders.Toml
