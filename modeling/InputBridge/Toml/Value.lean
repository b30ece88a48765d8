/-!
# Values of a TOML document

A document is a table: values under keys, each key once. Values may be arrays and
tables in turn. Floating-point numbers and dates are kept as they were written,
since no setting is of these types and all that matters about them is that they
are well formed.
-/
namespace InputBridge.Toml

/-- A value. -/
inductive Value where
  | string (text : String)
  | integer (value : Int)
  | float (literal : String)
  | boolean (value : Bool)
  | dateTime (literal : String)
  | array (items : List Value)
  | table (entries : List (String × Value))
deriving Repr, Inhabited

/-- The value under a key. -/
def lookup {α : Type} (key : String) (entries : List (String × α)) : Option α :=
  (entries.find? fun (known, _) => known == key).map Prod.snd

end InputBridge.Toml
