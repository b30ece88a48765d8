/-!
# Variables

Besides its arguments a program is started with variables, each a name and a
value. Of two entries for one name the first counts.
-/
namespace InputBridge

/-- Variables and their values. -/
abbrev Environment := List (String × String)

/-- The value of a variable. -/
def Environment.get? (environment : Environment) (name : String) : Option String :=
  (environment.find? fun (known, _) => known == name).map Prod.snd

end InputBridge
