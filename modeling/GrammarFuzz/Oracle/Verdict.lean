import GrammarFuzz.Json.Basic

/-!
# Verdicts

An oracle looks at a program and says whether it exposes a fault.  A failing verdict may come
with a message.
-/

namespace GrammarFuzz

/-- What an oracle says about a program. -/
structure Verdict where
  failed : Bool
  message : Option String
  deriving DecidableEq, Repr

namespace Verdict

/-- The program is fine. -/
def passed : Verdict := ⟨false, none⟩

/-- The program exposes a fault. -/
def failure (message : String) : Verdict := ⟨true, some message⟩

/-- A verdict as messages show it. -/
def shown (verdict : Verdict) : String :=
  if verdict.failed then
    "OracleVerdict(failed, " ++ ((verdict.message.map Text.quoted).getD "None") ++ ")"
  else "OracleVerdict(passed)"

end Verdict

end GrammarFuzz
