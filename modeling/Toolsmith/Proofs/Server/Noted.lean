import Toolsmith.Server.Route

/-!
# Calls that are noted

What a tool does shows in its result and in the state that it leaves, which need not tell how often
it was called and with what input. So a tool is watched by letting it note its calls beside the
state. What it answers is the same, and so is the rest of the state.

## Main definitions

* `Server.Tool.noted`, `Server.noted`: a tool and a server that note the calls.

## Main statements

* `Server.runTool_noted`: every run of a tool is noted once, and does the same as without the note.
-/

namespace Toolsmith.Server

open Json (Value)

variable {σ μ : Type}

/-- A tool that notes its calls, with a mark and the input, behind what has been noted before. -/
def Tool.noted (mark : μ) (t : Tool σ) : Tool (σ × List (μ × Value)) where
  definition := t.definition
  call input state :=
    ((t.call input state.1).1, (t.call input state.1).2, state.2 ++ [(mark, input)])

/-- A server whose tools note their calls under their names. -/
def noted (s : Server σ) : Server (σ × List (String × Value)) where
  identity := s.identity
  tools := s.tools.map fun e ↦ (e.1, e.2.noted e.1)

@[simp] theorem definition_noted (mark : μ) (t : Tool σ) :
    (t.noted mark).definition = t.definition := rfl

/-- A run of a tool is noted once, and does the same as without the note. -/
theorem runTool_noted (mark : μ) (t : Tool σ) (input : Value) (state : σ)
    (notes : List (μ × Value)) :
    runTool (t.noted mark) input (state, notes) =
      ((runTool t input state).1, (runTool t input state).2, notes ++ [(mark, input)]) := by
  rcases called : t.call input state with ⟨_ | result, after⟩ <;>
    simp [runTool, Tool.noted, called]

end Toolsmith.Server
