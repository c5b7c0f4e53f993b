/- Module: SthBoring/CmdCtrl/InspectSafety
   source: sdk_test_agent/cmd_ctrl/policies.py, operator.py
   digest: Which of the accepted command lines only read. -/

import SthBoring.Lib.LaunchingTools
import SthBoring.CmdCtrl.Policies

set_option autoImplicit false
set_option relaxedAutoImplicit false

namespace SthBoring.CmdCtrl.InspectSafety

open SthBoring.Lib.LaunchingTools
open SthBoring.CmdCtrl.Policies

/-- The default policy. -/
abbrev inspectPolicy : InspectPolicy := .init none

/-- The line is handed to a tool that starts others, or changes files itself. -/
def Entrusted (argv : List String) : Prop :=
  argv.head? = some "env" ∨ argv.head? = some "find"

theorem readOnly_of_not_entrusted {programs argv : List String}
    (led : ∀ program ∈ argv.head?, program ∈ programs) (own : ¬ Entrusted argv) :
    ReadOnly programs argv := by
  rw [readOnly_iff led]
  cases argv with
  | nil => exact ⟨rfl, fun next started => nomatch started⟩
  | cons tool args =>
    have notEnv : tool ≠ "env" := fun h => own (.inl (congrArg some h))
    have notFind : tool ≠ "find" := fun h => own (.inr (congrArg some h))
    refine ⟨by simp [changesFiles, notFind], fun next started => ?_⟩
    rw [launches, if_neg notEnv, if_neg notFind] at started
    cases started

end SthBoring.CmdCtrl.InspectSafety
