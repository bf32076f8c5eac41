import Pushdown.PushRule
import Pushdown.Simplification

/-! # Settings

Which simplifications are made of a pipeline and which rules push its stages, in which
order. Settings read from a document list no stage twice.
-/

namespace Pushdown

/-- The choice of simplifications and rules. -/
structure Settings where
  simplifications : List Simplification := Simplification.all
  pushRules : List PushRule := PushRule.all
  /-- Whether a backend may count in place of the pipeline. -/
  countShortcut : Bool := true
  deriving DecidableEq, Inhabited

namespace Settings

/-- The first entry that repeats an earlier one. -/
def firstRepeated {α : Type} [DecidableEq α] (seen : List α) : List α → Option α
  | [] => none
  | entry :: rest => if entry ∈ seen then some entry else firstRepeated (entry :: seen) rest

/-- The label of the first stage that is listed twice. -/
def repeated? (settings : Settings) : Option String :=
  match firstRepeated [] settings.simplifications with
  | some simplification => some simplification.label
  | none => (firstRepeated [] settings.pushRules).map PushRule.label

/-- The rules that take part: without the shortcut, counting does not. -/
def activeRules (settings : Settings) : List PushRule :=
  settings.pushRules.filter fun rule => settings.countShortcut || rule != .count

/-- Why settings are refused. -/
inductive Refusal where
  /-- The document is malformed or has entries that settings do not have. -/
  | malformed
  | repeated (stage : String)
  deriving DecidableEq

/-- The wording of a repeated stage. -/
def repeatedMessage (stage : String) : String :=
  s!"render config lists stage '{stage}' more than once"

/-- Settings that list no stage twice. -/
def validate (settings : Settings) : Except Refusal Settings :=
  match settings.repeated? with
  | some stage => .error (.repeated stage)
  | none => .ok settings

end Settings

end Pushdown
