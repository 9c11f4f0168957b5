import AntTrail.Regex.Depth
import AntTrail.Regex.Meaning
import AntTrail.Regex.Parser

/-!
Whether a text is a pattern that can be searched for.
-/
namespace AntTrail.Regex

/-- Why a text is no pattern that can be searched for. -/
inductive Problem where
  /-- It is no pattern, with a report. -/
  | refused (report : String)
  /-- It asks for a boundary of words of all scripts. -/
  | unicodeBoundary
deriving DecidableEq, Repr

/-- The reasons, from the outermost to the innermost. -/
def Problem.reasons : Problem → List String
  | refused report => ["error building NFA", "error parsing regex", report]
  | unicodeBoundary =>
    ["unsupported regex feature for DFAs: cannot build DFAs for regexes with Unicode word " ++
      "boundaries; switch to ASCII word boundaries, or heuristically enable Unicode word " ++
      "boundaries or use a different regex engine"]

/-- Reads a text as a pattern and looks at what it stands for. -/
def modeOf (text : String) : Except Refusal Mode := do
  let t ← Tree.ofText text
  t.checkDepth
  t.modeAfter {}

/-- Whether a text is a pattern that can be searched for. -/
def check (text : String) : Except Problem Unit :=
  match modeOf text with
  | .error r => .error (.refused (r.report text))
  | .ok m => if m.unicodeBoundary then .error .unicodeBoundary else .ok ()

end AntTrail.Regex
