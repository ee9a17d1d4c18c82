import Steward.Decimal.Shortest
import Steward.Metrics
/-!
# Showing samples as text

Each series is shown with the number that it has come to.  Measured lengths are shown as how many
of them were at most as long as each of some limits, how many there were, and their sum.  What is
recorded before the registry is installed is lost.
-/

set_option autoImplicit false

namespace Steward

/-- The limits in seconds for which measured lengths are counted, with their texts. -/
def lengthLimits : List (Float × String) :=
  [(0.01, "0.01"), (0.025, "0.025"), (0.05, "0.05"), (0.1, "0.1"), (0.25, "0.25"), (0.5, "0.5"),
    (1, "1"), (2.5, "2.5"), (5, "5"), (10, "10"), (30, "30")]

structure Lengths where
  summed : Float
  seen : List Float
  fresh : List Float

namespace Lengths

def empty : Lengths := ⟨0, [], []⟩

def observe (lengths : Lengths) (seconds : Float) : Lengths :=
  { lengths with seen := seconds :: lengths.seen, fresh := seconds :: lengths.fresh }

def settle (lengths : Lengths) : Lengths :=
  { lengths with
    summed := lengths.summed + lengths.fresh.reverse.foldl (· + ·) 0
    fresh := [] }

def atMost (lengths : Lengths) (limit : Float) : Nat := lengths.seen.countP (· ≤ limit)

end Lengths

inductive Shown where
  | count (value : Nat)
  | level (value : Nat)
  | lengths (lengths : Lengths)

namespace Shown

def kind : Shown → String
  | .count _ => "counter"
  | .level _ => "gauge"
  | .lengths _ => "histogram"

end Shown

structure Registry where
  series : List (Series × Shown)

namespace Registry

def empty : Registry := ⟨[]⟩

def update (registry : Registry) (series : Series) (first : Shown) (change : Shown → Shown) :
    Registry :=
  if registry.series.any (·.1 == series) then
    ⟨registry.series.map fun (other, shown) =>
      (other, if other == series then change shown else shown)⟩
  else ⟨registry.series ++ [(series, change first)]⟩

def record (registry : Registry) : Sample → Registry
  | .count series =>
    registry.update series (.count 0) fun
      | .count value => .count (value + 1)
      | other => other
  | .level series value => registry.update series (.level 0) fun _ => .level value
  | .observe series seconds =>
    registry.update series (.lengths .empty) fun
      | .lengths lengths => .lengths (lengths.observe seconds)
      | other => other

def settle (registry : Registry) : Registry :=
  ⟨registry.series.map fun (series, shown) =>
    (series, match shown with
      | .lengths lengths => .lengths lengths.settle
      | other => other)⟩

end Registry

/-- What the samples of a process go to: nowhere, until a registry is installed. -/
structure Recorder where
  registry : Option Registry

namespace Recorder

def absent : Recorder := ⟨none⟩

def install (recorder : Recorder) : Bool × Recorder :=
  match recorder.registry with
  | none => (true, ⟨some .empty⟩)
  | some registry => (false, ⟨some registry⟩)

def record (recorder : Recorder) (sample : Sample) : Recorder :=
  ⟨recorder.registry.map fun registry => registry.record sample⟩

end Recorder

namespace Registry

/-! ## Text -/

def escapeLabel (text : String) : String :=
  String.ofList (text.toList.flatMap fun c =>
    if c == '\\' then ['\\', '\\']
    else if c == '"' then ['\\', '"']
    else if c == '\n' then ['\\', 'n']
    else [c])

def line (name : String) (labels : List (String × String)) (value : String) : String :=
  let labels := labels.map fun (label, value) => label ++ "=\"" ++ escapeLabel value ++ "\""
  let labels := if labels.isEmpty then "" else
    "\x7b" ++ String.intercalate "," labels ++ "\x7d"
  name ++ labels ++ " " ++ value

def lines (series : Series) : Shown → List String
  | .count value => [line series.name series.labels (toString value)]
  | .level value => [line series.name series.labels (toString value)]
  | .lengths lengths =>
    lengthLimits.map (fun (limit, text) =>
      line (series.name ++ "_bucket") (series.labels ++ [("le", text)])
        (toString (lengths.atMost limit)))
    ++ [line (series.name ++ "_bucket") (series.labels ++ [("le", "+Inf")])
          (toString lengths.seen.length),
        line (series.name ++ "_sum") series.labels (Decimal.shown lengths.summed),
        line (series.name ++ "_count") series.labels (toString lengths.seen.length)]

/-- The lines of all series, each name under a line that tells its kind, in the order of their
octets. -/
def sortedLines (registry : Registry) : List String :=
  let registry := registry.settle
  let kinds := (registry.series.map fun (series, shown) =>
    "# TYPE " ++ series.name ++ " " ++ shown.kind).eraseDups
  (kinds ++ registry.series.flatMap fun (series, shown) => lines series shown).mergeSort
    fun a b => a ≤ b

end Registry

end Steward
