import PromptChart.Chart.Own
import PromptChart.Chart.Service

namespace PromptChart

inductive Material where
  /-- Points of a metric; without a metric it is the default one. -/
  | points (x : Comparison) (metric : Option String) (points : List Point)
  | grouped (b : Breakdown) (data : Grouped)
  /-- A visualization for a prompt; one that holds nothing is an object without members. -/
  | visualization (v prompt : Json)

namespace Material

/-- The value, or else a default in place of one that holds nothing. -/
def orElse (default j : Json) : Json := (j.present?).getD default

def withTrace (trace : Json) (chart : Chart) : Except Failure Chart :=
  match trace.present? with
  | none => .ok chart
  | some steps => do return { chart with reasoning := ← steps.elements }

def chart (c : Catalog) (scope : Scope) (trace : Json) : Material → Except Failure Chart
  | .points x metric ps =>
    withTrace trace (x.chart c ((metric.filter (!·.isEmpty)).getD c.defaultMetric) ps)
  | .grouped b data => withTrace trace (b.chart c data)
  | .visualization v prompt =>
    Visualized.chart c (orElse (.object []) v) (orElse (.array []) trace) prompt scope

end Material

end PromptChart
