import PromptChart.Catalog.Reader
import PromptChart.Catalog.Resolve
import PromptChart.Proofs.Entries
import PromptChart.Proofs.Outcome
import PromptChart.Proofs.Text.Plain

namespace PromptChart

open Text (isSmall lower)

/-- A key that is letters from a to z, once it is in lower case. -/
def IsLettered (key : String) : Prop := ∀ c ∈ (lower key).toList, isSmall c = true

instance (key : String) : Decidable (IsLettered key) := inferInstanceAs (Decidable (∀ _ ∈ _, _))

theorem toList_cleanToken (token : String) :
    (cleanToken token).toList = (lower token).toList.filter isSmall :=
  String.toList_ofList

theorem cleanToken_of_isLettered {token key : String} (h : IsLettered key)
    (htoken : lower token = lower key) :
    cleanToken token = lower key := by
  rw [← String.toList_inj, toList_cleanToken, htoken]
  exact List.filter_eq_self.2 h

theorem cleanToken_ne {key : String} (h : ¬ IsLettered key) (token : String) :
    cleanToken token ≠ lower key := by
  intro hclean
  refine h fun c hc => ?_
  rw [← hclean, toList_cleanToken] at hc
  exact (List.mem_filter.1 hc).2

/-- A raw table of aliases whose keys can be told apart in any case. -/
structure Json.IsAliasTable (raw : Json) (entries : List (String × Json)) : Prop where
  members : raw.membersOrNone = .ok entries
  distinct : (entries.map fun e => lower e.1).Nodup

namespace Catalog

variable {c : Catalog} {raw : Json} {entries : List (String × Json)} {e : String × Json}
  {token : String} {aliases : List (String × String)}
  {compile : String → Except Failure TermPattern}

theorem readAliases_eq_ok (h : raw.IsAliasTable entries) :
    readAliases raw = .ok (entries.map fun e => (lower e.1, e.2.plain)) := by
  have hkeys : ((entries.map fun e => (lower e.1, e.2.plain)).map (·.1)).Nodup := by
    rw [List.map_map]
    exact h.distinct
  have hput :
      (entries.map fun e => (lower e.1, e.2.plain)).foldl (fun acc e => Entries.put e.1 e.2 acc)
        [] = [] ++ _ :=
    Entries.foldl_put_eq_append hkeys
  rw [List.foldl_map, List.nil_append] at hput
  rw [readAliases, h.members, ok_bind, pure_eq_ok, hput]

theorem aliases_of_read (h : readWith compile raw = .ok c) :
    readAliases (raw.get "dimension_aliases") = .ok c.dimensionAliases ∧
      readAliases (raw.get "metric_aliases") = .ok c.metricAliases := by
  cases raw with
  | object members =>
    simp only [readWith, bind_eq_ok, pure_eq_ok, Except.ok.injEq] at h
    obtain ⟨_, _, _, _, _, _, dimensions, hdimensions, metrics, hmetrics, _, _, _, _, _, _, _,
      _, _, _, _, _, _, _, _, _, _, _, _, _, _, _, rfl⟩ := h
    exact ⟨hdimensions, hmetrics⟩
  | _ => cases h

theorem lookup_of_isLettered (htable : raw.IsAliasTable entries)
    (hread : readAliases raw = .ok aliases) (he : e ∈ entries)
    (hkey : IsLettered e.1) (htoken : lower token = lower e.1) :
    aliases.lookup (cleanToken token) = some e.2.plain := by
  rw [readAliases_eq_ok htable] at hread
  cases hread
  rw [cleanToken_of_isLettered hkey htoken]
  apply Entries.lookup_of_mem
  · rw [List.map_map]
    exact htable.distinct
  · exact List.mem_map.2 ⟨e, he, rfl⟩

def withoutDimension (c : Catalog) (key : String) : Catalog :=
  { c with dimensionAliases := c.dimensionAliases.filter fun e => e.1 ≠ lower key }

def withoutMetric (c : Catalog) (key : String) : Catalog :=
  { c with metricAliases := c.metricAliases.filter fun e => e.1 ≠ lower key }

theorem dimension?_withoutDimension {key : String} (h : ¬ IsLettered key) (token : String) :
    (c.withoutDimension key).dimension? token = c.dimension? token := by
  simp only [dimension?, dimensionIn?, withoutDimension,
    Entries.lookup_filter_ne (cleanToken_ne h token)]

theorem metric_withoutMetric {key : String} (h : ¬ IsLettered key) (token : String) :
    (c.withoutMetric key).metric token = c.metric token := by
  simp only [metric, metricIn, withoutMetric, Entries.lookup_filter_ne (cleanToken_ne h token)]

theorem dimension?_alias_iff (hread : readWith compile raw = .ok c)
    (htable : (raw.get "dimension_aliases").IsAliasTable entries) (he : e ∈ entries)
    (htoken : lower token = lower e.1) :
    c.dimension? token = some e.2.plain ↔
      IsLettered e.1 ∨ (c.withoutDimension e.1).dimension? token = some e.2.plain := by
  by_cases hkey : IsLettered e.1
  · refine iff_of_true ?_ (.inl hkey)
    simp only [dimension?, dimensionIn?,
      lookup_of_isLettered htable (aliases_of_read hread).1 he hkey htoken]
  · rw [dimension?_withoutDimension hkey, or_iff_right hkey]

theorem metric_alias_iff (hread : readWith compile raw = .ok c)
    (htable : (raw.get "metric_aliases").IsAliasTable entries)
    (he : e ∈ entries) (htoken : lower token = lower e.1) :
    c.metric token = e.2.plain ↔
      IsLettered e.1 ∨ (c.withoutMetric e.1).metric token = e.2.plain := by
  by_cases hkey : IsLettered e.1
  · refine iff_of_true ?_ (.inl hkey)
    simp only [metric, metricIn,
      lookup_of_isLettered htable (aliases_of_read hread).2 he hkey htoken]
  · rw [metric_withoutMetric hkey, or_iff_right hkey]

/-- A token that is a key of the catalog, in any case, means what the key stands for exactly if
the key has letters only, or if the token means the same without the key. -/
theorem alias_reachable_iff (h : readWith compile raw = .ok c) (token : String) :
    (∀ entries, (raw.get "dimension_aliases").IsAliasTable entries →
      ∀ e ∈ entries, lower token = lower e.1 →
        (c.dimension? token = some e.2.plain ↔
          IsLettered e.1 ∨ (c.withoutDimension e.1).dimension? token = some e.2.plain)) ∧
    ∀ entries, (raw.get "metric_aliases").IsAliasTable entries →
      ∀ e ∈ entries, lower token = lower e.1 →
        (c.metric token = e.2.plain ↔
          IsLettered e.1 ∨ (c.withoutMetric e.1).metric token = e.2.plain) :=
  ⟨fun _ htable _ he htoken => dimension?_alias_iff h htable he htoken,
    fun _ htable _ he htoken => metric_alias_iff h htable he htoken⟩

def wordyAliases : List (String × Json) :=
  [("Origin", .text "origin_state"), ("origin city", .text "origin_city")]

def wordyCatalog : Json :=
  .object [("dimension_aliases", .object wordyAliases),
    ("metric_aliases", .object [("Freight", .text "retail")])]

theorem isAliasTable_dimensions :
    (wordyCatalog.get "dimension_aliases").IsAliasTable wordyAliases :=
  ⟨rfl, by decide +kernel⟩

theorem isAliasTable_metrics :
    (wordyCatalog.get "metric_aliases").IsAliasTable [("Freight", .text "retail")] :=
  ⟨rfl, by decide +kernel⟩

theorem alias_reachable_wordyCatalog :
    ∃ c, Catalog.read wordyCatalog = .ok c ∧ c.dimension? "ORIGIN" = some "origin_state" ∧
      c.metric "FREIGHT" = "retail" ∧ c.dimension? "Origin City" ≠ some "origin_city" := by
  have hread : readWith TermPattern.read wordyCatalog = .ok _ := rfl
  refine ⟨_, hread, ?origin, ?freight, ?city⟩
  case origin =>
    exact ((alias_reachable_iff hread "ORIGIN").1 _ isAliasTable_dimensions
      ("Origin", .text "origin_state") (.head _) (by decide +kernel)).2
      (.inl (by decide +kernel))
  case freight =>
    exact ((alias_reachable_iff hread "FREIGHT").2 _ isAliasTable_metrics
      ("Freight", .text "retail") (.head _) (by decide +kernel)).2 (.inl (by decide +kernel))
  case city =>
    intro hcity
    obtain hkey | hsame :=
      ((alias_reachable_iff hread "Origin City").1 _ isAliasTable_dimensions
      ("origin city", .text "origin_city") (.tail _ (.head _)) (by decide +kernel)).1 hcity
    · revert hkey
      decide +kernel
    · revert hsame
      decide +kernel

theorem not_forall_alias_reached :
    ¬ ∀ raw c entries e,
      Catalog.read raw = .ok c → (raw.get "dimension_aliases").IsAliasTable entries →
        e ∈ entries → c.dimension? e.1 = some e.2.plain := by
  intro h
  have hcity := h wordyCatalog _ wordyAliases ("origin city", .text "origin_city") rfl
    isAliasTable_dimensions (.tail _ (.head _))
  revert hcity
  decide +kernel

end Catalog

end PromptChart
