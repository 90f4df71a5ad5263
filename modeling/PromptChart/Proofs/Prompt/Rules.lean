import PromptChart.Prompt.Classify

namespace PromptChart.Prompt

variable {c : Catalog} {ctx : Context} {m : Regex.Match} {b : Breakdown}

/-- Both fields of a breakdown are dimensions of the catalog. -/
structure HasDimensions (c : Catalog) (b : Breakdown) : Prop where
  primary : b.primary = c.defaultDimension ∨ ∃ token, c.dimension? token = some b.primary
  secondary : ∃ token, c.dimension? token = some b.secondary

/-- The metric of a breakdown is what a token means as one, or what the last hint in the prompt
gives. -/
structure IsRead (c : Catalog) (lowered : String)
    (b : Breakdown) : Prop extends HasDimensions c b where
  metric : (∃ token, b.metric = c.metric token) ∨ b.metric = hintedMetric c lowered

theorem Context.breakdown?_eq_some_iff {primary secondary metric : String} :
    ctx.breakdown? primary secondary metric = some b ↔
      ∃ first second, ctx.catalog.dimension? primary = some first ∧
        ctx.catalog.dimension? secondary = some second ∧
        b = ⟨first, second, metric, ctx.aggregation, ctx.terms⟩ := by
  simp only [Context.breakdown?, Option.bind_eq_bind, Option.bind_eq_some_iff, Option.pure_def,
    Option.some.injEq, eq_comm (b := b), exists_and_left]

theorem Context.breakdown?_isRead {primary secondary metric : String}
    (hmetric : (∃ token, metric = ctx.catalog.metric token) ∨
      metric = hintedMetric ctx.catalog ctx.lowered)
    (h : ctx.breakdown? primary secondary metric = some b) :
    IsRead ctx.catalog ctx.lowered b := by
  obtain ⟨first, second, hfirst, hsecond, rfl⟩ := Context.breakdown?_eq_some_iff.1 h
  exact ⟨⟨.inr ⟨primary, hfirst⟩, ⟨secondary, hsecond⟩⟩, hmetric⟩

theorem readSlots_isRead (h : readSlots ctx m = some b) : IsRead ctx.catalog ctx.lowered b := by
  unfold readSlots at h
  split at h
  · exact Context.breakdown?_isRead (.inl ⟨m.group 1, rfl⟩) h
  · cases h

theorem readPair_isRead (h : readPair ctx m = some b) : IsRead ctx.catalog ctx.lowered b := by
  unfold readPair at h
  split at h
  · exact Context.breakdown?_isRead (.inr rfl) h
  · cases h

theorem readListed_isRead (h : readListed ctx m = some b) :
    IsRead ctx.catalog ctx.lowered b := by
  simp only [readListed, Option.map_eq_some_iff] at h
  obtain ⟨secondary, hsecondary, rfl⟩ := h
  exact ⟨⟨.inl rfl, ⟨m.group 1, hsecondary⟩⟩, .inr rfl⟩

theorem rule_isRead {r : Rule} (hr : r ∈ rules) (h : r.read ctx m = some b) :
    IsRead ctx.catalog ctx.lowered b := by
  simp only [rules, Rule.ofPattern, List.mem_cons, List.not_mem_nil, or_false] at hr
  obtain rfl | rfl | rfl | rfl | rfl | rfl := hr
  · exact readSlots_isRead h
  · exact readSlots_isRead h
  · exact readSlots_isRead h
  · exact readSlots_isRead h
  · exact readListed_isRead h
  · exact readPair_isRead h

theorem exists_of_firstAccepted {r : Rule} (h : firstAccepted ctx = some (r, b)) :
    r ∈ rules ∧ ∃ m, r.find ctx = some m ∧ r.read ctx m = some b := by
  obtain ⟨r', hr', hsome⟩ := List.exists_of_findSome?_eq_some h
  obtain ⟨b', hb', he⟩ := Option.map_eq_some_iff.1 hsome
  cases he
  exact ⟨hr', Option.bind_eq_some_iff.1 hb'⟩

theorem firstAccepted_isRead {r : Rule} (h : firstAccepted ctx = some (r, b)) :
    IsRead ctx.catalog ctx.lowered b := by
  obtain ⟨hr, m, _, hread⟩ := exists_of_firstAccepted h
  exact rule_isRead hr hread

theorem classify_breakdown {prompt : String} (h : classify c prompt = some (.breakdown b)) :
    ∃ r, firstAccepted (Context.of c (Text.stripped (Text.lower prompt))) = some (r, b) := by
  simp only [classify] at h
  split at h
  · cases h
  · split at h
    next r b' hb' =>
      cases h
      exact ⟨r, hb'⟩
    next =>
      split at h <;> cases h

def ruleName? (c : Catalog) (prompt : String) : Option String :=
  (firstAccepted (Context.of c (Text.stripped (Text.lower prompt)))).map (·.1.name)

theorem exists_of_classify {prompt : String} (h : classify c prompt = some (.breakdown b)) :
    ∃ r ∈ rules, ruleName? c prompt = some r.name ∧
      ∃ m, r.find (Context.of c (Text.stripped (Text.lower prompt))) = some m ∧
        r.read (Context.of c (Text.stripped (Text.lower prompt))) m = some b := by
  obtain ⟨r, hr⟩ := classify_breakdown h
  obtain ⟨hmem, hread⟩ := exists_of_firstAccepted hr
  exact ⟨r, hmem, by rw [ruleName?, hr]; rfl, hread⟩

theorem classify_isRead {prompt : String} (h : classify c prompt = some (.breakdown b)) :
    IsRead c (Text.stripped (Text.lower prompt)) b := by
  obtain ⟨r, hr⟩ := classify_breakdown h
  exact firstAccepted_isRead hr

theorem classify_dimensions {prompt : String} (h : classify c prompt = some (.breakdown b)) :
    HasDimensions c b :=
  (classify_isRead h).toHasDimensions

end PromptChart.Prompt
