import PromptChart.Proofs.Regex.Captures

namespace PromptChart.Regex

variable {π : Type} {text held : π → List Char}

/-- The pieces that are met on the way through a text: behind a piece the way goes on, and where
none starts, it goes on with the next character. -/
inductive Scans (text : π → List Char) : List Char → List π → Prop where
  | nil : Scans text [] []
  | skip {a : Char} {cs : List Char} {ps : List π} :
      (∀ p, ¬ text p <+: a :: cs) → Scans text cs ps → Scans text (a :: cs) ps
  | piece (p : π) {cs : List Char} {ps : List π} :
      Scans text cs ps → Scans text (text p ++ cs) (p :: ps)

/-- A match of a piece, with a group for what the piece holds. -/
structure Shows (text held : π → List Char) (index : Nat) (m : Match) (p : π) : Prop where
  text : m.text = String.ofList (text p)
  group : m.group index = String.ofList (held p)

/-- An expression that matches where a piece starts, and nowhere else. -/
structure Finds (r : Regex) (index : Nat) (text held : π → List Char) : Prop where
  ne_nil : ∀ p, text p ≠ []
  found : ∀ p before rest,
      ∃ m, r.matchAt ⟨before, text p ++ rest⟩ = some m ∧ m.stop.after = rest ∧
    Shows text held index m p
  missing : ∀ before cs, (∀ p, ¬ text p <+: cs) → r.matchAt ⟨before, cs⟩ = none

variable {r body : Regex} {index : Nat} {before cs rest u v x y : List Char} {a b : Char}
  {ps : List π} {m : Match}

theorem append_stop_inj {p : Char → Bool} (hx : ∀ a ∈ x, p a = false)
    (hy : ∀ a ∈ y, p a = false) (ha : p a = true) (hb : p b = true)
    (h : x ++ a :: u = y ++ b :: v) : x = y ∧ a = b ∧ u = v := by
  induction x generalizing y with
  | nil =>
    cases y with
    | nil => exact ⟨rfl, List.cons.inj h⟩
    | cons c y =>
      obtain ⟨rfl, -⟩ := List.cons.inj h
      exact absurd ha (ne_true_of_eq_false (hy a (.head _)))
  | cons c x ih =>
    cases y with
    | nil =>
      obtain ⟨rfl, -⟩ := List.cons.inj h
      exact absurd hb (ne_true_of_eq_false (hx c (.head _)))
    | cons d y =>
      obtain ⟨rfl, hrest⟩ := List.cons.inj h
      obtain ⟨rfl, hends⟩ := ih (List.forall_mem_cons.1 hx).2
        (List.forall_mem_cons.1 hy).2 hrest
      exact ⟨rfl, hends⟩

theorem Scans.isInfix (h : Scans text cs ps) : ∀ p ∈ ps, text p <:+: cs := by
  induction h with
  | nil => exact List.forall_mem_nil _
  | skip _ _ ih => exact fun p hp => (ih p hp).trans (List.suffix_cons _ _).isInfix
  | piece p _ ih =>
    refine List.forall_mem_cons.2 ⟨(List.prefix_append _ _).isInfix, fun q hq => ?_⟩
    exact (ih q hq).trans (List.suffix_append _ _).isInfix

theorem exists_scans (hne : ∀ p, text p ≠ []) (cs : List Char) : ∃ ps, Scans text cs ps := by
  by_cases hstart : ∃ p, text p <+: cs
  · obtain ⟨p, rest, hcs⟩ := hstart
    have hpos := List.length_pos_iff.2 (hne p)
    have hlength :
        (text p).length + rest.length = cs.length := by rw [← hcs, List.length_append]
    obtain ⟨ps, hps⟩ := exists_scans hne rest
    exact ⟨p :: ps, hcs ▸ .piece p hps⟩
  · cases cs with
    | nil => exact ⟨[], .nil⟩
    | cons a rest =>
      obtain ⟨ps, hps⟩ := exists_scans hne rest
      exact ⟨ps, .skip (fun p hp => hstart ⟨p, hp⟩) hps⟩
termination_by cs.length

theorem matchesFrom_skip (r : Regex) (before x rest : List Char) :
    r.matchesFrom before x.length (x ++ rest) = r.matchesFrom (x.reverse ++ before) 0 rest := by
  induction x generalizing before with
  | nil => rfl
  | cons a x ih =>
    rw [List.length_cons, List.cons_append, matchesFrom, ih, List.reverse_cons,
      List.append_assoc]
    rfl

theorem matchesFrom_of_matchAt (hne : x ≠ []) (hm : r.matchAt ⟨before, x ++ rest⟩ = some m)
    (hstop : m.stop.after = rest) :
    r.matchesFrom before 0 (x ++ rest) = m :: r.matchesFrom (x.reverse ++ before) 0 rest := by
  obtain ⟨a, x, rfl⟩ := List.exists_cons_of_ne_nil hne
  have hlength : (a :: (x ++ rest)).length - rest.length - 1 = x.length := by
    rw [List.length_cons, List.length_append]
    omega
  rw [List.cons_append] at hm ⊢
  rw [matchesFrom, hm]
  simp only
  rw [hstop, hlength, matchesFrom_skip, List.reverse_cons, List.append_assoc]
  rfl

theorem Finds.matchesFrom (h : Finds r index text held) (hscan : Scans text cs ps)
    (before : List Char) :
    List.Forall₂ (Shows text held index) (r.matchesFrom before 0 cs) ps := by
  induction hscan generalizing before with
  | nil => exact .nil
  | @skip a cs ps hnone _ ih =>
    rw [Regex.matchesFrom, h.missing before _ hnone]
    exact ih _
  | piece p _ ih =>
    obtain ⟨m, hm, hstop, hshows⟩ := h.found p before _
    rw [matchesFrom_of_matchAt (h.ne_nil p) hm hstop]
    exact .cons hshows (ih _)

theorem Finds.findAll (h : Finds r index text held) {s : String}
    (hscan : Scans text s.toList ps) :
    List.Forall₂ (Shows text held index) (r.findAll s) ps :=
  h.matchesFrom hscan []

theorem Finds.map_group (h : Finds r index text held) {s : String}
    (hscan : Scans text s.toList ps) :
    (r.findAll s).map (·.group index) = ps.map fun p => String.ofList (held p) := by
  have hall := h.findAll hscan
  clear hscan
  generalize r.findAll s = ms at hall
  induction hall with
  | nil => rfl
  | cons hshows _ ih => rw [List.map_cons, List.map_cons, hshows.group, ih]

/-- An expression with one group finds the pieces that it takes if no piece starts where another
one does. -/
theorem finds_of_takes (front back : List Regex) (hfront : ∀ r ∈ front, r.isGroupless = true)
    (hbody : body.isGroupless = true) (hback : ∀ r ∈ back, r.isGroupless = true)
    (hne : ∀ p, text p ≠ []) (hunique : ∀ p q u v, text p ++ u = text q ++ v → p = q)
    (htakes : ∀ p {c d : Cursor},
      c.Goes (text p) d → (inOrder (front ++ .group index body :: back)).Takes c d)
    (hpiece : ∀ {c c₁ c₂ d : Cursor},
      (inOrder front).Takes c c₁ → body.Takes c₁ c₂ → (inOrder back).Takes c₂ d →
      ∃ p, c.Goes (text p) d ∧ c₁.Goes (held p) c₂) :
    Finds (inOrder (front ++ .group index body :: back)) index text held := by
  have hends {c : Cursor} {e : State} (he : (inOrder (front ++
    .group index body :: back)).Prefers ⟨c, []⟩ e) :
      ∃ p, c.Goes (text p) e.cursor ∧
        Match.group ⟨c, e.cursor, e.captures⟩ index = String.ofList (held p) := by
    obtain ⟨s₁, hs₁, hrest⟩ := he.exists_of_inOrder_append
    obtain ⟨s₂, hs₂, hrest⟩ := hrest.exists_of_inOrder_cons
    have hcaptures : e.captures = [⟨index, s₁.cursor, s₂.cursor⟩] := by
      rw [captures_of_mem_ends (isGroupless_inOrder hback) hrest.mem_ends,
        captures_of_mem_ends_group hbody hs₂,
        captures_of_mem_ends (isGroupless_inOrder hfront) hs₁]
    have hheld : (Regex.group index body).Takes s₁.cursor s₂.cursor := takes_of_mem_ends hs₂
    obtain ⟨p, hp, hgoes⟩ := hpiece (takes_of_mem_ends hs₁) hheld
      (takes_of_mem_ends hrest.mem_ends)
    refine ⟨p, hp, ?_⟩
    simp only [Match.group, hcaptures, List.find?_cons, decide_true, hgoes.textTo]
  refine ⟨hne, fun p before rest => ?_, fun before cs hnone => ?_⟩
  · have hgoes : Cursor.Goes ⟨before, text p ++ rest⟩ (text p) ⟨(text p).reverse ++ before,
        rest⟩ := ⟨rfl, rfl⟩
    have hsome := (isSome_matchAt_iff _ _).2 ⟨_, htakes p hgoes⟩
    obtain ⟨m, hm⟩ := Option.isSome_iff_exists.1 hsome
    obtain ⟨e, he, rfl⟩ := Option.map_eq_some_iff.1 hm
    obtain ⟨q, hq, hgroup⟩ := hends he
    obtain rfl := hunique p q _ _ hq.after
    refine ⟨_, hm, (List.append_cancel_left hq.after).symm, ?_, hgroup⟩
    rw [Match.text, hq.textTo]
  · rw [← Option.not_isSome_iff_eq_none, isSome_matchAt_iff]
    rintro ⟨d, hd⟩
    obtain ⟨e, he, rfl⟩ := (exists_mem_ends_iff _ ⟨⟨before, cs⟩, []⟩ d).2 hd
    obtain ⟨first, hfirst⟩ :=
      Option.isSome_iff_exists.1 (List.isSome_head?.2 (List.ne_nil_of_mem he))
    obtain ⟨p, hp, -⟩ := hends hfirst
    exact hnone p ⟨_, hp.after.symm⟩

end PromptChart.Regex
