import Mathlib.Order.Bounds.Basic
import PromptChart.Catalog.Freight
import PromptChart.Proofs.Regex.Takes

namespace PromptChart

open Regex (Cursor)
open Text (isBlank sameLetter)

def Regex.Cursor.into (text : List Char) (n : Nat) : Cursor :=
  ⟨(text.take n).reverse, text.drop n⟩

theorem Regex.Cursor.into_append (before text : List Char) :
    Cursor.into (before.reverse ++ text) before.length = ⟨before, text⟩ := by
  rw [into, ← List.length_reverse, List.take_left, List.drop_left, List.reverse_reverse]

/-- Does a pattern match in a text, `n` characters from its start? -/
def TermPattern.StandsAt (p : TermPattern) (text : List Char) (n : Nat) : Prop :=
  n ≤ text.length ∧ p.matchesAt (.into text n) = true

/-- Does one of the patterns of a product match in a text, `n` characters from its start? -/
def Product.StandsAt (p : Product) (text : List Char) (n : Nat) : Prop :=
  ∃ pattern ∈ p.patterns, pattern.StandsAt text n

def Product.StandsIn (p : Product) (text : List Char) : Prop := ∃ n, p.StandsAt text n

namespace TermPattern

variable {p : TermPattern} {c d : Cursor} {text : String} {n : Nat} {before rest : List Char}
  {source : String} {pieces : List TermPiece}

theorem standsAt_append : p.StandsAt (before.reverse ++ rest) before.length ↔
    p.matchesAt ⟨before, rest⟩ = true := by
  rw [StandsAt, Cursor.into_append, List.length_append, List.length_reverse]
  exact and_iff_right (Nat.le_add_right _ _)

/-- A search from some place on finds the first place there at which the pattern matches. -/
theorem isLeast_positionFrom? (h : p.positionFrom? before rest = some n) :
    IsLeast {k | before.length ≤ k ∧ p.StandsAt (before.reverse ++ rest) k} n := by
  have hhere (hmatch : p.matchesAt ⟨before, rest⟩ = true) :
      IsLeast {k | before.length ≤ k ∧ p.StandsAt (before.reverse ++ rest) k} before.length :=
    ⟨⟨le_rfl, standsAt_append.2 hmatch⟩, fun _ hk => hk.1⟩
  induction rest generalizing before with
  | nil =>
    rw [positionFrom?] at h
    split at h <;> cases h
    next hmatch => exact hhere hmatch
  | cons c rest ih =>
    rw [positionFrom?] at h
    split at h
    next hmatch =>
      cases h
      exact hhere hmatch
    next hmatch =>
      -- what does not match here matches further on
      have hlater := ih h fun hmatch => ⟨⟨le_rfl, standsAt_append.2 hmatch⟩, fun _ hk => hk.1⟩
      rw [List.reverse_cons, List.append_assoc, List.singleton_append,
        List.length_cons] at hlater
      refine ⟨⟨Nat.le_of_succ_le hlater.1.1, hlater.1.2⟩,
        fun k ⟨hk, hstands⟩ => hlater.2 ⟨?_, hstands⟩⟩
      refine Nat.lt_of_le_of_ne hk ?_
      rintro rfl
      exact hmatch (standsAt_append.1 hstands)

theorem exists_positionFrom? (hn : before.length ≤ n)
    (h : p.StandsAt (before.reverse ++ rest) n) :
    ∃ k, p.positionFrom? before rest = some k := by
  induction rest generalizing before with
  | nil =>
    have hlength := h.1
    rw [List.append_nil, List.length_reverse] at hlength
    obtain rfl := Nat.le_antisymm hlength hn
    exact ⟨_, by rw [positionFrom?, if_pos (standsAt_append.1 h)]⟩
  | cons c rest ih =>
    rw [positionFrom?]
    split
    · exact ⟨_, rfl⟩
    next hmatch =>
      refine ih (Nat.lt_of_le_of_ne hn ?_) ?_
      · rintro rfl
        exact hmatch (standsAt_append.1 h)
      · rwa [List.reverse_cons, List.append_assoc]

theorem isLeast_of_position? (h : p.position? text = some n) :
    IsLeast {n | p.StandsAt text.toList n} n := by
  have hleast := isLeast_positionFrom? h
  exact ⟨hleast.1.2, fun k hk => hleast.2 ⟨Nat.zero_le k, hk⟩⟩

theorem exists_position? (h : p.StandsAt text.toList n) : ∃ k, p.position? text = some k := by
  have hstart : p.StandsAt (List.reverse [] ++ text.toList) n := h
  exact exists_positionFrom? (Nat.zero_le n) hstart

theorem position?_ofRegex (source : String) (r : Regex) (text : String) :
    (ofRegex source r).position? text = (r.search text).map (·.position) := by
  have hhere {c : Cursor} {found : Option Regex.Match} {place : Option Nat}
      (hlater : place = found.map (·.position)) :
      (if (ofRegex source r).matchesAt c then some c.before.length else place) =
        ((r.matchAt c).or found).map (·.position) := by
    cases hmatch : r.matchAt c with
    | none => simpa [ofRegex, hmatch] using hlater
    | some m => simp [ofRegex, hmatch, Regex.Match.position, Regex.start_of_matchAt hmatch]
  have hfrom (rest before : List Char) :
      (ofRegex source r).positionFrom? before rest =
        (r.searchFrom before rest).map (·.position) := by
    induction rest generalizing before with
    | nil =>
      rw [positionFrom?, Regex.searchFrom, ← Option.or_none (o := r.matchAt _)]
      exact hhere (c := ⟨before, []⟩) rfl
    | cons c rest ih =>
      rw [positionFrom?, Regex.searchFrom_cons]
      exact hhere (c := ⟨before, c :: rest⟩) (ih (c :: before))
  exact hfrom text.toList []

example :
    let box := ofRegex "\\bbox\\b" (.inOrder [.boundary, .caseless "box", .boundary])
    (box.position? "a toolbox", box.position? "a tool box") = (none, some 7) := by
  decide +kernel

inductive Fits : List TermPiece → List Char → Prop where
  | nil : Fits [] []
  | letter {a b : Char} {pieces : List TermPiece} {x : List Char} :
      sameLetter a b = true → Fits pieces x → Fits (.letter a :: pieces) (b :: x)
  | gap {g : List Char} {pieces : List TermPiece} {x : List Char} :
      (∀ b ∈ g, isBlank b = true) → Fits pieces x → Fits (.gap :: pieces) (g ++ x)

theorem exists_takes_iff :
    (ofPieces source pieces).matchesAt c = true ↔ ∃ x d, Fits pieces x ∧ c.Goes x d := by
  rw [ofPieces, ofRegex, Regex.isSome_matchAt_iff, exists_comm]
  refine exists_congr fun d => ?_
  induction pieces generalizing c with
  | nil =>
    rw [List.map_nil, Regex.takes_inOrder_nil]
    constructor
    · exact fun hgoes => ⟨[], .nil, hgoes⟩
    · rintro ⟨x, hx, hgoes⟩
      cases hx
      exact hgoes
  | cons piece pieces ih =>
    rw [List.map_cons, Regex.takes_inOrder_cons]
    simp only [ih]
    cases piece with
    | letter a =>
      constructor
      · rintro ⟨m, ⟨b, hb, hhere⟩, x, hx, hlater⟩
        exact ⟨b :: x, .letter hb hx, hhere.trans hlater⟩
      · rintro ⟨_, hx, hgoes⟩
        cases hx with
        | @letter _ b _ x hb hx =>
          obtain ⟨m, hhere, hlater⟩ :=
            Cursor.goes_append_iff.1 (show c.Goes ([b] ++ x) d from hgoes)
          exact ⟨m, ⟨b, hb, hhere⟩, x, hx, hlater⟩
    | gap =>
      constructor
      · rintro ⟨m, ⟨g, hg, hhere⟩, x, hx, hlater⟩
        exact ⟨g ++ x, .gap hg hx, hhere.trans hlater⟩
      · rintro ⟨_, hx, hgoes⟩
        cases hx with
        | gap hg hx =>
          obtain ⟨m, hhere, hlater⟩ := Cursor.goes_append_iff.1 hgoes
          exact ⟨m, ⟨_, hg, hhere⟩, _, hx, hlater⟩

/-- Pieces match where they are written, letters in any case and any white space for a gap. -/
theorem exists_standsAt_ofPieces {text : List Char} :
    (∃ n, (ofPieces source pieces).StandsAt text n) ↔ ∃ x, Fits pieces x ∧ x <:+: text := by
  constructor
  · rintro ⟨n, -, hmatch⟩
    obtain ⟨x, d, hx, hgoes⟩ := exists_takes_iff.1 hmatch
    refine ⟨x, hx, text.take n, d.after, ?_⟩
    rw [List.append_assoc, ← hgoes.after]
    exact List.take_append_drop n text
  · rintro ⟨x, hx, before, after, rfl⟩
    refine ⟨before.reverse.length, ?_⟩
    rw [List.append_assoc, ← List.reverse_reverse before, List.reverse_reverse before.reverse]
    exact standsAt_append.2 (exists_takes_iff.2 ⟨x, ⟨x.reverse ++ before.reverse, after⟩, hx,
      rfl, rfl⟩)

def isSolidPiece : TermPiece → Bool
  | .letter a => !isBlank a
  | .gap => true

theorem exists_pieces_freight {product : Product}
    (hproduct : product ∈ Catalog.freight.products) (hp : p ∈ product.patterns) :
    ∃ source pieces, p = ofPieces source pieces ∧
      (∀ piece ∈ pieces, isSolidPiece piece = true) ∧ ∃ piece ∈ pieces, piece ≠ .gap := by
  simp only [Catalog.freight, Catalog.freightProducts, Catalog.freightProduct, List.mem_cons,
    List.not_mem_nil, or_false] at hproduct
  obtain rfl | rfl | rfl | rfl := hproduct <;>
    obtain rfl := List.mem_singleton.1 hp <;>
    exact ⟨_, _, rfl, by decide +kernel, by decide +kernel⟩

end TermPattern

namespace Product

variable {p : Product} {text : String} {n : Nat}

theorem isLeast_of_position? (h : p.position? text = some n) :
    IsLeast {n | p.StandsAt text.toList n} n := by
  obtain ⟨hn, hle⟩ := List.min?_eq_some_iff.1 h
  obtain ⟨pattern, hpattern, hposition⟩ := List.mem_filterMap.1 hn
  refine ⟨⟨pattern, hpattern, (TermPattern.isLeast_of_position? hposition).1⟩, ?_⟩
  rintro k ⟨other, hother, hk⟩
  obtain ⟨earliest, hearliest⟩ := TermPattern.exists_position? hk
  have hfirst := (TermPattern.isLeast_of_position? hearliest).2 hk
  exact (hle earliest (List.mem_filterMap.2 ⟨other, hother, hearliest⟩)).trans hfirst

theorem exists_position? (h : p.StandsIn text.toList) : ∃ k, p.position? text = some k := by
  obtain ⟨n, pattern, hpattern, hn⟩ := h
  obtain ⟨k, hk⟩ := TermPattern.exists_position? hn
  rw [← Option.isSome_iff_exists, position?, List.isSome_min?_iff]
  exact List.ne_nil_of_mem (List.mem_filterMap.2 ⟨pattern, hpattern, hk⟩)

theorem position?_eq_some_iff :
    p.position? text = some n ↔ IsLeast {n | p.StandsAt text.toList n} n := by
  refine ⟨isLeast_of_position?, fun h => ?_⟩
  obtain ⟨k, hk⟩ := exists_position? ⟨n, h.1⟩
  rw [hk, (isLeast_of_position? hk).unique h]

theorem isSome_position?_iff : (p.position? text).isSome = true ↔ p.StandsIn text.toList := by
  rw [Option.isSome_iff_exists]
  exact ⟨fun ⟨k, hk⟩ => ⟨k, (isLeast_of_position? hk).1⟩, exists_position?⟩

instance (p : Product) (cs : List Char) : Decidable (p.StandsIn cs) :=
  decidable_of_iff ((p.position? (String.ofList cs)).isSome = true) (by
    rw [isSome_position?_iff, String.toList_ofList])

end Product

end PromptChart
