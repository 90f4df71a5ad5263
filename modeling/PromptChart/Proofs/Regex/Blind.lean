import PromptChart.Proofs.Regex.Preferred
import PromptChart.Proofs.Text.Respaced

namespace PromptChart.Regex

open Text (IsGap IsSolid IsPhrase Respaced SameLetters isBlank isWord isStart sameLetter)

/-- Two stretches before a place, the nearest character first, with as many characters that are
no white space. -/
structure Level (x y : List Char) : Prop where
  count : x.countP (fun c => !isBlank c) = y.countP fun c => !isBlank c
  blank : x.head?.any isBlank = y.head?.any isBlank
  word : x.head?.any isWord = y.head?.any isWord

/-- Two places in respaced texts, with the same captures. -/
structure Same (phrases : List String) (s t : State) : Prop where
  before : Level s.cursor.before t.cursor.before
  after : Respaced phrases s.cursor.after t.cursor.after
  texts : s.texts = t.texts

/-- Two such places, reached from two others over the same text. -/
structure Along (phrases : List String) (s t e f : State) : Prop extends Same phrases e f where
  taken : ∃ x, s.cursor.Goes x e.cursor ∧ t.cursor.Goes x f.cursor

/-- A place inside a gap, between its start and its end. -/
inductive Inside : State → State → State → Prop where
  | intro (before : List Char) {x y u : List Char} (captures : List Capture) :
      IsGap x → IsGap y → (∀ a ∈ u.head?, isBlank a = false) →
      Inside ⟨⟨before, x ++ (y ++ u)⟩, captures⟩ ⟨⟨x.reverse ++ before, y ++ u⟩, captures⟩
        ⟨⟨y.reverse ++ (x.reverse ++ before), u⟩, captures⟩

/-- A gap from its start, or from a place inside it, to its end. -/
inductive Spans : State → State → Prop where
  | intro (before : List Char) {g u : List Char} (captures : List Capture) :
      IsGap g → (∀ a ∈ u.head?, isBlank a = false) →
      Spans ⟨⟨before, g ++ u⟩, captures⟩ ⟨⟨g.reverse ++ before, u⟩, captures⟩

/-- What is made of a place does not depend on the amount of white space. -/
structure Agree {β : Type} (phrases : List String) (k : State → Option β) : Prop where
  same : ∀ {s t}, Same phrases s t → k s = k t
  start : ∀ {s i e}, Inside s i e → k s = none → k i = none
  stop : ∀ {s i e}, Inside s i e → k e = none → k i = none ∨ k i = k s

/-- What is made of the ends of an expression: the first of them of which something is made. -/
def andThen {β : Type} (r : Regex) (k : State → Option β) (s : State) : Option β :=
  (r.ends s).findSome? k

/-- An expression before something that does not depend on the amount of white space. -/
def Blind (phrases : List String) (r : Regex) : Prop :=
  ∀ ⦃β : Type⦄ ⦃k : State → Option β⦄, Agree phrases k → Agree phrases (r.andThen k)

/-- An expression that cannot start with white space or be empty before it. -/
def Firm (r : Regex) : Prop :=
  ∀ s : State, s.cursor.after.head?.any isBlank = true → r.ends s = []

/-- An expression that takes the same from respaced texts, and no white space but that of the
phrases. -/
def Steady (phrases : List String) (r : Regex) : Prop :=
  ∀ ⦃s t⦄, Same phrases s t → List.Forall₂ (Along phrases s t) (r.ends s) (r.ends t)

variable {β : Type} {phrases : List String} {r first second body : Regex} {rs : List Regex}
  {s t e f i : State} {k : State → Option β} {accepts : Char → Bool} {index : Nat}
  {before u v g w x y : List Char} {a : Char}

theorem andThen_seq :
    (Regex.seq first second).andThen k = first.andThen (second.andThen k) := by
  funext s
  rw [andThen, andThen, ends]
  induction first.ends s with
  | nil => rfl
  | cons m rest ih =>
    rw [List.flatMap_cons, List.findSome?_append, ih, List.findSome?_cons, andThen]
    cases (second.ends m).findSome? k <;> rfl

theorem andThen_alt :
    (Regex.alt first second).andThen k s = (first.andThen k s).or (second.andThen k s) := by
  rw [andThen, ends, List.findSome?_append]
  rfl

theorem andThen_of_firm (h : r.Firm) (hs : s.cursor.after.head?.any isBlank = true) :
    r.andThen k s = none := by
  rw [andThen, h s hs]
  rfl

theorem Inside.spans_start (h : Inside s i e) : Spans s e := by
  obtain ⟨_, captures, hx, hy, hu⟩ := h
  rw [← List.append_assoc, ← List.append_assoc, ← List.reverse_append]
  refine .intro _ captures ⟨List.append_ne_nil_of_left_ne_nil hx.ne_nil _, fun c hc => ?_⟩ hu
  exact (List.mem_append.1 hc).elim (hx.blank c) (hy.blank c)

theorem Inside.spans (h : Inside s i e) : Spans i e := by
  obtain ⟨_, captures, _, hy, hu⟩ := h
  exact .intro _ captures hy hu

theorem Spans.blank (h : Spans s e) : s.cursor.after.head?.any isBlank = true := by
  obtain ⟨_, _, hg, _⟩ := h
  obtain ⟨b, rest, rfl, hb, -⟩ := hg.exists_cons
  exact hb

theorem any_head_eq_false (hu : ∀ a ∈ u.head?, isBlank a = false) :
    u.head?.any isBlank = false := by
  cases u with
  | nil => rfl
  | cons a u => exact hu a rfl

theorem Spans.not_blank (h : Spans s e) : e.cursor.after.head?.any isBlank = false := by
  obtain ⟨_, _, _, hu⟩ := h
  exact any_head_eq_false hu

theorem Firm.forall₂ {related : State → State → Prop} (h : r.Firm)
    (hs : s.cursor.after.head?.any isBlank = true)
    (ht : t.cursor.after.head?.any isBlank = true) :
    List.Forall₂ related (r.ends s) (r.ends t) := by
  rw [h s hs, h t ht]
  exact .nil

theorem findSome?_eq_of_forall₂ {l m : List State} (h : List.Forall₂ (Along phrases s t) l m)
    (hk : Agree phrases k) :
    l.findSome? k = m.findSome? k := by
  induction h with
  | nil => rfl
  | cons hhere _ ih => rw [List.findSome?_cons, List.findSome?_cons, hk.same hhere.toSame, ih]

theorem Steady.blind (h : Steady phrases r) (hfirm : r.Firm) : Blind phrases r := by
  intro β k hk
  refine ⟨fun hst => findSome?_eq_of_forall₂ (h hst) hk, fun hinside _ => ?_,
    fun hinside _ => .inl ?_⟩
  · exact andThen_of_firm hfirm hinside.spans.blank
  · exact andThen_of_firm hfirm hinside.spans.blank

theorem Along.refl (h : Same phrases s t) : Along phrases s t s t :=
  ⟨h, [], Cursor.goes_nil_iff.2 rfl, Cursor.goes_nil_iff.2 rfl⟩

theorem Along.trans {m n : State} (h : Along phrases s t m n) (h' : Along phrases m n e f) :
    Along phrases s t e f := by
  obtain ⟨x, hx, hx'⟩ := h.taken
  obtain ⟨y, hy, hy'⟩ := h'.taken
  exact ⟨h'.toSame, x ++ y, hx.trans hy, hx'.trans hy'⟩

theorem Steady.seq (hfirst : Steady phrases first) (hsecond : Steady phrases second) :
    Steady phrases (.seq first second) := by
  intro s t hst
  rw [ends, ends]
  have hmiddle := hfirst hst
  generalize first.ends s = l at hmiddle ⊢
  generalize first.ends t = m at hmiddle ⊢
  induction hmiddle with
  | nil => exact .nil
  | cons hhere _ ih =>
    rw [List.flatMap_cons, List.flatMap_cons]
    exact List.rel_append ((hsecond hhere.toSame).imp fun _ _ h => hhere.trans h) ih

theorem Steady.alt (hfirst : Steady phrases first) (hsecond : Steady phrases second) :
    Steady phrases (.alt first second) :=
  fun _ _ hst => List.rel_append (hfirst hst) (hsecond hst)

theorem Steady.group (hbody : Steady phrases body) : Steady phrases (.group index body) := by
  intro s t hst
  rw [ends, ends, List.forall₂_map_left_iff, List.forall₂_map_right_iff]
  refine (hbody hst).imp fun e f h => ?_
  obtain ⟨x, hx, hx'⟩ := h.taken
  refine ⟨⟨h.before, h.after, ?_⟩, x, hx, hx'⟩
  have htexts := h.texts
  rw [State.texts, State.texts] at htexts ⊢
  rw [List.map_cons, List.map_cons, htexts, Capture.text, Capture.text, hx.textTo, hx'.textTo]

theorem Level.cons (a : Char) (h : Level x y) : Level (a :: x) (a :: y) := by
  refine ⟨?_, rfl, rfl⟩
  rw [List.countP_cons, List.countP_cons, h.count]

theorem Level.append (w : List Char) (h : Level x y) : Level (w ++ x) (w ++ y) := by
  induction w with
  | nil => exact h
  | cons a w ih => exact ih.cons a

theorem exists_head_reverse (hg : IsGap g) (x : List Char) :
    ∃ c, isBlank c = true ∧ (g.reverse ++ x).head? = some c := by
  obtain ⟨c, hlast, hc⟩ := hg.exists_getLast?
  refine ⟨c, hc, ?_⟩
  rwa [List.head?_append_of_ne_nil _ (mt List.reverse_eq_nil_iff.1 hg.ne_nil),
    List.head?_reverse]

theorem Level.gap (hg : IsGap g) (hw : IsGap w) (h : Level x y) :
    Level (g.reverse ++ x) (w.reverse ++ y) := by
  have hcount {g x : List Char} (hg : IsGap g) :
      (g.reverse ++ x).countP (fun c => !isBlank c) = x.countP fun c => !isBlank c := by
    rw [List.countP_append, List.countP_eq_zero.2, Nat.zero_add]
    intro c hc
    rw [hg.blank c (List.mem_reverse.1 hc)]
    exact Bool.false_ne_true
  obtain ⟨c, hc, hcg⟩ := exists_head_reverse hg x
  obtain ⟨d, hd, hdw⟩ := exists_head_reverse hw y
  refine ⟨by rw [hcount hg, hcount hw, h.count], ?_, ?_⟩
  · rw [hcg, hdw, Option.any_some, Option.any_some, hc, hd]
  · rw [hcg, hdw, Option.any_some, Option.any_some, Text.isWord_of_isBlank hc,
      Text.isWord_of_isBlank hd]

def IsClear (accepts : Char → Bool) : Prop := ∀ a, accepts a = true → isBlank a = false

theorem IsClear.reject (h : IsClear accepts) (ha : isBlank a = true) : accepts a = false :=
  eq_false_of_ne_true fun haccepts => ne_true_of_eq_false (h a haccepts) ha

theorem firm_one (h : IsClear accepts) : (one accepts).Firm := by
  rintro ⟨⟨before, after⟩, captures⟩ hs
  cases after with
  | nil => cases hs
  | cons b rest => simp only [ends, h.reject hs, Bool.false_eq_true, ↓reduceIte]

theorem ends_one_cons (captures : List Capture) :
    (one accepts).ends ⟨⟨before, a :: u⟩, captures⟩ =
      if accepts a then [⟨⟨a :: before, u⟩, captures⟩] else [] := rfl

theorem steady_one (h : IsClear accepts) : Steady phrases (one accepts) := by
  rintro ⟨⟨before, u⟩, captures⟩ ⟨⟨before', v⟩, captures'⟩ ⟨hbefore, hafter, htexts⟩
  cases hafter with
  | nil => exact .nil
  | @char a u v ha hstart hrest =>
    rw [ends_one_cons, ends_one_cons]
    by_cases haccepts : accepts a = true
    · rw [if_pos haccepts, if_pos haccepts]
      refine .cons ⟨⟨hbefore.cons a, hrest, htexts⟩, [a], ?_, ?_⟩ .nil
      · exact Cursor.goes_cons_iff.2 ⟨rfl, Cursor.goes_nil_iff.2 rfl⟩
      · exact Cursor.goes_cons_iff.2 ⟨rfl, Cursor.goes_nil_iff.2 rfl⟩
    · rw [if_neg haccepts, if_neg haccepts]
      exact .nil
  | @gap x y u v hx hy hhead hrest =>
    obtain ⟨b, x, rfl, hb, -⟩ := hx.exists_cons
    obtain ⟨c, y, rfl, hc, -⟩ := hy.exists_cons
    exact (firm_one h).forall₂ hb hc

theorem runs_append_shorter (accepts : Char → Bool) (before u : List Char)
    (shorter : List Cursor) :
    runs accepts before shorter u = runs accepts before [] u ++ shorter := by
  induction u generalizing before shorter with
  | nil => rfl
  | cons c rest ih =>
    rw [runs, runs]
    split
    · rw [ih, ih (c :: before) [_], List.append_assoc]
      rfl
    · rfl

theorem ends_many_cons (captures : List Capture) :
    (many accepts).ends ⟨⟨before, a :: u⟩, captures⟩ =
      (if accepts a then (many accepts).ends ⟨⟨a :: before, u⟩, captures⟩ else []) ++
        [⟨⟨before, a :: u⟩, captures⟩] := by
  rw [ends, ends, runs]
  split
  · rw [runs_append_shorter, List.map_append]
    rfl
  · rfl

theorem steady_many (h : IsClear accepts) : Steady phrases (many accepts) := by
  rintro ⟨⟨before, u⟩, captures⟩ ⟨⟨before', v⟩, captures'⟩ ⟨hbefore, hafter, htexts⟩
  dsimp only at hbefore hafter
  induction hafter generalizing before before' with
  | nil => exact .cons (.refl ⟨hbefore, .nil, htexts⟩) .nil
  | @char a u v ha hstart hrest ih =>
    have hhere : Same phrases ⟨⟨before, a :: u⟩, captures⟩ ⟨⟨before', a :: v⟩, captures'⟩ :=
      ⟨hbefore, .char ha hstart hrest, htexts⟩
    rw [ends_many_cons, ends_many_cons]
    refine List.rel_append ?_ (.cons (.refl hhere) .nil)
    split
    next haccepts =>
      have hstep := steady_one h hhere
      rw [ends_one_cons, ends_one_cons, if_pos haccepts, if_pos haccepts] at hstep
      exact (ih _ _ (hbefore.cons a) htexts).imp fun _ _ hlater =>
        (List.forall₂_cons.1 hstep).1.trans hlater
    next => exact .nil
  | @gap x y u v hx hy hhead hrest =>
    obtain ⟨b, x, rfl, hb, hx'⟩ := hx.exists_cons
    obtain ⟨c, y, rfl, hc, hy'⟩ := hy.exists_cons
    have hhere : Same phrases ⟨⟨before, b :: x ++ u⟩, captures⟩ ⟨⟨before', c :: y ++ v⟩,
        captures'⟩ :=
      ⟨hbefore, .gap hx hy hhead hrest, htexts⟩
    rw [List.cons_append, List.cons_append, ends_many_cons, ends_many_cons, h.reject hb,
      h.reject hc]
    exact .cons (.refl hhere) .nil

theorem ends_caseless (word : String) (captures : List Capture) :
    (caseless word).ends ⟨⟨before, u⟩, captures⟩ =
      if isStart word.toList u then
        [⟨⟨(u.take word.toList.length).reverse ++ before, u.drop word.toList.length⟩, captures⟩]
      else [] := by
  rw [caseless]
  generalize word.toList = w
  induction w generalizing before u with
  | nil => rfl
  | cons a w ih =>
    rw [List.map_cons, ends_inOrder_cons]
    cases u with
    | nil => rfl
    | cons b u =>
      rw [ends_one_cons, isStart]
      cases sameLetter a b with
      | false => rfl
      | true =>
        rw [if_pos rfl, List.flatMap_singleton, ih, Bool.true_and, List.length_cons,
          List.take_succ_cons, List.drop_succ_cons, List.reverse_cons, List.append_assoc]
        rfl

theorem steady_phrase {phrase : String} (hphrase : IsPhrase phrase.toList)
    (hmem : phrase ∈ phrases) :
    Steady phrases (caseless phrase) := by
  rintro ⟨⟨before, u⟩, captures⟩ ⟨⟨before', v⟩, captures'⟩ ⟨hbefore, hafter, htexts⟩
  rw [ends_caseless, ends_caseless]
  by_cases hu : isStart phrase.toList u = true
  · obtain ⟨x, u', v', hx, rfl, rfl, hrest⟩ := Respaced.exists_phrase hphrase hmem hafter hu
    rw [if_pos hu, if_pos (Text.isStart_iff.2 ⟨x, v', hx, rfl⟩), hx.length_eq, List.take_left,
      List.take_left, List.drop_left, List.drop_left]
    exact .cons ⟨⟨hbefore.append _, hrest, htexts⟩, x, ⟨rfl, rfl⟩, ⟨rfl, rfl⟩⟩ .nil
  · have hv : ¬ isStart phrase.toList v = true := by
      intro hv
      obtain ⟨x, u', v', hx, rfl, rfl, -⟩ := Respaced.exists_phrase hphrase hmem hafter.symm hv
      exact hu (Text.isStart_iff.2 ⟨x, _, hx, rfl⟩)
    rw [if_neg hu, if_neg hv]
    exact .nil

theorem blind_empty : Blind phrases empty := by
  intro β k hk
  have hempty : (empty : Regex).andThen k = k := by
    funext s
    rw [andThen, ends, List.findSome?_singleton]
  rwa [hempty]

theorem Blind.seq (hfirst : Blind phrases first) (hsecond : Blind phrases second) :
    Blind phrases (.seq first second) := by
  intro β k hk
  rw [andThen_seq]
  exact hfirst (hsecond hk)

theorem Blind.alt (hfirst : Blind phrases first) (hfirm : first.Firm)
    (hsecond : Blind phrases second) :
    Blind phrases (.alt first second) := by
  intro β k hk
  have hf := hfirst hk
  have hs := hsecond hk
  refine ⟨fun hst => ?_, fun hinside hnone => ?_, fun hinside hnone => ?_⟩
  · rw [andThen_alt, andThen_alt, hf.same hst, hs.same hst]
  · rw [andThen_alt, Option.or_eq_none_iff] at hnone ⊢
    exact ⟨hf.start hinside hnone.1, hs.start hinside hnone.2⟩
  · rw [andThen_alt, Option.or_eq_none_iff] at hnone
    rw [andThen_alt, andThen_alt, andThen_of_firm hfirm hinside.spans.blank,
      andThen_of_firm hfirm hinside.spans_start.blank,
      Option.none_or, Option.none_or]
    exact hs.stop hinside hnone.2

theorem Inside.not_atBoundary (h : Inside s i e) : i.cursor.atBoundary = false := by
  obtain ⟨_, _, hx, hy, _⟩ := h
  obtain ⟨c, hc, hhead⟩ := exists_head_reverse hx _
  obtain ⟨d, rest, rfl, hd, -⟩ := hy.exists_cons
  rw [Cursor.atBoundary, hhead, Option.any_some, Text.isWord_of_isBlank hc]
  exact (congrArg (false != ·) (Text.isWord_of_isBlank hd)).trans rfl

theorem Respaced.isWord_head (h : Respaced phrases u v) :
    u.head?.any isWord = v.head?.any isWord := by
  cases h with
  | nil => rfl
  | char => rfl
  | gap hx hy _ _ =>
    obtain ⟨b, x, rfl, hb, -⟩ := hx.exists_cons
    obtain ⟨c, y, rfl, hc, -⟩ := hy.exists_cons
    exact (Text.isWord_of_isBlank hb).trans (Text.isWord_of_isBlank hc).symm

theorem andThen_boundary :
    boundary.andThen k s = if s.cursor.atBoundary then k s else none := by
  rw [andThen, ends]
  split
  · rw [List.findSome?_singleton]
  · rfl

theorem blind_boundary : Blind phrases boundary := by
  intro β k hk
  refine ⟨fun {s t} hst => ?_, fun hinside _ => ?_, fun hinside _ => .inl ?_⟩
  · have hboundary : s.cursor.atBoundary = t.cursor.atBoundary := by
      rw [Cursor.atBoundary, Cursor.atBoundary, hst.before.word, Respaced.isWord_head hst.after]
    rw [andThen_boundary, andThen_boundary, hboundary, hk.same hst]
  · rw [andThen_boundary, hinside.not_atBoundary]
    rfl
  · rw [andThen_boundary, hinside.not_atBoundary]
    rfl

theorem andThen_many_cons (captures : List Capture) :
    (many accepts).andThen k ⟨⟨before, a :: u⟩, captures⟩ =
      (if accepts a then (many accepts).andThen k ⟨⟨a :: before, u⟩, captures⟩ else none).or
        (k ⟨⟨before, a :: u⟩, captures⟩) := by
  rw [andThen, ends_many_cons, List.findSome?_append, List.findSome?_singleton]
  split <;> rfl

theorem andThen_gap_of_head (hs : s.cursor.after.head?.any isBlank = false) :
    gap.andThen k s = k s := by
  obtain ⟨⟨before, u⟩, captures⟩ := s
  cases u with
  | nil => exact List.findSome?_singleton
  | cons a u =>
    rw [gap, andThen_many_cons, show isBlank a = false from hs]
    rfl

theorem andThen_gap (hk : Agree phrases k) (h : Spans s e) :
    gap.andThen k s = (k e).or (k s) := by
  have hend := andThen_gap_of_head (k := k) h.not_blank
  obtain @⟨before, g, u, captures, hg, hu⟩ := h
  have hblank := hg.blank
  clear hg
  -- the induction lets the gap start later, and the place behind its first character is then
  -- inside the whole gap
  induction g generalizing before with
  | nil => exact hend.trans Option.or_self.symm
  | cons c g ih =>
    obtain ⟨hc, hrest⟩ := List.forall_mem_cons.1 hblank
    rw [List.reverse_cons, List.append_assoc, List.singleton_append] at hend ⊢
    rw [List.cons_append, gap, andThen_many_cons, if_pos hc, ← gap, ih (c :: before) hend hrest]
    by_cases hne : g = []
    · subst hne
      exact congrArg (Option.or · _) Option.or_self
    · have hinside := Inside.intro before captures ⟨List.cons_ne_nil c [], by simpa using hc⟩
        ⟨hne, hrest⟩ hu
      cases hlast : k ⟨⟨g.reverse ++ c :: before, u⟩, captures⟩ with
      | some b => rw [Option.some_or, Option.some_or]
      | none =>
        rw [Option.none_or, Option.none_or]
        rcases hk.stop hinside hlast with hnone | hsame
        · exact (congrArg (Option.or · _) hnone).trans Option.none_or
        · exact (congrArg (Option.or · _) hsame).trans Option.or_self

/-- In respaced texts there is a gap in both or in neither, and behind it the places are the
same again. -/
theorem Same.not_blank_or_spans (h : Same phrases s t) :
    (s.cursor.after.head?.any isBlank = false ∧ t.cursor.after.head?.any isBlank = false) ∨
      ∃ e f, Spans s e ∧ Spans t f ∧ Same phrases e f := by
  obtain ⟨⟨before, u⟩, captures⟩ := s
  obtain ⟨⟨before', v⟩, captures'⟩ := t
  obtain ⟨hbefore, hafter, htexts⟩ := h
  cases hafter with
  | nil => exact .inl ⟨rfl, rfl⟩
  | char ha _ _ => exact .inl ⟨ha, ha⟩
  | gap hx hy hhead hrest =>
    exact .inr ⟨_, _, .intro _ captures hx hhead,
      .intro _ captures' hy (Respaced.head hrest hhead), Level.gap hx hy hbefore, hrest, htexts⟩

theorem blind_gap : Blind phrases gap := by
  intro β k hk
  refine ⟨fun {s t} hst => ?_, fun hinside hnone => ?_, fun hinside hnone => ?_⟩
  · rcases hst.not_blank_or_spans with ⟨hs, ht⟩ | ⟨e, f, hs, ht, hef⟩
    · rw [andThen_gap_of_head hs, andThen_gap_of_head ht, hk.same hst]
    · rw [andThen_gap hk hs, andThen_gap hk ht, hk.same hef, hk.same hst]
  · rw [andThen_gap hk hinside.spans_start, Option.or_eq_none_iff] at hnone
    rw [andThen_gap hk hinside.spans, hnone.1, hk.start hinside hnone.2]
    rfl
  · rw [andThen_gap_of_head hinside.spans.not_blank] at hnone
    rw [andThen_gap hk hinside.spans, andThen_gap hk hinside.spans_start, hnone, Option.none_or,
      Option.none_or]
    exact hk.stop hinside hnone

theorem andThen_space_of_head (hs : s.cursor.after.head?.any isBlank = false) :
    space.andThen k s = none := by
  obtain ⟨⟨before, u⟩, captures⟩ := s
  cases u with
  | nil => rfl
  | cons a u =>
    rw [space, plus, andThen_seq, andThen, ends_one_cons, show isBlank a = false from hs]
    rfl

theorem andThen_space (hk : Agree phrases k)
    (hfirm : ∀ {s : State}, s.cursor.after.head?.any isBlank = true → k s = none)
    (h : Spans s e) : space.andThen k s = k e := by
  obtain @⟨before, g, u, captures, hg, hu⟩ := h
  obtain ⟨c, g, rfl, hc, hrest⟩ := hg.exists_cons
  have hone : space.andThen k ⟨⟨before, c :: (g ++ u)⟩, captures⟩ =
      gap.andThen k ⟨⟨c :: before, g ++ u⟩, captures⟩ := by
    rw [space, plus, andThen_seq, andThen, ends_one_cons, if_pos hc, List.findSome?_singleton]
    rfl
  rw [List.cons_append, hone, List.reverse_cons, List.append_assoc, List.singleton_append]
  by_cases hne : g = []
  · subst hne
    exact andThen_gap_of_head (any_head_eq_false hu)
  · have hspans := Spans.intro (c :: before) captures ⟨hne, hrest⟩ hu
    rw [andThen_gap hk hspans, hfirm hspans.blank, Option.or_none]

theorem Blind.space_seq (h : Blind phrases r) (hfirm : r.Firm) :
    Blind phrases (.seq space r) := by
  intro β k hk
  rw [andThen_seq]
  have hr := h hk
  have hnone {s : State} (hs : s.cursor.after.head?.any isBlank = true) :
      r.andThen k s = none :=
    andThen_of_firm hfirm hs
  refine ⟨fun {s t} hst => ?_, fun hinside hstart => ?_, fun hinside _ => .inr ?_⟩
  · rcases hst.not_blank_or_spans with ⟨hs, ht⟩ | ⟨e, f, hs, ht, hef⟩
    · rw [andThen_space_of_head hs, andThen_space_of_head ht]
    · rw [andThen_space hr hnone hs, andThen_space hr hnone ht, hr.same hef]
  · rw [andThen_space hr hnone hinside.spans_start] at hstart
    rw [andThen_space hr hnone hinside.spans, hstart]
  · rw [andThen_space hr hnone hinside.spans, andThen_space hr hnone hinside.spans_start]

end PromptChart.Regex
