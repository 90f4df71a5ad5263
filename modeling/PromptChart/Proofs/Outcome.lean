import Mathlib.Data.List.Forall2

namespace PromptChart

universe u

variable {ε α β : Type u}

@[simp] theorem ok_bind (a : α) (f : α → Except ε β) : (Except.ok a >>= f) = f a := rfl

@[simp] theorem error_bind (e : ε) (f : α → Except ε β) : (Except.error e >>= f) = .error e :=
  rfl

@[simp] theorem pure_eq_ok (a : α) : (pure a : Except ε α) = .ok a := rfl

@[simp] theorem map_ok (f : α → β) (a : α) : f <$> (Except.ok a : Except ε α) = .ok (f a) := rfl

@[simp] theorem map_error (f : α → β) (e : ε) :
    f <$> (Except.error e : Except ε α) = .error e := rfl

theorem bind_eq_ok {x : Except ε α} {f : α → Except ε β} {b : β} :
    (x >>= f) = .ok b ↔ ∃ a, x = .ok a ∧ f a = .ok b := by
  cases x with
  | error e => simp
  | ok a => simp

theorem map_eq_ok {x : Except ε α} {f : α → β} {b : β} :
    f <$> x = .ok b ↔ ∃ a, x = .ok a ∧ f a = b := by
  cases x with
  | error e => simp
  | ok a => simp

theorem exists_map_eq_ok {x : Except ε α} {f : α → β} :
    (∃ b, f <$> x = .ok b) ↔ ∃ a, x = .ok a := by
  cases x with
  | error e => simp
  | ok a => simp

theorem exists_map_eq_error {x : Except ε α} {f : α → β} :
    (∃ e, f <$> x = .error e) ↔ ∃ e, x = .error e := by
  cases x with
  | error e => exact iff_of_true ⟨e, rfl⟩ ⟨e, rfl⟩
  | ok a => exact iff_of_false nofun nofun

theorem eq_of_map_eq {x y : Except ε α} {f g : α → β} (h : f <$> x = g <$> y)
    (hok : ∀ a b, x = .ok a → y = .ok b → f a = g b → a = b) : x = y := by
  cases x with
  | error e =>
    cases y with
    | error e' => exact congrArg Except.error (Except.error.inj h)
    | ok b => cases h
  | ok a =>
    cases y with
    | error e' => cases h
    | ok b => exact congrArg Except.ok (hok a b rfl rfl (Except.ok.inj h))

theorem exists_of_toOption_map {x : Except ε α} {f : α → β} {b : β}
    (h : x.toOption.map f = some b) :
    ∃ a, x = .ok a ∧ f a = b := by
  cases x with
  | error e => cases h
  | ok a => exact ⟨a, rfl, Option.some.inj h⟩

theorem mapM_eq_ok {f : α → Except ε β} {as : List α} {bs : List β} :
    as.mapM f = .ok bs ↔ List.Forall₂ (fun a b => f a = .ok b) as bs := by
  induction as generalizing bs with
  | nil => simp [eq_comm]
  | cons a as ih =>
    simp only [List.mapM_cons, bind_eq_ok, pure_eq_ok, Except.ok.injEq, ih,
      List.forall₂_cons_left_iff]
    constructor
    · rintro ⟨b, hb, bs, hbs, rfl⟩
      exact ⟨b, bs, hb, hbs, rfl⟩
    · rintro ⟨b, bs, hb, hbs, rfl⟩
      exact ⟨b, hb, bs, hbs, rfl⟩

theorem mapM_eq_ok_map {f : α → Except ε β} {g : α → β} {as : List α}
    (h : ∀ a ∈ as, f a = .ok (g a)) :
    as.mapM f = .ok (as.map g) := by
  rw [mapM_eq_ok, List.forall₂_map_right_iff, List.forall₂_same]
  exact h

theorem exists_mapM_iff {f : α → Except ε β} {as : List α} :
    (∃ bs, as.mapM f = .ok bs) ↔ ∀ a ∈ as, ∃ b, f a = .ok b := by
  induction as with
  | nil => simp
  | cons a as ih =>
    simp only [List.mapM_cons, bind_eq_ok, pure_eq_ok, Except.ok.injEq, List.forall_mem_cons,
      ← ih]
    constructor
    · rintro ⟨_, b, hb, bs, hbs, rfl⟩
      exact ⟨⟨b, hb⟩, bs, hbs⟩
    · rintro ⟨⟨b, hb⟩, bs, hbs⟩
      exact ⟨_, b, hb, bs, hbs, rfl⟩

theorem mapM_filter {f : α → Except ε β} {as : List α} {bs : List β} {p : α → Bool}
    {q : β → Bool} (h : as.mapM f = .ok bs) (hpq : ∀ a b, f a = .ok b → p a = q b) :
    (as.filter p).mapM f = .ok (bs.filter q) := by
  rw [mapM_eq_ok] at h ⊢
  induction h with
  | nil => exact .nil
  | @cons a b as bs hab _ ih =>
    cases hp : p a with
    | true =>
      rw [List.filter_cons_of_pos hp, List.filter_cons_of_pos ((hpq a b hab).symm.trans hp)]
      exact .cons hab ih
    | false =>
      have hq : q b = false := (hpq a b hab).symm.trans hp
      rw [List.filter_cons_of_neg (Bool.eq_false_iff.1 hp),
        List.filter_cons_of_neg (Bool.eq_false_iff.1 hq)]
      exact ih

theorem exists_left_of_forall₂ {r : α → β → Prop} {as : List α} {bs : List β}
    (h : List.Forall₂ r as bs) {b : β} (hb : b ∈ bs) : ∃ a ∈ as, r a b := by
  induction h with
  | nil => cases hb
  | cons hab _ ih =>
    cases hb with
    | head => exact ⟨_, .head _, hab⟩
    | tail _ hb =>
      obtain ⟨a, ha, he⟩ := ih hb
      exact ⟨a, .tail _ ha, he⟩

theorem forall₂_and {r q : α → β → Prop} {as : List α} {bs : List β} (hr : List.Forall₂ r as bs)
    (hq : List.Forall₂ q as bs) : List.Forall₂ (fun a b => r a b ∧ q a b) as bs := by
  induction hr with
  | nil => exact .nil
  | cons hab _ ih =>
    cases hq with
    | cons hab' hq => exact .cons ⟨hab, hab'⟩ (ih hq)

theorem exists_of_mem_mapM {f : α → Except ε β} {as : List α} {bs : List β}
    (h : as.mapM f = .ok bs) {b : β} (hb : b ∈ bs) : ∃ a ∈ as, f a = .ok b :=
  exists_left_of_forall₂ (mapM_eq_ok.1 h) hb

theorem exists_mem_of_mapM {f : α → Except ε β} {as : List α} {bs : List β}
    (h : as.mapM f = .ok bs) {a : α} (ha : a ∈ as) : ∃ b ∈ bs, f a = .ok b :=
  exists_left_of_forall₂ (mapM_eq_ok.1 h).flip ha

theorem foldlM_eq_ok_foldl {f : β → α → Except ε β} {g : β → α → β} {as : List α}
    (h : ∀ b, ∀ a ∈ as, f b a = .ok (g b a)) (b : β) : as.foldlM f b = .ok (as.foldl g b) := by
  induction as generalizing b with
  | nil => rfl
  | cons a as ih =>
    rw [List.foldlM_cons, h b a (.head _), ok_bind, ih (fun b a ha => h b a (.tail _ ha)),
      List.foldl_cons]

theorem foldlM_concat (f : β → α → Except ε β) (b : β) (as : List α) (a : α) :
    (as ++ [a]).foldlM f b = as.foldlM f b >>= (f · a) := by
  rw [List.foldlM_append]
  simp only [List.foldlM_cons, List.foldlM_nil, bind_pure]

theorem foldlM_perm {f : β → α → Except ε β} {as as' : List α} (h : as.Perm as')
    (hcomm : ∀ b a a', (f b a >>= (f · a')) = f b a' >>= (f · a)) (b : β) :
    as.foldlM f b = as'.foldlM f b := by
  induction h generalizing b with
  | nil => rfl
  | cons a _ ih =>
    rw [List.foldlM_cons, List.foldlM_cons]
    congr 1
    funext b'
    exact ih b'
  | swap a a' as =>
    simp only [List.foldlM_cons]
    rw [← bind_assoc, hcomm, bind_assoc]
  | trans _ _ ih ih' => exact (ih b).trans (ih' b)

/-- A computation fails, if at all, in certain ways. -/
def FailsOnly (p : ε → Prop) (x : Except ε α) : Prop := ∀ e, x = .error e → p e

section

variable {p q : ε → Prop}

theorem failsOnly_ok (a : α) : FailsOnly p (.ok a : Except ε α) := nofun

theorem failsOnly_error {e : ε} (h : p e) : FailsOnly p (.error e : Except ε α) := by
  rintro _ ⟨⟩
  exact h

theorem FailsOnly.mono {x : Except ε α} (hx : FailsOnly p x) (h : ∀ e, p e → q e) :
    FailsOnly q x :=
  fun e he => h e (hx e he)

theorem FailsOnly.bind {x : Except ε α} {f : α → Except ε β} (hx : FailsOnly p x)
    (hf : ∀ a, x = .ok a → FailsOnly p (f a)) : FailsOnly p (x >>= f) := by
  intro e he
  cases x with
  | error e' => exact hx e (by cases he; rfl)
  | ok a => exact hf a rfl e he

theorem FailsOnly.map {x : Except ε α} (hx : FailsOnly p x) (f : α → β) :
    FailsOnly p (f <$> x) := by
  intro e he
  cases x with
  | error e' => exact hx e (by cases he; rfl)
  | ok a => cases he

theorem failsOnly_mapM {f : α → Except ε β} {as : List α} (h : ∀ a ∈ as, FailsOnly p (f a)) :
    FailsOnly p (as.mapM f) := by
  induction as with
  | nil => exact failsOnly_ok []
  | cons a as ih =>
    obtain ⟨ha, has⟩ := List.forall_mem_cons.1 h
    rw [List.mapM_cons]
    exact ha.bind fun b _ => (ih has).bind fun bs _ => failsOnly_ok (b :: bs)

theorem failsOnly_foldlM {f : β → α → Except ε β} {as : List α}
    (h : ∀ b, ∀ a ∈ as, FailsOnly p (f b a)) (b : β) : FailsOnly p (as.foldlM f b) := by
  induction as generalizing b with
  | nil => exact failsOnly_ok b
  | cons a as ih =>
    rw [List.foldlM_cons]
    exact (h b a (.head as)).bind fun b' _ => ih (fun b a ha => h b a (.tail _ ha)) b'

theorem failsOnly_forIn {f : α → β → Except ε (ForInStep β)} {as : List α}
    (h : ∀ a ∈ as, ∀ b, FailsOnly p (f a b)) {b : β} :
    FailsOnly p (forIn as b f) := by
  induction as generalizing b with
  | nil => exact failsOnly_ok b
  | cons a as ih =>
    obtain ⟨ha, has⟩ := List.forall_mem_cons.1 h
    rw [List.forIn_cons]
    refine (ha b).bind fun next _ => ?_
    cases next with
    | done b' => exact failsOnly_ok b'
    | yield b' => exact ih has

end

theorem forIn_eq_ok {f : α → Except ε β} {as : List α} {u : PUnit} :
    (forIn as PUnit.unit fun a _ => f a >>= fun _ => .ok (.yield PUnit.unit)) =
      (.ok u : Except ε PUnit) ↔ ∀ a ∈ as, ∃ b, f a = .ok b := by
  induction as with
  | nil => simp
  | cons a as ih =>
    simp only [List.forIn_cons, bind_assoc, bind_eq_ok, ok_bind, ih, List.forall_mem_cons]
    constructor
    · rintro ⟨b, hb, hrest⟩
      exact ⟨⟨b, hb⟩, hrest⟩
    · rintro ⟨⟨b, hb⟩, hrest⟩
      exact ⟨b, hb, hrest⟩

end PromptChart
