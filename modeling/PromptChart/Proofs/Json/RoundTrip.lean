import PromptChart.Proofs.Entries
import PromptChart.Proofs.Json.Reader
import PromptChart.Proofs.Json.WrittenNumber

namespace PromptChart.Json

open Reader (isSpace openers skip value items members word? number?)

mutual

def isKeyed : Json → Bool
  | .array items => areKeyed items
  | .object members => decide (members.map (·.1)).Nodup && areMembersKeyed members
  | _ => true

def areKeyed : List Json → Bool
  | [] => true
  | j :: rest => j.isKeyed && areKeyed rest

def areMembersKeyed : List (String × Json) → Bool
  | [] => true
  | (_, j) :: rest => j.isKeyed && areMembersKeyed rest

end

variable {j : Json} {rest : List Char} {fuel : Nat}

theorem exists_sign (s : Bool) (l : Layout) :
    ∃ c cs, (if s then ['-'] else []) ++ l.chars = c :: cs ∧ c ∈ "-0123456789".toList := by
  obtain ⟨c, cs, hcons⟩ := List.exists_cons_of_ne_nil l.whole_ne_nil
  cases s with
  | true => exact ⟨'-', _, rfl, by decide⟩
  | false =>
    have hc : Reader.isDigit c = true := l.isDigit_whole c (hcons ▸ .head cs)
    refine ⟨c, _, by rw [Layout.chars, hcons]; rfl, ?_⟩
    exact .tail _ (Reader.mem_of_isDigit hc)

theorem exists_opener_of_layout (s : Bool) (l : Layout) :
    ∃ c cs, (if s then ['-'] else []) ++ l.chars = c :: cs ∧ c ∈ openers := by
  have hsigns : ∀ c ∈ "-0123456789".toList, c ∈ openers := by decide
  obtain ⟨c, cs, hcons, hc⟩ := exists_sign s l
  exact ⟨c, cs, hcons, hsigns c hc⟩

theorem exists_opener (j : Json) : ∃ c cs, j.writeChars = c :: cs ∧ c ∈ openers := by
  cases j with
  | null => exact ⟨'n', _, rfl, by decide⟩
  | bool b =>
    cases b with
    | true => exact ⟨'t', _, rfl, by decide⟩
    | false => exact ⟨'f', _, rfl, by decide⟩
  | int n =>
    obtain ⟨l, hwrite, -⟩ := exists_layout_of_int n
    obtain ⟨c, cs, hcons, hc⟩ := exists_opener_of_layout (n < 0) l
    refine ⟨c, cs, ?_, hc⟩
    rw [← hcons, writeChars, hwrite]
    simp only [decide_eq_true_eq]
  | float x =>
    cases x with
    | nan => exact ⟨'N', _, rfl, by decide⟩
    | infinite s =>
      cases s with
      | true => exact ⟨'-', _, rfl, by decide⟩
      | false => exact ⟨'I', _, rfl, by decide⟩
    | finite s i =>
      obtain ⟨l, hwrite, -⟩ := exists_layout_of_finite "NaN" "Infinity" s i
      rw [writeChars, hwrite]
      exact exists_opener_of_layout s l
  | text s => exact ⟨'"', _, rfl, by decide⟩
  | array items => exact ⟨'[', _, by rw [writeChars]; rfl, by decide⟩
  | object members => exact ⟨'{', _, by rw [writeChars]; rfl, by decide⟩

theorem skip_of_opener {c : Char} {cs : List Char} (h : c ∈ openers) :
    skip (c :: cs) = c :: cs := by
  have hspaces : ∀ c ∈ openers, isSpace c = false := by decide
  rw [skip, List.dropWhile_cons_of_neg (Bool.eq_false_iff.1 (hspaces c h))]

theorem skip_writeChars (j : Json) (rest : List Char) :
    skip (j.writeChars ++ rest) = j.writeChars ++ rest := by
  obtain ⟨c, cs, hcons, hc⟩ := exists_opener j
  rw [hcons, List.cons_append, skip_of_opener hc]

theorem value_of_found {c : Char} {cs : List Char} {found : Json × List Char}
    (h : c ∉ ['"', '[', '{']) (hfound : (word? (c :: cs) <|> number? (c :: cs)) = some found)
    (fuel : Nat) :
    value (fuel + 1) (c :: cs) = .ok found := by
  have hopens {d : Char} {ds : List Char} (hd : d ∈ ['"', '[', '{']) : c :: cs ≠ d :: ds := by
    rintro ⟨⟩
    exact h hd
  rw [value, hfound]
  · exact fun ds => hopens (by decide)
  · exact fun ds => hopens (by decide)
  · exact fun ds => hopens (by decide)

theorem value_layout (s : Bool) (l : Layout) (hrest : EndsNumber rest) (fuel : Nat) :
    value (fuel + 1) ((if s then ['-'] else []) ++ l.chars ++ rest) =
      .ok (l.value s, rest) := by
  have hsigns : ∀ c ∈ "-0123456789".toList, c ∉ ['"', '[', '{'] := by decide
  have hfound : (word? ((if s then ['-'] else []) ++ (l.chars ++ rest)) <|>
      number? ((if s then ['-'] else []) ++ (l.chars ++ rest))) = some (l.value s, rest) := by
    rw [word?_layout, number?_layout s l hrest]
    rfl
  obtain ⟨c, cs, hcons, hc⟩ := exists_sign s l
  rw [← List.append_assoc, hcons, List.cons_append] at hfound
  rw [hcons, List.cons_append]
  exact value_of_found (hsigns c hc) hfound fuel

theorem value_word {c : Char} {cs : List Char} (h : c ∉ ['"', '[', '{'])
    (hword : word? (c :: cs ++ rest) = some (j, rest)) (fuel : Nat) :
    value (fuel + 1) (c :: cs ++ rest) = .ok (j, rest) := by
  have hfound : (word? (c :: cs ++ rest) <|> number? (c :: cs ++ rest)) = some (j, rest) := by
    rw [hword]
    rfl
  exact value_of_found h hfound fuel

theorem writeText_append (s : String) (rest : List Char) :
    writeText s ++ rest = '"' :: (writtenIn s.toList ++ '"' :: rest) := by
  rw [writeText, List.cons_append, List.cons_append, List.append_assoc]
  rfl

theorem value_scalar (hitems : ∀ items, j ≠ .array items)
    (hmembers : ∀ members, j ≠ .object members) (hrest : EndsNumber rest) (fuel : Nat) :
    value (fuel + 1) (j.writeChars ++ rest) = .ok (j, rest) := by
  cases j with
  | null => exact value_word (by decide) rfl fuel
  | bool b =>
    cases b with
    | true => exact value_word (by decide) rfl fuel
    | false => exact value_word (by decide) rfl fuel
  | int n =>
    obtain ⟨l, hwrite, hvalue⟩ := exists_layout_of_int n
    have hread := value_layout (n < 0) l hrest fuel
    rw [hvalue] at hread
    simpa only [writeChars, hwrite, decide_eq_true_eq] using hread
  | float x =>
    cases x with
    | nan => exact value_word (by decide) rfl fuel
    | infinite s =>
      cases s with
      | true => exact value_word (by decide) rfl fuel
      | false => exact value_word (by decide) rfl fuel
    | finite s i =>
      obtain ⟨l, hwrite, hvalue⟩ := exists_layout_of_finite "NaN" "Infinity" s i
      rw [writeChars, hwrite, value_layout s l hrest, hvalue]
  | text s =>
    rw [writeChars, writeText_append, value, text_writtenIn]
    rfl
  | array items => exact absurd rfl (hitems items)
  | object members => exact absurd rfl (hmembers members)

variable {js : List Json} {ms : List (String × Json)} {key : String} {cs more : List Char}

theorem value_array {c : Char} (hc : c ∈ openers) (h : items fuel (c :: cs) = .ok (js, rest)) :
    value (fuel + 1) ('[' :: c :: cs) = .ok (.array js, rest) := by
  have hclosed : c ≠ ']' := by
    rintro rfl
    exact absurd hc (by decide)
  rw [value, skip_of_opener hc]
  split
  next he => exact absurd (List.cons.inj he).1 hclosed
  next =>
    rw [h]
    rfl

theorem value_object (h : members fuel ('"' :: cs) = .ok (ms, rest))
    (hkeys : (ms.map (·.1)).Nodup) :
    value (fuel + 1) ('{' :: '"' :: cs) = .ok (.object ms, rest) := by
  have hmembers : ofMembers ms = .object ms := by
    rw [ofMembers, Entries.ofList, Entries.foldl_put_eq_append (by simpa using hkeys),
      List.nil_append]
  have hvalue : value (fuel + 1) ('{' :: '"' :: cs) =
      (members fuel ('"' :: cs)).map fun r => (ofMembers r.1, r.2) := rfl
  rw [hvalue, h]
  exact congrArg (fun j => Except.ok (j, rest)) hmembers

theorem skip_mark {c : Char} (h : c ∈ [',', ':', ']', '}']) (cs : List Char) :
    skip (c :: cs) = c :: cs := by
  have hmarks : ∀ c ∈ [',', ':', ']', '}'], isSpace c = false := by decide
  rw [skip, List.dropWhile_cons_of_neg (Bool.eq_false_iff.1 (hmarks c h))]

theorem skip_space (h : skip more = more) : skip (' ' :: more) = more := h

theorem items_last (h : value fuel cs = .ok (j, ']' :: rest)) :
    items (fuel + 1) cs = .ok ([j], rest) := by
  simp only [items, h, ok_bind, skip_mark (c := ']') (by decide), pure_eq_ok]

theorem items_more (h : value fuel cs = .ok (j, ',' :: ' ' :: more)) (hskip : skip more = more)
    (hmore : items fuel more = .ok (js, rest)) : items (fuel + 1) cs = .ok (j :: js, rest) := by
  simp only [items, h, ok_bind, skip_mark (c := ',') (by decide), skip_space hskip, hmore,
    pure_eq_ok]

theorem members_last (hkey : Reader.text ('"' :: cs) cs = .ok (key, ':' :: ' ' :: more))
    (hskip : skip more = more) (h : value fuel more = .ok (j, '}' :: rest)) :
    members (fuel + 1) ('"' :: cs) = .ok ([(key, j)], rest) := by
  simp only [members, hkey, ok_bind, skip_mark (c := ':') (by decide), skip_space hskip, h,
    skip_mark (c := '}') (by decide), pure_eq_ok]

theorem members_more {again : List Char}
    (hkey : Reader.text ('"' :: cs) cs = .ok (key, ':' :: ' ' :: more))
    (hskip : skip more = more) (h : value fuel more = .ok (j, ',' :: ' ' :: again))
    (hagain : skip again = again) (hmore : members fuel again = .ok (ms, rest)) :
    members (fuel + 1) ('"' :: cs) = .ok ((key, j) :: ms, rest) := by
  simp only [members, hkey, ok_bind, skip_mark (c := ':') (by decide), skip_space hskip, h,
    skip_mark (c := ',') (by decide), skip_space hagain, hmore, pure_eq_ok]

theorem length_writeChars_pos (j : Json) : 0 < j.writeChars.length := by
  obtain ⟨c, cs, hcons, -⟩ := exists_opener j
  rw [hcons]
  exact Nat.succ_pos _

theorem endsNumber_mark {c : Char} (h : c ∈ [',', ':', ']', '}']) (cs : List Char) :
    EndsNumber (c :: cs) := by
  have hmarks : ∀ c ∈ [',', ':', ']', '}'], Reader.isDigit c = false ∧ c ∉ ['.', 'e', 'E'] := by
    decide
  rintro _ ⟨⟩
  exact hmarks c h

theorem writeItems_cons (j k : Json) (js : List Json) :
    writeItems (j :: k :: js) = j.writeChars ++ ',' :: ' ' :: writeItems (k :: js) := rfl

theorem writeMembers_cons (key : String) (j : Json) (m : String × Json)
    (ms : List (String × Json)) :
    writeMembers ((key, j) :: m :: ms) =
      writeText key ++ ':' :: ' ' :: (j.writeChars ++ ',' :: ' ' :: writeMembers (m :: ms)) :=
  List.append_assoc _ _ _

theorem exists_opener_of_items (j : Json) (js : List Json) :
    ∃ c cs, writeItems (j :: js) = c :: cs ∧ c ∈ openers := by
  obtain ⟨c, cs, hcons, hc⟩ := exists_opener j
  cases js with
  | nil => exact ⟨c, cs, hcons, hc⟩
  | cons k js => exact ⟨c, _, by rw [writeItems_cons, hcons, List.cons_append], hc⟩

theorem exists_quote_of_members (m : String × Json) (ms : List (String × Json)) :
    ∃ cs, writeMembers (m :: ms) = '"' :: cs := by
  cases ms with
  | nil => exact ⟨_, rfl⟩
  | cons m' ms => exact ⟨_, rfl⟩

theorem skip_writeItems (j : Json) (js : List Json) (rest : List Char) :
    skip (writeItems (j :: js) ++ rest) = writeItems (j :: js) ++ rest := by
  obtain ⟨c, cs, hcons, hc⟩ := exists_opener_of_items j js
  rw [hcons, List.cons_append, skip_of_opener hc]

theorem skip_writeMembers (m : String × Json) (ms : List (String × Json)) (rest : List Char) :
    skip (writeMembers (m :: ms) ++ rest) = writeMembers (m :: ms) ++ rest := by
  obtain ⟨cs, hcons⟩ := exists_quote_of_members m ms
  rw [hcons, List.cons_append, skip_of_opener (by decide)]

/-- So many steps are enough to read what is written for a value, for the items of a list and
for the members of an object, whatever stands behind it. -/
structure IsEnough (fuel : Nat) : Prop where
  value {j : Json} {rest : List Char} (h : j.isKeyed = true)
      (hfuel : 2 * j.writeChars.length ≤ fuel)
    (hrest : EndsNumber rest) : value fuel (j.writeChars ++ rest) = .ok (j, rest)
  items {j : Json} {js : List Json} {rest : List Char} (h : areKeyed (j :: js) = true)
    (hfuel : 2 * (writeItems (j :: js)).length + 1 ≤ fuel) :
    items fuel (writeItems (j :: js) ++ ']' :: rest) = .ok (j :: js, rest)
  members {m : String × Json} {ms : List (String × Json)} {rest : List Char}
      (h : areMembersKeyed (m :: ms) = true)
    (hfuel : 2 * (writeMembers (m :: ms)).length + 1 ≤ fuel) :
    members fuel (writeMembers (m :: ms) ++ '}' :: rest) = .ok (m :: ms, rest)

theorem IsEnough.value_succ (ih : IsEnough fuel) (h : j.isKeyed = true)
    (hfuel : 2 * j.writeChars.length ≤ fuel + 1) (hrest : EndsNumber rest) :
    Reader.value (fuel + 1) (j.writeChars ++ rest) = .ok (j, rest) := by
  cases j with
  | array js =>
    cases js with
    | nil => rfl
    | cons j js =>
      obtain ⟨c, cs, hcons, hc⟩ := exists_opener_of_items j js
      rw [writeChars, List.cons_append, List.length_cons, List.length_append,
        List.length_singleton] at hfuel
      have hitems : Reader.items fuel (writeItems (j :: js) ++ ']' :: rest) =
          .ok (j :: js, rest) :=
        ih.items h (by omega)
      rw [hcons, List.cons_append] at hitems
      rw [writeChars, List.cons_append, List.cons_append, List.append_assoc, hcons]
      exact value_array hc hitems
  | object ms =>
    cases ms with
    | nil => rfl
    | cons m ms =>
      obtain ⟨cs, hcons⟩ := exists_quote_of_members m ms
      rw [isKeyed, Bool.and_eq_true, decide_eq_true_eq] at h
      rw [writeChars, List.cons_append, List.length_cons, List.length_append,
        List.length_singleton] at hfuel
      have hmembers : Reader.members fuel (writeMembers (m :: ms) ++ '}' :: rest) =
          .ok (m :: ms, rest) :=
        ih.members h.2 (by omega)
      rw [hcons, List.cons_append] at hmembers
      rw [writeChars, List.cons_append, List.cons_append, List.append_assoc, hcons]
      exact value_object hmembers h.1
  | _ => exact value_scalar (by nofun) (by nofun) hrest fuel

theorem IsEnough.items_succ (ih : IsEnough fuel) (h : areKeyed (j :: js) = true)
    (hfuel : 2 * (writeItems (j :: js)).length + 1 ≤ fuel + 1) :
    Reader.items (fuel + 1) (writeItems (j :: js) ++ ']' :: rest) = .ok (j :: js, rest) := by
  rw [areKeyed, Bool.and_eq_true] at h
  cases js with
  | nil =>
    rw [writeItems] at hfuel ⊢
    exact items_last (ih.value h.1 (by omega) (endsNumber_mark (by decide) _))
  | cons k js =>
    rw [writeItems_cons, List.length_append, List.length_cons, List.length_cons] at hfuel
    rw [writeItems_cons, List.append_assoc]
    exact items_more (ih.value h.1 (by omega) (endsNumber_mark (by decide) _))
      (skip_writeItems k js _) (ih.items h.2 (by omega))

theorem IsEnough.members_succ {m : String × Json} (ih : IsEnough fuel)
    (h : areMembersKeyed (m :: ms) = true)
    (hfuel : 2 * (writeMembers (m :: ms)).length + 1 ≤ fuel + 1) :
    Reader.members (fuel + 1) (writeMembers (m :: ms) ++ '}' :: rest) =
      .ok (m :: ms, rest) := by
  obtain ⟨key, j⟩ := m
  rw [areMembersKeyed, Bool.and_eq_true] at h
  cases ms with
  | nil =>
    rw [writeMembers, List.length_append, List.length_cons, List.length_cons] at hfuel
    rw [writeMembers, List.append_assoc, writeText_append]
    exact members_last (text_writtenIn key) (skip_writeChars j _)
      (ih.value h.1 (by omega) (endsNumber_mark (by decide) _))
  | cons m ms =>
    rw [writeMembers_cons] at hfuel ⊢
    simp only [List.length_append, List.length_cons] at hfuel
    rw [List.append_assoc, writeText_append]
    simp only [List.cons_append, List.append_assoc]
    exact members_more (text_writtenIn key) (skip_writeChars j _)
      (ih.value h.1 (by omega) (endsNumber_mark (by decide) _)) (skip_writeMembers m ms _)
      (ih.members h.2 (by omega))

theorem isEnough (fuel : Nat) : IsEnough fuel := by
  induction fuel with
  | zero =>
    refine ⟨fun {j _} _ hfuel _ => ?_, fun _ hfuel => absurd hfuel (Nat.not_succ_le_zero _),
      fun _ hfuel => absurd hfuel (Nat.not_succ_le_zero _)⟩
    have hpos := j.length_writeChars_pos
    omega
  | succ fuel ih => exact ⟨ih.value_succ, ih.items_succ, ih.members_succ⟩

theorem read_write (h : j.isKeyed = true) : read j.write = .ok j := by
  obtain ⟨c, cs, hcons, hc⟩ := exists_opener j
  have hmark : j.writeChars.head? ≠ some '\ufeff' := by
    rw [hcons]
    rintro ⟨⟩
    exact absurd hc (by decide)
  have hskip := skip_writeChars j []
  have hvalue : Reader.value (2 * j.writeChars.length + 2) (j.writeChars ++ []) = .ok (j, []) :=
    (isEnough _).value h (by omega) nofun
  rw [List.append_nil] at hskip hvalue
  simp only [read, write, String.toList_ofList, if_neg hmark, hskip, hvalue]
  rfl

end PromptChart.Json
