import SceneLang.Proofs.Components
import SceneLang.Proofs.Numerals
import SceneLang.Proofs.Runs

/-!
# Names of fonts

A name of a font is normalised before it is used: blanks around it are dropped, tabs become blanks,
and each pair of blanks becomes one.  Pairs are joined once, from the left, so two blanks are side
by side in the result exactly if three were before (`pair_infix_joinBlanks_iff`): a row of three
inside of a name is a gap (`HasGap`) that is not closed.

`normalizeFontName_canonical_iff` says what this comes to.  There are never blanks around the
normalised name and never tabs in it, but two blanks side by side are left exactly if the name had a
gap, and in this case normalising the result again changes it once more.  So the statement
`font font`, which sets the font to the name that is read back, changes nothing exactly if there was
no gap (`Gap.normalize_twice` is the shortest name for which it does something).

The names that normalising leaves as they are, are characterised first
(`normalizeFontName_eq_self_iff`); the rest is about when the result is one of them.
-/

namespace SceneLang

/-! ### Joining pairs of blanks -/

section Join

variable {c : Char} {rest t : List Char}

theorem joinBlanks_pair (rest : List Char) :
    joinBlanks (' ' :: ' ' :: rest) = ' ' :: joinBlanks rest := by rw [joinBlanks]

/-- Anything that is not a pair of blanks stays in front. -/
theorem joinBlanks_cons (h : ¬ [' ', ' '] <+: c :: rest) :
    joinBlanks (c :: rest) = c :: joinBlanks rest := by
  rw [joinBlanks]
  rintro rest' rfl rfl
  exact h ⟨rest', rfl⟩

/-- The cases of joining: a pair of blanks in front, another character in front, or nothing. -/
@[elab_as_elim]
theorem joinBlanks_induction {motive : List Char → Prop} (nil : motive [])
    (pair : ∀ rest, motive rest → motive (' ' :: ' ' :: rest))
    (cons : ∀ c rest, ¬ [' ', ' '] <+: c :: rest → motive rest → motive (c :: rest)) :
    ∀ t, motive t := by
  intro t
  induction t using joinBlanks.induct with
  | case1 rest ih => exact pair rest ih
  | case2 c rest h ih =>
    refine cons c rest ?_ ih
    rintro ⟨rest', heq⟩
    cases heq
    exact h rest' rfl rfl
  | case3 => exact nil

theorem head?_joinBlanks (t : List Char) : (joinBlanks t).head? = t.head? := by
  induction t using joinBlanks_induction with
  | nil => rfl
  | pair rest _ => rw [joinBlanks_pair, List.head?_cons, List.head?_cons]
  | cons c rest h _ => rw [joinBlanks_cons h, List.head?_cons, List.head?_cons]

theorem getLast?_joinBlanks (t : List Char) : (joinBlanks t).getLast? = t.getLast? := by
  induction t using joinBlanks_induction with
  | nil => rfl
  | pair rest ih => simp [joinBlanks_pair, List.getLast?_cons, ih]
  | cons c rest h ih => simp [joinBlanks_cons h, List.getLast?_cons, ih]

/-- Joining only drops characters. -/
theorem joinBlanks_sublist (t : List Char) : (joinBlanks t).Sublist t := by
  induction t using joinBlanks_induction with
  | nil => exact .slnil
  | pair rest ih =>
    rw [joinBlanks_pair]
    exact (ih.cons _).cons_cons _
  | cons c rest h ih =>
    rw [joinBlanks_cons h]
    exact ih.cons_cons _

/-- A pair of blanks in front. -/
theorem pair_prefix_iff : [' ', ' '] <+: c :: rest ↔ c = ' ' ∧ rest.head? = some ' ' := by
  rw [List.cons_prefix_cons, eq_comm]
  refine and_congr_right fun _ => ?_
  cases rest with
  | nil => simp
  | cons d rest => simp [List.cons_prefix_cons, eq_comm]

/-- **Two blanks are side by side after joining exactly if three were so before.** -/
theorem pair_infix_joinBlanks_iff (t : List Char) :
    [' ', ' '] <:+: joinBlanks t ↔ [' ', ' ', ' '] <:+: t := by
  induction t using joinBlanks_induction with
  | nil => simp [joinBlanks]
  | pair rest ih =>
    -- a blank after the pair stands beside the blank that the pair becomes
    have hafter : [' ', ' '] <+: ' ' :: joinBlanks rest ↔ rest.head? = some ' ' := by
      rw [pair_prefix_iff, head?_joinBlanks]
      exact and_iff_right rfl
    have hbefore : [' ', ' ', ' '] <+: ' ' :: ' ' :: rest ↔ rest.head? = some ' ' := by
      rw [List.cons_prefix_cons, pair_prefix_iff]
      simp
    have hlater : [' ', ' ', ' '] <+: ' ' :: rest → rest.head? = some ' ' := by
      intro h
      obtain ⟨rest', heq⟩ := (List.cons_prefix_cons.mp h).2
      rw [← heq]
      rfl
    rw [joinBlanks_pair, List.infix_cons_iff, List.infix_cons_iff, List.infix_cons_iff, hafter,
      hbefore, ih]
    tauto
  | cons c rest h ih =>
    have hafter : ¬ [' ', ' '] <+: c :: joinBlanks rest := by
      rwa [pair_prefix_iff, head?_joinBlanks, ← pair_prefix_iff]
    have hbefore : ¬ [' ', ' ', ' '] <+: c :: rest := by
      intro htriple
      exact h (List.IsPrefix.trans ⟨[' '], rfl⟩ htriple)
    rw [joinBlanks_cons h, List.infix_cons_iff, List.infix_cons_iff, or_iff_right hafter,
      or_iff_right hbefore, ih]

/-- **Joining leaves a text as it is exactly if there is no pair of blanks.** -/
theorem joinBlanks_eq_self_iff (t : List Char) : joinBlanks t = t ↔ ¬ [' ', ' '] <:+: t := by
  induction t using joinBlanks_induction with
  | nil => simp [joinBlanks]
  | pair rest _ =>
    have hlength : (joinBlanks rest).length ≤ rest.length := (joinBlanks_sublist rest).length_le
    refine iff_of_false (fun h => ?_) fun h => h ⟨[], rest, rfl⟩
    have heq : joinBlanks rest = ' ' :: rest := List.tail_eq_of_cons_eq (joinBlanks_pair rest ▸ h)
    rw [heq, List.length_cons] at hlength
    omega
  | cons c rest h ih =>
    rw [joinBlanks_cons h, List.infix_cons_iff, or_iff_right h, ← ih]
    exact List.cons_inj_right c

end Join

/-! ### Normalised names -/

open Text (isBlank trim)

/-- **A name that needs no normalising.** -/
structure IsFontName (name : List Char) : Prop where
  head : ∀ c ∈ name.head?, ¬ isBlank c
  last : ∀ c ∈ name.getLast?, ¬ isBlank c
  tab : '\t' ∉ name
  single : ¬ [' ', ' '] <:+: name

/-- **Three blanks or tabs in a row inside of a name.** -/
def HasGap (name : List Char) : Prop :=
  ∃ left gap right, name = left ++ gap ++ right ∧ gap.length = 3 ∧
    (∀ c ∈ gap, c = ' ' ∨ c = '\t') ∧ (∃ c ∈ left, ¬ isBlank c) ∧ ∃ c ∈ right, ¬ isBlank c

/-- The character that a character of a name becomes. -/
def untabbed (c : Char) : Char := if c = '\t' then ' ' else c

section Ends

variable {p : Char → Bool} {c : Char} {s left right : List Char}

theorem not_of_mem_head?_dropWhile (h : c ∈ (s.dropWhile p).head?) : ¬ p c := by
  have hhead := List.head?_dropWhile_not p s
  rw [Option.mem_def.mp h] at hhead
  exact ne_true_of_eq_false hhead

/-- What is left when a text is trimmed does not start with a character of the class. -/
theorem not_of_mem_head?_trim (h : c ∈ (trim p s).head?) : ¬ p c := by
  apply not_of_mem_head?_dropWhile (s := s)
  obtain ⟨rest, heq⟩ : ∃ rest, trim p s = c :: rest := by
    cases htrim : trim p s with
    | nil =>
      rw [htrim] at h
      cases h
    | cons d rest =>
      rw [htrim] at h
      cases h
      exact ⟨rest, rfl⟩
  -- at the end, only something behind is dropped
  have hprefix : trim p s <+: s.dropWhile p := List.rdropWhile_prefix p _
  obtain ⟨dropped, hdropped⟩ := hprefix
  rw [← hdropped, heq]
  rfl

/-- Nor does it end with one. -/
theorem not_of_mem_getLast?_trim (h : c ∈ (trim p s).getLast?) : ¬ p c := by
  rw [trim, List.getLast?_reverse] at h
  exact not_of_mem_head?_dropWhile h

theorem dropWhile_append_of_exists (h : ∃ c ∈ left, ¬ p c) :
    (left ++ s).dropWhile p = left.dropWhile p ++ s := by
  have hne : left.dropWhile p ≠ [] := by
    intro hnil
    obtain ⟨c, hc, hpc⟩ := h
    exact hpc (List.dropWhile_eq_nil_iff.mp hnil c hc)
  rw [List.dropWhile_append, if_neg (by simpa using hne)]

/-- What stands between other characters is not trimmed off. -/
theorem infix_trim (hleft : ∃ c ∈ left, ¬ p c) (hright : ∃ c ∈ right, ¬ p c) :
    s <:+: trim p (left ++ s ++ right) := by
  have hright' : ∃ c ∈ right.reverse, ¬ p c := by simpa using hright
  refine ⟨left.dropWhile p, (right.reverse.dropWhile p).reverse, ?_⟩
  rw [trim, List.append_assoc left, dropWhile_append_of_exists hleft, ← List.append_assoc,
    List.reverse_append, dropWhile_append_of_exists hright', List.reverse_append,
    List.reverse_reverse]

/-- A text that does not start with a character of the class has another one before a part that is
made of such characters. -/
theorem exists_not_of_head? (hne : s ≠ []) (hs : ∀ c ∈ s, p c)
    (h : ∀ c ∈ (left ++ s ++ right).head?, ¬ p c) : ∃ c ∈ left, ¬ p c := by
  cases left with
  | cons c left => exact ⟨c, List.mem_cons_self, h c rfl⟩
  | nil =>
    obtain ⟨c, s, rfl⟩ := List.exists_cons_of_ne_nil hne
    exact absurd (hs c List.mem_cons_self) (h c rfl)

theorem exists_not_of_getLast? (hne : s ≠ []) (hs : ∀ c ∈ s, p c)
    (h : ∀ c ∈ (left ++ s ++ right).getLast?, ¬ p c) : ∃ c ∈ right, ¬ p c := by
  have hne' : s.reverse ≠ [] := by simpa using hne
  have hs' : ∀ c ∈ s.reverse, p c := by simpa using hs
  have hhead : ∀ c ∈ (right.reverse ++ s.reverse ++ left.reverse).head?, ¬ p c := by
    intro c hc
    apply h c
    rwa [List.getLast?_eq_head?_reverse, List.reverse_append, List.reverse_append,
      ← List.append_assoc]
  simpa using exists_not_of_head? hne' hs' hhead

end Ends

section Names

variable {c : Char} {s : List Char} {name : String}

theorem untabbed_eq_blank_iff : untabbed c = ' ' ↔ c = ' ' ∨ c = '\t' := by
  unfold untabbed
  split <;> simp_all

theorem untabbed_eq_self (h : c ≠ '\t') : untabbed c = c := if_neg h

theorem isBlank_of_gap (h : c = ' ' ∨ c = '\t') : isBlank c := by
  rcases h with rfl | rfl <;> decide +kernel

/-- What becomes of the characters of a name. -/
theorem toList_normalizeFontName (name : String) :
    (normalizeFontName name).toList = joinBlanks ((trim isBlank name.toList).map untabbed) :=
  String.toList_ofList

/-- A character at an end of a trimmed name stays as it is. -/
theorem not_isBlank_of_mem_map {end? : Option Char} (h : ∀ d ∈ end?, ¬ isBlank d)
    (hc : c ∈ end?.map untabbed) : ¬ isBlank c := by
  obtain ⟨d, hd, rfl⟩ := Option.map_eq_some_iff.mp hc
  have hblank : ¬ isBlank d := h d hd
  have htab : d ≠ '\t' := by
    rintro rfl
    exact hblank (isBlank_of_gap (.inr rfl))
  rwa [untabbed_eq_self htab]

/-- **There is no blank in front of a normalised name.** -/
theorem not_isBlank_of_mem_head? (h : c ∈ (normalizeFontName name).toList.head?) :
    ¬ isBlank c := by
  rw [toList_normalizeFontName, head?_joinBlanks, List.head?_map] at h
  exact not_isBlank_of_mem_map (fun d => not_of_mem_head?_trim) h

/-- **There is no blank behind a normalised name.** -/
theorem not_isBlank_of_mem_getLast? (h : c ∈ (normalizeFontName name).toList.getLast?) :
    ¬ isBlank c := by
  rw [toList_normalizeFontName, getLast?_joinBlanks, List.getLast?_map] at h
  exact not_isBlank_of_mem_map (fun d => not_of_mem_getLast?_trim) h

/-- **There is no tab in a normalised name.** -/
theorem tab_not_mem_normalizeFontName (name : String) :
    '\t' ∉ (normalizeFontName name).toList := by
  intro h
  rw [toList_normalizeFontName] at h
  obtain ⟨c, -, hc⟩ := List.mem_map.mp ((joinBlanks_sublist _).mem h)
  unfold untabbed at hc
  split at hc
  · cases hc
  · contradiction

/-- Three characters become blanks in a row exactly if they are a gap. -/
theorem triple_infix_iff :
    [' ', ' ', ' '] <:+: (trim isBlank s).map untabbed ↔ HasGap s := by
  have hgap (gap : List Char) : [' ', ' ', ' '] = gap.map untabbed ↔
      gap.length = 3 ∧ ∀ c ∈ gap, c = ' ' ∨ c = '\t' := by
    have hthree : [' ', ' ', ' '] = List.replicate 3 ' ' := rfl
    rw [hthree, eq_comm, List.eq_replicate_iff, List.length_map, List.forall_mem_map]
    simp only [untabbed_eq_blank_iff]
  rw [List.infix_map_iff]
  constructor
  · rintro ⟨gap, ⟨l, r, hmiddle⟩, hmap⟩
    obtain ⟨hlength, hblanks⟩ := (hgap gap).mp hmap
    obtain ⟨left, right, hs, -, -⟩ := Text.exists_eq_append_trim isBlank s
    -- the trimmed name neither starts nor ends with the gap, because the gap is blank
    have hgapBlank : ∀ c ∈ gap, isBlank c := fun c hc => isBlank_of_gap (hblanks c hc)
    have hne : gap ≠ [] := by
      rintro rfl
      cases hlength
    have hhead : ∀ c ∈ (l ++ gap ++ r).head?, ¬ isBlank c := by
      rw [hmiddle]
      exact fun c => not_of_mem_head?_trim
    have hlast : ∀ c ∈ (l ++ gap ++ r).getLast?, ¬ isBlank c := by
      rw [hmiddle]
      exact fun c => not_of_mem_getLast?_trim
    obtain ⟨c, hc, hcblank⟩ := exists_not_of_head? hne hgapBlank hhead
    obtain ⟨d, hd, hdblank⟩ := exists_not_of_getLast? hne hgapBlank hlast
    refine ⟨left ++ l, gap, r ++ right, ?_, hlength, hblanks,
      ⟨c, List.mem_append_right left hc, hcblank⟩, ⟨d, List.mem_append_left right hd, hdblank⟩⟩
    rw [hs, ← hmiddle]
    simp only [List.append_assoc]
  · rintro ⟨left, gap, right, rfl, hlength, hblanks, hleft, hright⟩
    exact ⟨gap, infix_trim hleft hright, (hgap gap).mpr ⟨hlength, hblanks⟩⟩

/-- Trimming leaves a text as it is that has no blanks around it. -/
theorem IsFontName.trim_eq (h : IsFontName s) : trim isBlank s = s := by
  by_cases hs : s = []
  · rw [hs]
    rfl
  · have hhead : ¬ isBlank (s.head hs) := h.head _ (List.head?_eq_some_head hs)
    have hlast : ¬ isBlank (s.getLast hs) := h.last _ (List.getLast?_eq_some_getLast hs)
    have htrim : trim isBlank ([] ++ s ++ []) = s :=
      Text.trim_append (List.forall_mem_nil _) (List.forall_mem_nil _) hs hhead hlast
    rwa [List.nil_append, List.append_nil] at htrim

/-- **The names that normalising leaves as they are.** -/
theorem normalizeFontName_eq_self_iff :
    normalizeFontName name = name ↔ IsFontName name.toList := by
  constructor
  · intro h
    have hchars : joinBlanks ((trim isBlank name.toList).map untabbed) = name.toList := by
      rw [← toList_normalizeFontName, h]
    refine ⟨fun c hc => ?_, fun c hc => ?_, ?_, ?_⟩
    · rw [← h] at hc
      exact not_isBlank_of_mem_head? hc
    · rw [← h] at hc
      exact not_isBlank_of_mem_getLast? hc
    · rw [← h]
      exact tab_not_mem_normalizeFontName name
    · -- nothing was dropped, so no pair was joined
      have hsublist := joinBlanks_sublist ((trim isBlank name.toList).map untabbed)
      have htrim : (trim isBlank name.toList).length ≤ name.toList.length := by
        obtain ⟨left, right, heq, -, -⟩ := Text.exists_eq_append_trim isBlank name.toList
        have hlength := congrArg List.length heq
        simp only [List.length_append] at hlength
        omega
      have hkept : joinBlanks ((trim isBlank name.toList).map untabbed)
          = (trim isBlank name.toList).map untabbed := by
        refine hsublist.eq_of_length_le ?_
        rwa [hchars, List.length_map]
      rw [← hchars, hkept]
      exact (joinBlanks_eq_self_iff _).mp hkept
  · intro h
    have hmap : name.toList.map untabbed = name.toList := by
      refine (List.map_congr_left fun c hc => ?_).trans (List.map_id _)
      exact untabbed_eq_self fun htab => h.tab (htab ▸ hc)
    rw [← String.toList_inj, toList_normalizeFontName, h.trim_eq, hmap]
    exact (joinBlanks_eq_self_iff _).mpr h.single

/-- **Blanks are side by side in a normalised name exactly if the name had a gap.** -/
theorem pair_infix_normalizeFontName_iff :
    [' ', ' '] <:+: (normalizeFontName name).toList ↔ HasGap name.toList := by
  rw [toList_normalizeFontName, pair_infix_joinBlanks_iff, triple_infix_iff]

/-- **Normalising twice is normalising once exactly if the name had no gap.** -/
theorem normalizeFontName_idempotent_iff :
    normalizeFontName (normalizeFontName name) = normalizeFontName name ↔
      ¬ HasGap name.toList := by
  rw [normalizeFontName_eq_self_iff, ← pair_infix_normalizeFontName_iff]
  constructor
  · exact fun h => h.single
  · exact fun h => ⟨fun c => not_isBlank_of_mem_head?, fun c => not_isBlank_of_mem_getLast?,
      tab_not_mem_normalizeFontName name, h⟩

end Names

/-! ### Setting the font -/

/-- **The fonts that can be used**: all fonts, if the host has no catalogue. -/
def Setting.HasFont (setting : Setting) (name : String) : Prop :=
  ∀ names, setting.host.bind Host.fontNames = some names → name ∈ names

/-- A state with another font. -/
def State.withFont (st : State) (name : String) : State :=
  { st with scope := { st.scope with font := some name } }

section Fonts

variable {setting : Setting} {env : Env} {st st' st₁ : State} {name n : String} {w : Value}

/-- The name that is looked for in the catalogue is the normalised one. -/
theorem Argument.checkFont_eq_ok_iff :
    checkFont setting name = .ok n ↔ n = normalizeFontName name ∧ setting.HasFont n := by
  have hok {x y : String} : (Except.ok x : Except Exit String) = .ok y ↔ y = x := by
    rw [Except.ok.injEq, eq_comm]
  unfold checkFont Setting.HasFont
  cases setting.host.bind Host.fontNames with
  | none => simp [hok]
  | some names =>
    by_cases hmem : normalizeFontName name ∈ names
    · have hfont : n = normalizeFontName name → n ∈ names := fun h => h ▸ hmem
      simpa [hmem, hok] using hfont
    · simp only [List.contains_iff_mem, hmem, if_false, Option.some.injEq, forall_eq', reduceCtorEq,
        false_iff, not_and]
      rintro rfl
      exact hmem

/-- A text is read as the normalised name of a font. -/
theorem Argument.coerce_font_eq_ok_iff {a : Argument} (ha : a.parameters ≠ []) :
    a.coerce setting .font [.string (some name)] st = .ok w st' ↔
      (w = .string (some (normalizeFontName name)) ∧ setting.HasFont (normalizeFontName name)) ∧
        st' = st := by
  have hasIs : asIs? .font [.string (some name)] = none := rfl
  have hread : a.read setting .font [.string (some name)] st
      = Step.ofExit ((checkFont setting name).map (.string ∘ some)) st := rfl
  rw [coerce_eq_ok_iff_read ha, hasIs, hread, Step.ofExit_eq_ok_iff]
  refine (or_iff_right (fun h => by cases h.1)).trans ((and_iff_right rfl).trans ?_)
  refine and_congr_left' ?_
  cases hcheck : checkFont setting name with
  | ok n =>
    obtain ⟨rfl, hfont⟩ := checkFont_eq_ok_iff.mp hcheck
    constructor
    · rintro ⟨⟩
      exact ⟨rfl, hfont⟩
    · rintro ⟨rfl, -⟩
      rfl
  | error x =>
    refine iff_of_false (fun h => by cases h) ?_
    rintro ⟨-, hfont⟩
    cases hcheck.symm.trans (checkFont_eq_ok_iff.mpr ⟨rfl, hfont⟩)

/-- **What the statement `font` does** with an argument that is a text: if the host has the font of
the normalised name, this name is kept. -/
theorem runStatement_font_eq_ok_iff {fuel : Nat} {range : SourceRange} {callee : Identifier}
    {e : Expr} (hsymbol : Scope.symbol? (st.scope :: env.enclosing) callee.name
      = some (.property .font))
    (hrow : (Runner.ofFuel fuel).row env (Runner.parametersOf e) st = .ok [w] st₁)
    (hw : w.unwrap = .string (some name)) :
    runStatement (fuel + 1) env (.command range callee (some e)) st = .ok () st' ↔
      env.setting.HasFont (normalizeFontName name) ∧
        st' = st₁.withFont (normalizeFontName name) := by
  have hne : Runner.parametersOf e ≠ [] := by
    intro hnil
    rw [hnil] at hrow
    cases hrow
  have hvalue {v : Value} {st₂ : State} :
      (Runner.ofFuel fuel).parameter env (some e) .font callee st = .ok v st₂ ↔
        (v = .string (some (normalizeFontName name)) ∧
          env.setting.HasFont (normalizeFontName name)) ∧ st₂ = st₁ := by
    rw [Runner.parameter, Runner.valueAs, Step.bind_ok _ hrow, List.map_singleton, hw]
    exact Argument.coerce_font_eq_ok_iff hne
  have hstatement : runStatement (fuel + 1) env (.command range callee (some e)) st
      = ((Runner.ofFuel fuel).parameter env (some e) .font callee >>= fun v =>
          Step.locate callee.range (Property.set .font v)) st := by
    show (Runner.ofFuel fuel).command env callee (some e) st = _
    rw [Runner.command, Env.symbol?_bind, hsymbol]
    rfl
  rw [hstatement, Step.bind_eq_ok_iff]
  constructor
  · rintro ⟨v, st₂, hv, hset⟩
    obtain ⟨⟨rfl, hfont⟩, rfl⟩ := hvalue.mp hv
    cases hset
    exact ⟨hfont, rfl⟩
  · rintro ⟨hfont, rfl⟩
    exact ⟨_, st₁, hvalue.mpr ⟨⟨rfl, hfont⟩, rfl⟩, rfl⟩

/-- What is read back is the font of the scope. -/
theorem runExpression_font (fuel : Nat) (place : SourceRange) {callee : String}
    (hsymbol : Scope.symbol? (st.scope :: env.enclosing) callee = some (.property .font)) :
    runExpression (fuel + 1) env (.identifier place callee) st
      = .ok (.string st.scope.font) st := by
  show (Runner.ofFuel fuel).identifier env place callee st = _
  rw [Runner.identifier, Env.symbol?_bind, hsymbol]
  rfl

theorem State.withFont_eq_self_iff (hfont : st.scope.font = some name) :
    st = st.withFont n ↔ n = name := by
  constructor
  · intro h
    have hsame : some name = some n := by rw [← hfont, h]; rfl
    exact (Option.some.inj hsame).symm
  · rintro rfl
    obtain ⟨scope, world⟩ := st
    show State.mk scope world = State.mk { scope with font := some n } world
    rw [← hfont]

end Fonts

/-- **How far names of fonts are normalised.**  A normalised name has no blank at either end and no
tab.  Blanks are side by side in it, and normalising it changes it again, exactly if there are three
blanks or tabs in a row inside of the name that was given.  The statement `font` looks for the
normalised name in the catalogue of the host and keeps it; and setting the font to what is read back
changes nothing exactly if there was no such gap. -/
theorem normalizeFontName_canonical_iff (name : String) :
    (∀ c ∈ (normalizeFontName name).toList.head?, ¬ isBlank c) ∧
    (∀ c ∈ (normalizeFontName name).toList.getLast?, ¬ isBlank c) ∧
    '\t' ∉ (normalizeFontName name).toList ∧
    (¬ [' ', ' '] <:+: (normalizeFontName name).toList ↔ ¬ HasGap name.toList) ∧
    (normalizeFontName (normalizeFontName name) = normalizeFontName name ↔
      ¬ HasGap name.toList) ∧
    ∀ (env : Env) (st : State) (callee : Identifier),
      Scope.symbol? (st.scope :: env.enclosing) callee.name = some (.property .font) →
      (∀ (fuel : Nat) (range : SourceRange) (e : Expr) (w : Value) (st₁ st' : State),
        (Runner.ofFuel fuel).row env (Runner.parametersOf e) st = .ok [w] st₁ →
        w.unwrap = .string (some name) →
        (runStatement (fuel + 1) env (.command range callee (some e)) st = .ok () st' ↔
          env.setting.HasFont (normalizeFontName name) ∧
            st' = st₁.withFont (normalizeFontName name))) ∧
      (∀ (fuel : Nat) (range place : SourceRange),
        st.scope.font = some (normalizeFontName name) →
        env.setting.HasFont (normalizeFontName name) →
        (runStatement (fuel + 2) env
            (.command range callee (some (.identifier place callee.name))) st = .ok () st ↔
          ¬ HasGap name.toList)) := by
  refine ⟨fun c => not_isBlank_of_mem_head?, fun c => not_isBlank_of_mem_getLast?,
    tab_not_mem_normalizeFontName name, not_congr pair_infix_normalizeFontName_iff,
    normalizeFontName_idempotent_iff, fun env st callee hsymbol => ⟨?_, ?_⟩⟩
  · intro fuel range e w st₁ st' hrow hw
    exact runStatement_font_eq_ok_iff hsymbol hrow hw
  · intro fuel range place hfont hhas
    -- the name that is read back is normalised once more
    have hread : (Runner.ofFuel (fuel + 1)).row env
        (Runner.parametersOf (.identifier place callee.name)) st
          = .ok [.string (some (normalizeFontName name))] st := by
      rw [← hfont]
      exact Step.bind_ok _ (runExpression_font fuel place hsymbol)
    rw [runStatement_font_eq_ok_iff hsymbol hread rfl, State.withFont_eq_self_iff hfont,
      ← normalizeFontName_idempotent_iff]
    constructor
    · exact fun h => h.2
    · intro h
      rw [h]
      exact ⟨hhas, rfl⟩

/-! ### A gap that is not closed -/

namespace Gap

/-- The environment of a program. -/
def env : Env := ⟨{}, []⟩

/-- The state in which a program starts. -/
def start : State := { scope := {}, world := {} }

/-- The statement `font`, with a text. -/
def setFont (name : String) : Statement :=
  .command ⟨0, 16⟩ ⟨⟨0, 4⟩, "font"⟩ (some (.string ⟨5, 16⟩ name))

/-- The statement `font font`. -/
def setFontAgain : Statement :=
  .command ⟨17, 26⟩ ⟨⟨17, 21⟩, "font"⟩ (some (.identifier ⟨22, 26⟩ "font"))

/-- Two blanks between words are one afterwards, and reading the name back changes nothing. -/
theorem normalizeFontName_canonical_iff_courier :
    ∃ st, runStatement 2 env (setFont "Courier  New") start = .ok () st ∧
      st.scope.font = some (normalizeFontName "Courier  New") ∧
      runStatement 2 env setFontAgain st = .ok () st := by
  obtain ⟨-, -, -, -, hidempotent, hrun⟩ := normalizeFontName_canonical_iff "Courier  New"
  have hhas : env.setting.HasFont (normalizeFontName "Courier  New") := nofun
  have hclosed : ¬ HasGap "Courier  New".toList := hidempotent.mp (by decide +kernel)
  refine ⟨start.withFont (normalizeFontName "Courier  New"), ?_, rfl, ?_⟩
  · exact ((hrun env start ⟨⟨0, 4⟩, "font"⟩ rfl).1 1 ⟨0, 16⟩ (.string ⟨5, 16⟩ "Courier  New")
      (.string (some "Courier  New")) start _ rfl rfl).mpr ⟨hhas, rfl⟩
  · exact ((hrun env _ ⟨⟨17, 21⟩, "font"⟩ rfl).2 0 ⟨17, 26⟩ ⟨22, 26⟩ rfl hhas).mpr hclosed

/-- **Three blanks become two**, and these become one when the name is normalised again; so setting
the font to the name that is read back changes it. -/
theorem normalize_twice :
    normalizeFontName "a   b" = "a  b" ∧ normalizeFontName "a  b" = "a b" ∧
      runStatement 2 env setFontAgain (start.withFont "a  b") = .ok () (start.withFont "a b") := by
  have honce : normalizeFontName "a   b" = "a  b" := by decide +kernel
  have htwice : normalizeFontName "a  b" = "a b" := by decide +kernel
  refine ⟨honce, htwice, ?_⟩
  rw [← htwice]
  exact (runStatement_font_eq_ok_iff rfl rfl rfl).mpr ⟨nofun, rfl⟩

end Gap

end SceneLang
