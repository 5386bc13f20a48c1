import Mathlib.Tactic
import RuleFixtures.Console.Markup

/-!
What is shown of a text between tags.

A text between tags loses the backslash in front of a bracket, the codes that stand for pictures
and some controls.

* `replaceEmoji_append`: a text without colons is not part of a code.
* `Markup.Literal` says of a text that nothing of it is lost; `Markup.shown_eq_self_iff`: such
  texts, and no others, are shown as they are.
* `weight` measures a text; `Markup.weight_shown_le` and `Markup.literal_of_weight`: what is shown
  is lighter than a text that is not shown as it is.
* `Markup.count_shown`: the white space that is not hidden is all shown.
-/

namespace RuleFixtures.Console

/-! ### Codes -/

/-- What all pictures have in common: they are short, and have neither colons nor white space. -/
structure IsPicture (shown : List Char) : Prop where
  length_le : shown.length ≤ 15
  plain : ∀ c ∈ shown, c ≠ ':' ∧ Text.isBlank c = false

lemma mem_emojiTable {first : Char} {entry : String × List Char} (h : entry ∈ emojiTable first) :
    entry.2.length ≤ 14 ∧ ∀ c ∈ entry.2, c ≠ ':' ∧ Text.isBlank c = false := by
  have hall : (emojiTable first).all (fun entry => entry.2.length ≤ 14 &&
      entry.2.all fun c => c ≠ ':' && !Text.isBlank c) = true := by
    unfold emojiTable
    -- one table for each letter
    split <;> decide +kernel
  simpa using List.all_eq_true.1 hall entry h

lemma picture?_spec {name picture : List Char} (h : picture? name = some picture) :
    picture.length ≤ 14 ∧ ∀ c ∈ picture, c ≠ ':' ∧ Text.isBlank c = false := by
  cases name with
  | nil => cases h
  | cons first rest =>
    obtain ⟨entry, hentry, rfl⟩ := Option.map_eq_some_iff.1 h
    exact mem_emojiTable (List.mem_of_find?_eq_some hentry)

/-- What stands for a code is a picture, or one with a selector. -/
lemma isPicture_of_emoji? {code shown : List Char} (h : emoji? code = some shown) :
    IsPicture shown := by
  have hvariants : ∀ variant ∈ emojiVariants, variant.2 ≠ ':' ∧ Text.isBlank variant.2 = false := by
    decide
  rw [emoji?] at h
  split at h
  · next ending selector hfind =>
    obtain ⟨picture, hpicture, rfl⟩ := Option.map_eq_some_iff.1 h
    obtain ⟨hlength, hplain⟩ := picture?_spec hpicture
    refine ⟨by simpa using Nat.lt_succ_of_le hlength, List.forall_mem_append.2 ⟨hplain, ?_⟩⟩
    exact List.forall_mem_singleton.2 (hvariants _ (List.mem_of_find?_eq_some hfind))
  · obtain ⟨hlength, hplain⟩ := picture?_spec h
    exact ⟨hlength.trans (by decide), hplain⟩

/-- Is the character part of a code? -/
def inCode (c : Char) : Bool := c ≠ ':' && !Text.isBlank c

lemma takeWhile_inCode {code after : List Char} (h : ∀ c ∈ code, inCode c = true) :
    ((code ++ ':' :: after).takeWhile fun x => x ≠ ':' && !Text.isBlank x) = code := by
  rw [List.takeWhile_append_of_pos (p := fun x => x ≠ ':' && !Text.isBlank x) h]
  simp

lemma replaceEmoji_code {code after : List Char} (h : ∀ c ∈ code, inCode c = true) :
    replaceEmoji (':' :: (code ++ ':' :: after)) =
      (emoji? code).getD (':' :: code ++ [':']) ++ replaceEmoji after := by
  have hdrop : (code ++ ':' :: after).drop
      ((code ++ ':' :: after).takeWhile fun x => x ≠ ':' && !Text.isBlank x).length =
        ':' :: after := by
    rw [takeWhile_inCode h, List.drop_left]
  rw [replaceEmoji, if_pos rfl]
  dsimp only
  split
  · next after' hafter =>
    rw [hdrop] at hafter
    rw [takeWhile_inCode h, (List.cons.inj hafter).2]
  · next hnone => exact absurd hdrop (hnone after)

/-- A colon that opens no code. -/
lemma replaceEmoji_colon {rest : List Char}
    (h : ∀ code after, (∀ c ∈ code, inCode c = true) → rest ≠ code ++ ':' :: after) :
    replaceEmoji (':' :: rest) = ':' :: replaceEmoji rest := by
  rw [replaceEmoji, if_pos rfl]
  dsimp only
  split
  · next after hdrop =>
    have hrest := List.prefix_append_drop
      (List.takeWhile_prefix (l := rest) fun x => x ≠ ':' && !Text.isBlank x)
    rw [hdrop] at hrest
    exact absurd hrest (h _ after (List.all_eq_true.1 List.all_takeWhile))
  · rfl

lemma replaceEmoji_cons {c : Char} (hc : c ≠ ':') (rest : List Char) :
    replaceEmoji (c :: rest) = c :: replaceEmoji rest := by
  rw [replaceEmoji, if_neg hc]

/-- To show something of a text from its end in front: it passes what looks like a code, the colons
that open none, and all other characters. -/
lemma code_induction {motive : List Char → Prop} (nil : motive [])
    (code : ∀ code after, (∀ c ∈ code, inCode c = true) → motive after →
      motive (':' :: (code ++ ':' :: after)))
    (colon : ∀ rest, (∀ code after, (∀ c ∈ code, inCode c = true) → rest ≠ code ++ ':' :: after) →
      motive rest → motive (':' :: rest))
    (cons : ∀ c rest, c ≠ ':' → motive rest → motive (c :: rest)) (s : List Char) : motive s := by
  induction hlength : s.length using Nat.strong_induction_on generalizing s with
  | _ n ih =>
    cases s with
    | nil => exact nil
    | cons c rest =>
      have hrest : motive rest := ih rest.length (by simp [← hlength]) rest rfl
      by_cases hc : c = ':'
      · subst hc
        by_cases hcode : ∃ code after, (∀ c ∈ code, inCode c = true) ∧ rest = code ++ ':' :: after
        · obtain ⟨found, after, hfound, rfl⟩ := hcode
          refine code found after hfound (ih after.length ?_ after rfl)
          rw [← hlength]
          simp only [List.length_cons, List.length_append]
          omega
        · exact colon rest (fun found after hfound heq => hcode ⟨found, after, hfound, heq⟩) hrest
      · exact cons c rest hc hrest

/-- The weight of a text. A colon weighs more than a picture, so every code is heavier than what
stands for it. -/
def weight (s : List Char) : ℕ := s.length + 8 * s.count ':'

lemma weight_append (s t : List Char) : weight (s ++ t) = weight s + weight t := by
  simp only [weight, List.length_append, List.count_append]
  omega

@[simp] lemma weight_nil : weight [] = 0 := rfl

lemma weight_cons (c : Char) (s : List Char) : weight (c :: s) = weight [c] + weight s :=
  weight_append [c] s

lemma weight_le_of_sublist {s t : List Char} (h : s.Sublist t) : weight s ≤ weight t :=
  Nat.add_le_add h.length_le (Nat.mul_le_mul_left 8 (h.count_le ':'))

/-- What is left out has a weight. -/
lemma eq_of_sublist_of_weight {s t : List Char} (h : s.Sublist t) (hweight : weight t ≤ weight s) :
    s = t := by
  have hlength := h.length_le
  have hcount := h.count_le ':'
  refine h.eq_of_length_le ?_
  simp only [weight] at hweight
  omega

lemma weight_of_notMem {s : List Char} (h : ':' ∉ s) : weight s = s.length := by
  simp [weight, List.count_eq_zero.2 h]

lemma IsPicture.weight_lt {shown : List Char} (h : IsPicture shown) (code : List Char) :
    weight shown < weight (':' :: code ++ [':']) := by
  have hnone : ':' ∉ shown := fun hmem => (h.plain _ hmem).1 rfl
  have hshort := h.length_le
  rw [weight_of_notMem hnone]
  simp only [weight, List.cons_append, List.length_cons, List.length_append, List.count_cons_self,
    List.count_append]
  simp only [List.length_nil, List.count_nil]
  omega

lemma weight_replaceEmoji_le (s : List Char) : weight (replaceEmoji s) ≤ weight s := by
  induction s using code_induction with
  | nil => simp [replaceEmoji]
  | code code after hcode ih =>
    have hsplit : ':' :: (code ++ ':' :: after) = ':' :: code ++ [':'] ++ after := by simp
    rw [replaceEmoji_code hcode, hsplit, weight_append, weight_append]
    refine Nat.add_le_add ?_ ih
    cases hfound : emoji? code with
    | none => exact le_rfl
    | some shown => exact ((isPicture_of_emoji? hfound).weight_lt code).le
  | colon rest h ih =>
    rw [replaceEmoji_colon h, weight_cons, weight_cons ':' rest]
    exact Nat.add_le_add_left ih _
  | cons c rest hc ih =>
    rw [replaceEmoji_cons hc, weight_cons, weight_cons c rest]
    exact Nat.add_le_add_left ih _

lemma replaceEmoji_eq_self_of_weight {s : List Char} (h : weight s ≤ weight (replaceEmoji s)) :
    replaceEmoji s = s := by
  induction s using code_induction with
  | nil => simp [replaceEmoji]
  | code code after hcode ih =>
    have hsplit : ':' :: (code ++ ':' :: after) = ':' :: code ++ [':'] ++ after := by simp
    rw [replaceEmoji_code hcode, hsplit, weight_append _ after,
      weight_append _ (replaceEmoji after)] at h
    rw [replaceEmoji_code hcode, hsplit]
    cases hfound : emoji? code with
    | none =>
      rw [hfound] at h
      rw [ih (Nat.le_of_add_le_add_left h)]
      rfl
    -- a picture is lighter than its code, which nothing behind it makes up for
    | some shown =>
      have hlighter := (isPicture_of_emoji? hfound).weight_lt code
      have hafter := weight_replaceEmoji_le after
      rw [hfound, Option.getD_some] at h
      omega
  | colon rest hcolon ih =>
    rw [replaceEmoji_colon hcolon, weight_cons, weight_cons _ (replaceEmoji rest)] at h
    rw [replaceEmoji_colon hcolon, ih (Nat.le_of_add_le_add_left h)]
  | cons c rest hc ih =>
    rw [replaceEmoji_cons hc, weight_cons, weight_cons _ (replaceEmoji rest)] at h
    rw [replaceEmoji_cons hc, ih (Nat.le_of_add_le_add_left h)]

/-- White space is neither part of a code nor of a picture. -/
lemma count_replaceEmoji {c : Char} (hc : Text.isBlank c = true) (s : List Char) :
    (replaceEmoji s).count c = s.count c := by
  have hcolon : ':' ≠ c := by
    rintro rfl
    exact absurd hc (by decide)
  induction s using code_induction with
  | nil => simp [replaceEmoji]
  | code code after hcode ih =>
    have hnone : c ∉ code := fun hmem => by simpa [inCode, hc] using hcode c hmem
    have hcode0 : code.count c = 0 := List.count_eq_zero.2 hnone
    rw [replaceEmoji_code hcode, List.count_append, ih]
    cases hfound : emoji? code with
    | none => simp [hcode0, hcolon]
    | some shown =>
      have hnot : c ∉ shown := fun hmem => by
        simpa [hc] using ((isPicture_of_emoji? hfound).plain c hmem).2
      simp [hcode0, hcolon, List.count_eq_zero.2 hnot]
  | colon rest h ih => simp [replaceEmoji_colon h, ih, hcolon]
  | cons d rest hd ih => simp [replaceEmoji_cons hd, List.count_cons, ih]

lemma replaceEmoji_of_notMem {s : List Char} (h : ':' ∉ s) : replaceEmoji s = s := by
  induction s with
  | nil => simp [replaceEmoji]
  | cons c rest ih =>
    obtain ⟨hc, hrest⟩ := not_or.1 (mt List.mem_cons.2 h)
    rw [replaceEmoji_cons (Ne.symm hc), ih hrest]

lemma replaceEmoji_append {t : List Char} (ht : ':' ∉ t) (s : List Char) :
    replaceEmoji (s ++ t) = replaceEmoji s ++ t := by
  induction s using code_induction with
  | nil => simp [replaceEmoji, replaceEmoji_of_notMem ht]
  | code code after hcode ih =>
    have happend : ':' :: (code ++ ':' :: after) ++ t = ':' :: (code ++ ':' :: (after ++ t)) := by
      simp
    rw [happend, replaceEmoji_code hcode, replaceEmoji_code hcode, ih, List.append_assoc]
  | colon rest h ih =>
    -- no colon stands behind, so no code ends there
    have hstill : ∀ code after, (∀ c ∈ code, inCode c = true) →
        rest ++ t ≠ code ++ ':' :: after := by
      intro code after hcode heq
      obtain ⟨more, hmore, hafter⟩ | ⟨more, rfl, hafter⟩ := List.append_eq_append_iff.1 heq
      · exact ht (by simp [hafter])
      · cases more with
        | nil => exact ht (by rw [← List.nil_append t, ← hafter]; exact List.mem_cons_self)
        | cons d more =>
          obtain ⟨rfl, -⟩ := List.cons.inj hafter
          exact h code more hcode rfl
    rw [List.cons_append, replaceEmoji_colon hstill, replaceEmoji_colon h, ih, List.cons_append]
  | cons c rest hc ih =>
    rw [List.cons_append, replaceEmoji_cons hc, replaceEmoji_cons hc, ih, List.cons_append]

namespace Markup

/-! ### Backslashes in front of brackets -/

lemma dropSlash_sublist (s : List Char) : (dropSlash s).Sublist s := by
  fun_induction dropSlash s with
  | case1 rest ih => exact (ih.cons_cons '[').cons '\\'
  | case2 c rest _ ih => exact ih.cons_cons c
  | case3 => exact List.Sublist.slnil

lemma dropSlash_eq_self_iff {s : List Char} : dropSlash s = s ↔ ¬ ['\\', '['] <:+: s := by
  fun_induction dropSlash s with
  | case1 rest ih =>
    have hshorter := (dropSlash_sublist rest).length_le
    refine iff_of_false (fun h => ?_) (not_not.2 ⟨[], rest, rfl⟩)
    have hlength := congrArg List.length h
    simp only [List.length_cons] at hlength
    omega
  | case2 c rest hpair ih =>
    rw [List.cons_eq_cons, List.infix_cons_iff, not_or, ih]
    refine ⟨fun h => ⟨fun hprefix => ?_, h.2⟩, fun h => ⟨rfl, h.2⟩⟩
    obtain ⟨more, hmore⟩ := hprefix
    obtain ⟨hc, hrest⟩ := List.cons.inj hmore
    exact hpair more hc.symm hrest.symm
  | case3 => simp

lemma dropSlash_append {t : List Char} (ht : '[' ∉ t) (s : List Char) :
    dropSlash (s ++ t) = dropSlash s ++ t := by
  fun_induction dropSlash s with
  | case1 rest ih => rw [List.cons_append, List.cons_append, dropSlash, ih, List.cons_append]
  | case2 c rest hpair ih =>
    rw [List.cons_append, dropSlash, ih, List.cons_append]
    intro more hc hmore
    cases rest with
    | nil => exact ht (by rw [← List.nil_append t, hmore]; exact List.mem_cons_self)
    | cons d rest =>
      obtain ⟨rfl, -⟩ := List.cons.inj hmore
      exact hpair rest hc rfl
  | case3 =>
    refine dropSlash_eq_self_iff.2 fun h => ht (h.subset ?_)
    simp

/-! ### Texts that are shown as they are -/

/-- Texts of which nothing is replaced and nothing left out. -/
structure Literal (text : List Char) : Prop where
  slashes : ¬ ['\\', '['] <:+: text
  codes : replaceEmoji text = text
  visible : ∀ c ∈ text, isHidden c = false

@[simp] lemma shown_nil : shown [] = [] := by simp [shown, dropSlash, replaceEmoji]

lemma weight_shown_le (s : List Char) : weight (shown s) ≤ weight s :=
  (weight_le_of_sublist List.filter_sublist).trans
    ((weight_replaceEmoji_le _).trans (weight_le_of_sublist (dropSlash_sublist s)))

lemma Literal.shown_eq {s : List Char} (h : Literal s) : shown s = s := by
  rw [shown, dropSlash_eq_self_iff.2 h.slashes, h.codes, List.filter_eq_self]
  intro c hc
  rw [h.visible c hc]
  rfl

/-- Whatever is changed makes a text lighter. -/
lemma literal_of_weight {s : List Char} (h : weight s ≤ weight (shown s)) : Literal s := by
  have hfilter : ((replaceEmoji (dropSlash s)).filter fun c => !isHidden c).Sublist
      (replaceEmoji (dropSlash s)) := List.filter_sublist
  have hvisible := weight_le_of_sublist hfilter
  have hcodes := weight_replaceEmoji_le (dropSlash s)
  rw [shown] at h
  have hdrop : dropSlash s = s :=
    eq_of_sublist_of_weight (dropSlash_sublist s) (h.trans (hvisible.trans hcodes))
  rw [hdrop] at h hfilter hvisible
  have hreplace : replaceEmoji s = s := replaceEmoji_eq_self_of_weight (h.trans hvisible)
  rw [hreplace] at h hfilter
  refine ⟨dropSlash_eq_self_iff.1 hdrop, hreplace, fun c hc => ?_⟩
  simpa using List.filter_eq_self.1 (eq_of_sublist_of_weight hfilter h) c hc

theorem shown_eq_self_iff {s : List Char} : shown s = s ↔ Literal s :=
  ⟨fun h => literal_of_weight (by rw [h]), Literal.shown_eq⟩

/-- White space that is not hidden is all shown. -/
lemma count_shown {c : Char} (hblank : Text.isBlank c = true) (hvisible : isHidden c = false)
    (s : List Char) : (shown s).count c = s.count c := by
  have hdrop : (dropSlash s).count c = s.count c := by
    fun_induction dropSlash s with
    | case1 rest ih =>
      have hslash : '\\' ≠ c := by
        rintro rfl
        exact absurd hblank (by decide)
      rw [List.count_cons_of_ne hslash, List.count_cons, List.count_cons, ih]
    | case2 d rest _ ih => rw [List.count_cons, List.count_cons, ih]
    | case3 => rfl
  rw [shown, List.count_filter (by rw [hvisible]; rfl), count_replaceEmoji hblank, hdrop]

/-- Characters that are shown wherever they stand. -/
def isSteady (c : Char) : Bool := c ≠ '[' && c ≠ ':' && !isHidden c

lemma shown_append {t : List Char} (ht : ∀ c ∈ t, isSteady c = true) (s : List Char) :
    shown (s ++ t) = shown s ++ t := by
  have hsteady : ∀ c ∈ t, (c ≠ '[' ∧ c ≠ ':') ∧ isHidden c = false := by
    simpa [isSteady] using ht
  have hbracket : '[' ∉ t := fun h => (hsteady _ h).1.1 rfl
  have hcolon : ':' ∉ t := fun h => (hsteady _ h).1.2 rfl
  rw [shown, dropSlash_append hbracket, replaceEmoji_append hcolon, List.filter_append, ← shown,
    List.filter_eq_self.2]
  intro c hc
  rw [(hsteady c hc).2]
  rfl

/-- Backslashes at the end are shown. -/
lemma shown_append_slashes (s : List Char) (n : ℕ) :
    shown (s ++ List.replicate n '\\') = shown s ++ List.replicate n '\\' := by
  refine shown_append (fun c hc => ?_) s
  rw [List.eq_of_mem_replicate hc]
  decide

lemma shown_slashes (n : ℕ) : shown (List.replicate n '\\') = List.replicate n '\\' := by
  simpa using shown_append_slashes [] n

end Markup

end RuleFixtures.Console
