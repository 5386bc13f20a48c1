import Mathlib.Data.List.TakeWhile
import RuleFixtures.Proofs.Console.Items
import RuleFixtures.Proofs.Console.Shown

/-!
What is shown of a text that is escaped.

Escaping keeps what looks like a tag from being one. It does not keep the text between such pieces
from being shown as all texts are, and backslashes at the end take part in a tag behind.

* `Markup.cut` cuts a text at what looks like a tag; `Markup.join_cut` puts it together again.
* `Markup.renderPieces_escapeFrom`: in front of its end an escaped text shows the pieces of its cut,
  and no tag of it is obeyed.
* `Markup.toList_escape` tells how many backslashes an escaped text ends with.
* `Markup.render_escape` and `Markup.render_styled`: an escaped text by itself, and one in a style.
-/

namespace RuleFixtures.Console.Markup

/-! ### What looks like a tag -/

/-- An opening or closing bracket. -/
def isBracket (c : Char) : Bool := c = '[' || c = ']'

/-- What is not inside a tag is a bracket. -/
lemma isInside_eq (c : Char) : (c ≠ ']' && c ≠ '[') = !isBracket c := by
  simp [isBracket, Bool.and_comm]

/-- A tag does not start with a bracket. -/
lemma isBracket_of_startsTag {c : Char} (h : startsTag c = true) : isBracket c = false := by
  by_contra hbracket
  rw [Bool.not_eq_false, isBracket, Bool.or_eq_true, decide_eq_true_eq, decide_eq_true_eq]
    at hbracket
  obtain rfl | rfl := hbracket
  · exact absurd h (by decide)
  · exact absurd h (by decide)

/-- What is read as a tag is one. -/
lemma of_tagBody? {s body after : List Char} (h : tagBody? s = some (body, after)) :
    s = body ++ ']' :: after ∧ (∃ c, body.head? = some c ∧ startsTag c = true) ∧
      ∀ c ∈ body, isBracket c = false := by
  cases s with
  | nil => cases h
  | cons c rest =>
    have hrest := List.prefix_append_drop
      (List.takeWhile_prefix (l := rest) fun x => x ≠ ']' && x ≠ '[')
    rw [tagBody?] at h
    split at h
    · next hc =>
      dsimp only at h
      split at h
      · next after' hdrop =>
        obtain ⟨rfl, rfl⟩ := Prod.mk.inj (Option.some.inj h)
        rw [hdrop] at hrest
        refine ⟨congrArg (c :: ·) hrest, ⟨c, rfl, hc⟩,
          List.forall_mem_cons.2 ⟨isBracket_of_startsTag hc, fun x hx => ?_⟩⟩
        have hinside := List.all_eq_true.1 List.all_takeWhile x hx
        rw [isInside_eq] at hinside
        simpa using hinside
      · cases h
    · cases h

/-- A tag is read up to its closing bracket. -/
lemma tagBody?_append {c : Char} {body : List Char} (after : List Char) (hc : startsTag c = true)
    (hbody : ∀ x ∈ body, isBracket x = false) :
    tagBody? (c :: (body ++ ']' :: after)) = some (c :: body, after) := by
  have htake : ((body ++ ']' :: after).takeWhile fun x => x ≠ ']' && x ≠ '[') = body := by
    rw [List.takeWhile_append_of_pos]
    · simp
    · intro x hx
      rw [isInside_eq, hbody x hx]
      rfl
  rw [tagBody?, if_pos hc]
  dsimp only
  rw [htake, List.drop_left]
  rfl

/-- A tag is a text without brackets that starts as the name of one, and a closing bracket. -/
lemma tagBody?_eq_some_iff {s body after : List Char} :
    tagBody? s = some (body, after) ↔ s = body ++ ']' :: after ∧
      (∃ c, body.head? = some c ∧ startsTag c = true) ∧ ∀ c ∈ body, isBracket c = false := by
  refine ⟨of_tagBody?, ?_⟩
  rintro ⟨rfl, ⟨c, hc, hstarts⟩, hbody⟩
  obtain ⟨more, rfl⟩ := List.head?_eq_some_iff.1 hc
  exact tagBody?_append after hstarts (List.forall_mem_cons.1 hbody).2

/-! ### Cutting a text -/

/-- A text cut at what looks like a tag. -/
structure Cut where
  /-- The pieces up to the last one that looks like a tag: the texts between, the backslashes in
  front of what looks like a tag, and these. -/
  front : List (List Char)
  /-- The text behind. -/
  last : List Char
  /-- The backslashes at the end. -/
  slashes : ℕ

/-- Cuts a text. `plain` holds the text since what last looked like a tag, last character first, and
`slashes` counts the backslashes behind it. -/
def cutFrom (plain : List Char) (slashes : ℕ) : List Char → Cut
  | [] => ⟨[], plain.reverse, slashes⟩
  | c :: rest =>
    if c = '\\' then cutFrom plain (slashes + 1) rest
    else if c = '[' then
      match _h : tagBody? rest with
      | some (body, after) =>
        let next := cutFrom [] 0 after
        { next with
          front := plain.reverse :: List.replicate slashes '\\' :: ('[' :: body ++ [']']) ::
            next.front }
      | none => cutFrom (c :: (List.replicate slashes '\\' ++ plain)) 0 rest
    else cutFrom (c :: (List.replicate slashes '\\' ++ plain)) 0 rest
  termination_by s => s.length
  decreasing_by
    all_goals simp only [List.length_cons]
    · omega
    · have := length_tagBody? _h
      omega
    · omega
    · omega

/-- A text cut at what looks like a tag. -/
def cut (text : List Char) : Cut := cutFrom [] 0 text

/-- The pieces of a cut, without the backslashes at the end. -/
def Cut.pieces (c : Cut) : List (List Char) := c.front ++ [c.last]

section Cut

variable (plain : List Char) (slashes : ℕ)

lemma cutFrom_slash (rest : List Char) :
    cutFrom plain slashes ('\\' :: rest) = cutFrom plain (slashes + 1) rest := by
  rw [cutFrom, if_pos rfl]

lemma cutFrom_tag {rest body after : List Char} (h : tagBody? rest = some (body, after)) :
    cutFrom plain slashes ('[' :: rest) =
      { cutFrom [] 0 after with
        front := plain.reverse :: List.replicate slashes '\\' :: ('[' :: body ++ [']']) ::
          (cutFrom [] 0 after).front } := by
  rw [cutFrom, if_neg (by decide), if_pos rfl]
  split
  · next h' =>
    rw [h] at h'
    cases h'
    rfl
  · next h' =>
    rw [h] at h'
    cases h'

/-- A character that is neither a backslash nor the bracket of what looks like a tag. -/
lemma cutFrom_cons {c : Char} {rest : List Char} (hslash : c ≠ '\\')
    (htag : c = '[' → tagBody? rest = none) :
    cutFrom plain slashes (c :: rest) =
      cutFrom (c :: (List.replicate slashes '\\' ++ plain)) 0 rest := by
  rw [cutFrom, if_neg hslash]
  split
  · next hc =>
    split
    · next h' =>
      rw [htag hc] at h'
      cases h'
    · rfl
  · rfl

end Cut

/-- To show something of a text from its end in front: it holds of the empty text, it passes
backslashes and what looks like a tag, and it passes all other characters. -/
lemma cut_induction {motive : List Char → Prop} (nil : motive [])
    (slash : ∀ rest, motive rest → motive ('\\' :: rest))
    (tag : ∀ rest body after, tagBody? rest = some (body, after) → motive after →
      motive ('[' :: rest))
    (cons : ∀ c rest, c ≠ '\\' → (c = '[' → tagBody? rest = none) → motive rest →
      motive (c :: rest)) (s : List Char) : motive s := by
  -- a tag takes several characters at once, so the induction is on the length
  induction hlength : s.length using Nat.strong_induction_on generalizing s with
  | _ n ih =>
    cases s with
    | nil => exact nil
    | cons c rest =>
      have hrest : motive rest := ih rest.length (by simp [← hlength]) rest rfl
      by_cases hslash : c = '\\'
      · rw [hslash]
        exact slash rest hrest
      by_cases hopen : c = '['
      · cases htag : tagBody? rest with
        | none => exact cons c rest hslash (fun _ => htag) hrest
        | some found =>
          obtain ⟨body, after⟩ := found
          have hshorter := length_tagBody? htag
          rw [hopen]
          refine tag rest body after htag (ih after.length ?_ after rfl)
          rw [← hlength, List.length_cons]
          omega
      · exact cons c rest hslash (fun h => absurd h hopen) hrest

lemma join_cutFrom (plain : List Char) (slashes : ℕ) (s : List Char) :
    (cutFrom plain slashes s).front.flatten ++ (cutFrom plain slashes s).last ++
        List.replicate (cutFrom plain slashes s).slashes '\\' =
      plain.reverse ++ List.replicate slashes '\\' ++ s := by
  induction s using cut_induction generalizing plain slashes with
  | nil => simp [cutFrom]
  | slash rest ih => simp [cutFrom_slash, ih, List.replicate_succ']
  | tag rest body after h ih =>
    obtain ⟨rfl, -, -⟩ := tagBody?_eq_some_iff.1 h
    have hrest := ih [] 0
    rw [cutFrom_tag _ _ h]
    simp only [List.flatten_cons, List.append_assoc] at hrest ⊢
    rw [hrest]
    simp
  | cons c rest hslash htag ih =>
    rw [cutFrom_cons _ _ hslash htag, ih]
    simp

/-- The pieces of a cut, put together. -/
lemma join_cut (text : List Char) :
    (cut text).pieces.flatten ++ List.replicate (cut text).slashes '\\' = text := by
  simpa [Cut.pieces, cut] using join_cutFrom [] 0 text

/-! ### The pieces of an escaped text -/

section Steps

variable (position : ℕ) (plain : List Char) (slashes : ℕ)

lemma escapeFrom_slash (rest : List Char) :
    escapeFrom slashes ('\\' :: rest) = escapeFrom (slashes + 1) rest := by
  rw [escapeFrom, if_pos rfl]

lemma escapeFrom_tag {rest body after : List Char} (h : tagBody? rest = some (body, after)) :
    escapeFrom slashes ('[' :: rest) =
      List.replicate (2 * slashes + 1) '\\' ++ '[' :: body ++ ']' :: escapeFrom 0 after := by
  rw [escapeFrom, if_neg (by decide), if_pos rfl]
  split
  · next h' =>
    rw [h] at h'
    cases h'
    rfl
  · next h' =>
    rw [h] at h'
    cases h'

lemma escapeFrom_cons {c : Char} {rest : List Char} (hslash : c ≠ '\\')
    (htag : c = '[' → tagBody? rest = none) :
    escapeFrom slashes (c :: rest) = List.replicate slashes '\\' ++ c :: escapeFrom 0 rest := by
  rw [escapeFrom, if_neg hslash]
  split
  · next hc =>
    split
    · next h' =>
      rw [htag hc] at h'
      cases h'
    · rfl
  · rfl

lemma piecesFrom_slashes (n : ℕ) (rest : List Char) :
    piecesFrom position plain slashes (List.replicate n '\\' ++ rest) =
      piecesFrom (position + n) plain (slashes + n) rest := by
  induction n generalizing position slashes with
  | zero => rfl
  | succ n ih =>
    rw [List.replicate_succ, List.cons_append, piecesFrom, if_pos rfl, ih]
    congr 1 <;> omega

lemma piecesFrom_tag {rest body after : List Char} (h : tagBody? rest = some (body, after)) :
    piecesFrom position plain slashes ('[' :: rest) =
      textPiece plain.reverse ++ tagPieces (position - slashes) slashes body ++
        piecesFrom (position + body.length + 2) [] 0 after := by
  rw [piecesFrom, if_neg (by decide), if_pos rfl]
  split
  · next h' =>
    rw [h] at h'
    cases h'
    rfl
  · next h' =>
    rw [h] at h'
    cases h'

lemma piecesFrom_cons {c : Char} {rest : List Char} (hslash : c ≠ '\\')
    (htag : c = '[' → tagBody? rest = none) :
    piecesFrom position plain slashes (c :: rest) =
      piecesFrom (position + 1) (c :: (List.replicate slashes '\\' ++ plain)) 0 rest := by
  rw [piecesFrom, if_neg hslash]
  split
  · next hc =>
    split
    · next h' =>
      rw [htag hc] at h'
      cases h'
    · rfl
  · rfl

end Steps

/-- The first bracket of a text, if it has any, does not close. -/
def Opens (text : List Char) : Prop :=
  ∀ a s, (∀ c ∈ a, isBracket c = false) → text ≠ a ++ ']' :: s

/-- What stands in front of the first closing bracket goes on behind a text without brackets. -/
lemma exists_of_append_eq {u x a t : List Char} (hu : ∀ c ∈ u, isBracket c = false)
    (h : u ++ x = a ++ ']' :: t) : ∃ a', a = u ++ a' ∧ x = a' ++ ']' :: t := by
  induction u generalizing a with
  | nil => exact ⟨a, rfl, h⟩
  | cons c u ih =>
    rw [List.forall_mem_cons] at hu
    cases a with
    | nil =>
      obtain ⟨rfl, -⟩ := List.cons.inj h
      exact absurd hu.1 (by decide)
    | cons d a =>
      obtain ⟨rfl, hrest⟩ := List.cons.inj h
      obtain ⟨a', rfl, hx⟩ := ih hu.2 hrest
      exact ⟨a', rfl, hx⟩

lemma isBracket_of_mem_replicate {n : ℕ} : ∀ c ∈ List.replicate n '\\', isBracket c = false := by
  intro c hc
  rw [List.eq_of_mem_replicate hc]
  decide

lemma opens_nil : Opens [] := by simp [Opens]

lemma opens_open (s : List Char) : Opens ('[' :: s) := by
  intro a t ha h
  cases a with
  | nil => exact absurd (List.cons.inj h).1 (by decide)
  | cons c a =>
    obtain ⟨rfl, -⟩ := List.cons.inj h
    exact absurd (List.forall_mem_cons.1 ha).1 (by decide)

lemma Opens.slashes {text : List Char} (h : Opens text) (n : ℕ) :
    Opens (List.replicate n '\\' ++ text) := by
  intro a s ha heq
  obtain ⟨a', rfl, htext⟩ := exists_of_append_eq isBracket_of_mem_replicate heq
  exact h a' s (List.forall_mem_append.1 ha).2 htext

/-- Escaping changes nothing in front of the first bracket, if that closes. -/
lemma exists_of_escapeFrom_append {tail : List Char} (htail : Opens tail) {slashes : ℕ}
    {s a t : List Char} (ha : ∀ c ∈ a, isBracket c = false)
    (h : escapeFrom slashes s ++ tail = a ++ ']' :: t) :
    ∃ t', List.replicate slashes '\\' ++ s = a ++ ']' :: t' := by
  induction s using cut_induction generalizing slashes a with
  | nil =>
    rw [escapeFrom] at h
    exact absurd h (htail.slashes slashes a t ha)
  | slash rest ih =>
    rw [escapeFrom_slash] at h
    obtain ⟨t', ht'⟩ := ih ha h
    exact ⟨t', by simpa [List.replicate_succ'] using ht'⟩
  -- an escape puts a backslash in front of an opening bracket, which is not what closes
  | tag rest body after htag ih =>
    rw [escapeFrom_tag _ htag] at h
    simp only [List.append_assoc, List.cons_append] at h
    exact absurd h ((opens_open _).slashes _ a t ha)
  | cons c rest hslash htag ih =>
    rw [escapeFrom_cons _ hslash htag, List.append_assoc, List.cons_append] at h
    obtain ⟨b, rfl, hb⟩ := exists_of_append_eq isBracket_of_mem_replicate h
    rw [List.forall_mem_append] at ha
    cases b with
    | nil =>
      obtain ⟨rfl, -⟩ := List.cons.inj hb
      exact ⟨rest, by simp⟩
    | cons d b =>
      obtain ⟨rfl, hrest⟩ := List.cons.inj hb
      obtain ⟨t', ht'⟩ := ih (List.forall_mem_cons.1 ha.2).2 hrest
      exact ⟨t', by simpa using ht'⟩

/-- What does not look like a tag does not when it is escaped. -/
lemma tagBody?_escapeFrom {tail : List Char} (htail : Opens tail) {s : List Char}
    (h : tagBody? s = none) : tagBody? (escapeFrom 0 s ++ tail) = none := by
  cases hfound : tagBody? (escapeFrom 0 s ++ tail) with
  | none => rfl
  | some found =>
    obtain ⟨body, after⟩ := found
    obtain ⟨hsplit, hstart, hbody⟩ := tagBody?_eq_some_iff.1 hfound
    obtain ⟨after', hs⟩ := exists_of_escapeFrom_append htail hbody hsplit
    have hlooks : tagBody? s = some (body, after') := tagBody?_eq_some_iff.2 ⟨hs, hstart, hbody⟩
    rw [h] at hlooks
    cases hlooks

/-! ### What is shown -/

section Render

variable [Platform] (done : List Char) (progress : Progress)

lemma renderPieces_textPiece (content : List Char) (rest : List Piece) :
    renderPieces done progress (textPiece content ++ rest) =
      renderPieces (done ++ shown content) progress rest := by
  cases content with
  | nil =>
    rw [shown_nil, List.append_nil]
    rfl
  | cons c content => rfl

lemma renderPieces_tag {outer : Progress} {position : ℕ} {tag : Tag}
    (h : follow progress done.length position tag = .ok outer) (rest : List Piece) :
    renderPieces done progress (.tag position tag :: rest) = renderPieces done outer rest := by
  rw [renderPieces, h]
  rfl

/-- An escaped text shows the pieces of its cut, up to the last one. -/
lemma renderPieces_escapeFrom {tail : List Char} (htail : Opens tail)
    (position : ℕ) (plain : List Char) (slashes : ℕ) (s : List Char) :
    ∃ position', renderPieces done progress
        (piecesFrom position plain 0 (escapeFrom slashes s ++ tail)) =
      renderPieces (done ++ (cutFrom plain slashes s).front.flatMap shown) progress
        (piecesFrom position' (cutFrom plain slashes s).last.reverse
          (cutFrom plain slashes s).slashes tail) := by
  induction s using cut_induction generalizing done position plain slashes with
  | nil =>
    refine ⟨position + slashes, ?_⟩
    rw [escapeFrom, piecesFrom_slashes, cutFrom, List.reverse_reverse, Nat.zero_add,
      List.flatMap_nil, List.append_nil]
  | slash rest ih =>
    rw [escapeFrom_slash, cutFrom_slash]
    exact ih done position plain (slashes + 1)
  | tag rest body after h ih =>
    have hbody : tagBody? (body ++ ']' :: (escapeFrom 0 after ++ tail)) =
        some (body, escapeFrom 0 after ++ tail) := by
      obtain ⟨-, hrest⟩ := tagBody?_eq_some_iff.1 h
      exact tagBody?_eq_some_iff.2 ⟨rfl, hrest⟩
    -- the text in front, the backslashes and what looks like a tag are shown in turn
    obtain ⟨position', hafter⟩ := ih (done ++ shown plain.reverse ++
      shown (List.replicate slashes '\\') ++ shown ('[' :: body ++ [']']))
      (position + (2 * slashes + 1) + body.length + 2) [] 0
    refine ⟨position', ?_⟩
    have hodd : (2 * slashes + 1) % 2 = 1 := by omega
    have hhalf : (2 * slashes + 1) / 2 = slashes := by omega
    rw [escapeFrom_tag _ h, cutFrom_tag _ _ h]
    simp only [List.append_assoc, List.cons_append]
    rw [piecesFrom_slashes, piecesFrom_tag _ _ _ hbody, List.append_assoc, renderPieces_textPiece,
      Nat.zero_add, tagPieces, if_pos hodd, hhalf, List.append_assoc, renderPieces_textPiece]
    change renderPieces _ progress (textPiece ('[' :: body ++ [']']) ++ _) = _
    rw [renderPieces_textPiece, hafter]
    simp only [List.flatMap_cons, List.append_assoc, List.cons_append]
  | cons c rest hslash htag ih =>
    -- what does not look like a tag before it is escaped does not do so afterwards
    have htag' : c = '[' → tagBody? (escapeFrom 0 rest ++ tail) = none := fun hc =>
      tagBody?_escapeFrom htail (htag hc)
    rw [escapeFrom_cons _ hslash htag, cutFrom_cons _ _ hslash htag, List.append_assoc,
      List.cons_append, piecesFrom_slashes, piecesFrom_cons _ _ _ hslash htag', Nat.zero_add]
    exact ih done _ _ 0

end Render

lemma tagPieces_bare (position : ℕ) (body : List Char) :
    tagPieces position 0 body = [.tag position (Tag.ofBody body)] := rfl

/-! ### Backslashes at the end -/

lemma getLast?_append_cons_ne {c : Char} (hc : c ≠ '\\') (a : List Char) {s : List Char}
    (hs : s.getLast? ≠ some '\\') : (a ++ c :: s).getLast? ≠ some '\\' := by
  rw [List.getLast?_append, List.getLast?_cons]
  cases hlast : s.getLast? with
  | none => simpa using hc
  | some d =>
    rw [hlast] at hs
    simpa using hs

/-- An escaped text ends with the backslashes that the text ends with. -/
lemma exists_escapeFrom_eq (plain : List Char) (slashes : ℕ) (s : List Char) :
    ∃ t, escapeFrom slashes s = t ++ List.replicate (cutFrom plain slashes s).slashes '\\' ∧
      t.getLast? ≠ some '\\' := by
  induction s using cut_induction generalizing plain slashes with
  | nil => exact ⟨[], by rw [escapeFrom, cutFrom, List.nil_append], by simp⟩
  | slash rest ih =>
    rw [escapeFrom_slash, cutFrom_slash]
    exact ih plain (slashes + 1)
  | tag rest body after h ih =>
    obtain ⟨t, ht, hlast⟩ := ih [] 0
    rw [escapeFrom_tag _ h, cutFrom_tag _ _ h, ht]
    exact ⟨_, by rw [← List.cons_append, ← List.append_assoc],
      getLast?_append_cons_ne (by decide) _ hlast⟩
  | cons c rest hslash htag ih =>
    obtain ⟨t, ht, hlast⟩ := ih (c :: (List.replicate slashes '\\' ++ plain)) 0
    rw [escapeFrom_cons _ hslash htag, cutFrom_cons _ _ hslash htag, ht]
    exact ⟨_, by rw [← List.cons_append, ← List.append_assoc],
      getLast?_append_cons_ne hslash _ hlast⟩

/-- What stands in front of the backslashes at the end of a text does not end with one. -/
lemma getLast?_cutFrom_ne {plain : List Char} (hplain : plain.head? ≠ some '\\') (slashes : ℕ)
    (s : List Char) :
    ((cutFrom plain slashes s).front.flatten ++ (cutFrom plain slashes s).last).getLast? ≠
      some '\\' := by
  induction s using cut_induction generalizing plain slashes with
  | nil => simpa [cutFrom] using hplain
  | slash rest ih =>
    rw [cutFrom_slash]
    exact ih hplain (slashes + 1)
  | tag rest body after h ih =>
    have hafter := ih (by simp : [].head? ≠ some '\\') 0
    have hrest := getLast?_append_cons_ne (by decide : ']' ≠ '\\')
      (plain.reverse ++ (List.replicate slashes '\\' ++ '[' :: body)) hafter
    rw [cutFrom_tag _ _ h]
    simpa using hrest
  | cons c rest hslash htag ih =>
    rw [cutFrom_cons _ _ hslash htag]
    exact ih (by simpa using hslash) 0

/-- The backslashes that an escaped text ends with. -/
def Cut.written (c : Cut) : ℕ := if c.slashes = 1 then 2 else c.slashes

lemma closeEscape_append_replicate {t : List Char} (ht : t.getLast? ≠ some '\\') (n : ℕ) :
    closeEscape (t ++ List.replicate n '\\') =
      t ++ List.replicate n '\\' ++ List.replicate (if n = 1 then 1 else 0) '\\' := by
  obtain ⟨u, rfl⟩ : ∃ u : List Char, t = u.reverse := ⟨t.reverse, by simp⟩
  rw [List.getLast?_reverse] at ht
  rw [closeEscape, List.reverse_append, List.reverse_reverse, List.reverse_replicate]
  match n with
  | 0 =>
    cases u with
    | nil => rfl
    | cons c u =>
      have hc : c ≠ '\\' := by simpa using ht
      simp [hc]
  | 1 =>
    cases u with
    | nil => rfl
    | cons c u =>
      have hc : c ≠ '\\' := by simpa using ht
      simp [hc]
  | n + 2 => simp [List.replicate_succ]

/-- A backslash that stands alone at the end is doubled. -/
lemma toList_escape (text : String) :
    (escape text).toList = escapeFrom 0 text.toList ++
      List.replicate (if (cut text.toList).slashes = 1 then 1 else 0) '\\' := by
  obtain ⟨t, ht, hlast⟩ := exists_escapeFrom_eq [] 0 text.toList
  rw [escape, String.toList_ofList, ht, closeEscape_append_replicate hlast]
  rfl

/-- The backslashes behind the pieces of an escaped text. -/
lemma renderPieces_escape [Platform] (done : List Char) (progress : Progress) (position : ℕ)
    (text : String) {tail : List Char} (htail : Opens tail) :
    ∃ position', renderPieces done progress
        (piecesFrom position [] 0 ((escape text).toList ++ tail)) =
      renderPieces (done ++ (cut text.toList).front.flatMap shown) progress
        (piecesFrom position' (cut text.toList).last.reverse (cut text.toList).written tail) := by
  obtain ⟨position', hrun⟩ := renderPieces_escapeFrom done progress
    (htail.slashes (if (cut text.toList).slashes = 1 then 1 else 0)) position [] 0 text.toList
  refine ⟨position' + (if (cut text.toList).slashes = 1 then 1 else 0), ?_⟩
  have hwritten : (cut text.toList).slashes + (if (cut text.toList).slashes = 1 then 1 else 0) =
      (cut text.toList).written := by
    rw [Cut.written]
    split <;> omega
  rw [toList_escape, List.append_assoc, hrun, piecesFrom_slashes, ← hwritten]
  rfl

/-! ### Escaped texts in markup -/

/-- An escaped text shows the pieces of its cut, with a backslash that stands alone at the end
doubled. -/
lemma render_escape [Platform] (text : String) :
    render (escape text) = .ok ⟨(cut text.toList).pieces.flatMap shown ++
      List.replicate (cut text.toList).written '\\', []⟩ := by
  obtain ⟨position, hrun⟩ := renderPieces_escape [] ⟨[], []⟩ 0 text opens_nil
  rw [List.append_nil] at hrun
  have hlast := renderPieces_textPiece ((cut text.toList).front.flatMap shown) ⟨[], []⟩
    ((cut text.toList).last ++ List.replicate (cut text.toList).written '\\') []
  rw [List.append_nil, shown_append_slashes] at hlast
  rw [render, pieces, hrun, piecesFrom, List.reverse_reverse, List.nil_append, hlast]
  simp [renderPieces, Cut.pieces]

/-- The name of a style that is opened and closed as it stands. -/
structure IsStyle (name : String) : Prop where
  trimmed : Text.trim name = name
  starts : ∃ c, name.toList.head? = some c ∧ startsTag c = true ∧ c ≠ '/' ∧ c ≠ '@'
  body : ∀ c ∈ name.toList, isBracket c = false ∧ c ≠ '='
  normal : Style.normalize name = .ok name
  sound : Style.numberFault? name = none

/-- Texts in which nothing is marked up. -/
def IsUnmarked (text : List Char) : Prop := ∀ c ∈ text, c ≠ '\\' ∧ c ≠ '['

lemma piecesFrom_unmarked {lead : List Char} (hlead : IsUnmarked lead) (position : ℕ)
    (plain s : List Char) :
    piecesFrom position plain 0 (lead ++ s) =
      piecesFrom (position + lead.length) (lead.reverse ++ plain) 0 s := by
  induction lead generalizing position plain with
  | nil => rfl
  | cons c lead ih =>
    obtain ⟨⟨hslash, hopen⟩, hlead⟩ := List.forall_mem_cons.1 hlead
    rw [List.cons_append, piecesFrom_cons _ _ _ hslash fun h => absurd h hopen, ih hlead,
      List.length_cons, Nat.add_assoc, Nat.add_comm 1]
    simp

lemma escapeFrom_unmarked {lead : List Char} (hlead : IsUnmarked lead) (s : List Char) :
    escapeFrom 0 (lead ++ s) = lead ++ escapeFrom 0 s := by
  induction lead with
  | nil => rfl
  | cons c lead ih =>
    obtain ⟨⟨hslash, hopen⟩, hlead⟩ := List.forall_mem_cons.1 hlead
    rw [List.cons_append, escapeFrom_cons _ hslash fun h => absurd h hopen, ih hlead]
    rfl

lemma slashes_cutFrom (plain other : List Char) (slashes : ℕ) (s : List Char) :
    (cutFrom plain slashes s).slashes = (cutFrom other slashes s).slashes := by
  induction s using cut_induction generalizing plain other slashes with
  | nil => simp [cutFrom]
  | slash rest ih => simpa [cutFrom_slash] using ih plain other (slashes + 1)
  | tag rest body after h ih => simp [cutFrom_tag _ _ h]
  | cons c rest hslash htag ih =>
    rw [cutFrom_cons _ _ hslash htag, cutFrom_cons _ _ hslash htag]
    exact ih _ _ 0

lemma cutFrom_unmarked {lead : List Char} (hlead : IsUnmarked lead) (plain s : List Char) :
    cutFrom plain 0 (lead ++ s) = cutFrom (lead.reverse ++ plain) 0 s := by
  induction lead generalizing plain with
  | nil => rfl
  | cons c lead ih =>
    obtain ⟨⟨hslash, hopen⟩, hlead⟩ := List.forall_mem_cons.1 hlead
    rw [List.cons_append, cutFrom_cons _ _ hslash fun h => absurd h hopen, ih hlead]
    simp

lemma slashes_cut_unmarked {lead : List Char} (hlead : IsUnmarked lead) (s : List Char) :
    (cut (lead ++ s)).slashes = (cut s).slashes := by
  rw [cut, cutFrom_unmarked hlead]
  exact slashes_cutFrom _ _ 0 s

lemma cut_unmarked {text : List Char} (h : IsUnmarked text) : cut text = ⟨[], text, 0⟩ := by
  have hcut := cutFrom_unmarked h [] []
  rw [List.append_nil] at hcut
  rw [cut, hcut, cutFrom]
  simp

/-- Escaping does not change a text in front in which nothing is marked up. -/
lemma escape_append {lead : String} (hlead : IsUnmarked lead.toList) (text : String) :
    escape (lead ++ text) = lead ++ escape text := by
  rw [← String.toList_inj, String.toList_append, toList_escape, toList_escape, String.toList_append,
    escapeFrom_unmarked hlead, slashes_cut_unmarked hlead, List.append_assoc]

lemma escape_of_unmarked {text : String} (h : IsUnmarked text.toList) : escape text = text := by
  have hempty : escape "" = "" := by simp [escape, escapeFrom, closeEscape]
  simpa [hempty] using escape_append h ""

lemma renderPieces_unmarked [Platform] {text : List Char} (h : IsUnmarked text) (done : List Char)
    (progress : Progress) (position : ℕ) :
    renderPieces done progress (piecesFrom position [] 0 text) =
      renderPieces (done ++ shown text) progress [] := by
  have hpieces := piecesFrom_unmarked h position [] []
  rw [List.append_nil] at hpieces
  have htext := renderPieces_textPiece done progress text []
  rw [List.append_nil] at htext
  rw [hpieces, piecesFrom]
  simpa using htext

lemma Tag.ofBody_of_notMem {body : List Char} (h : ∀ c ∈ body, c ≠ '=') :
    Tag.ofBody body = ⟨body, none⟩ := by
  have htake : (body.takeWhile fun c => c ≠ '=') = body :=
    List.takeWhile_eq_self_iff.2 fun c hc => decide_eq_true (h c hc)
  rw [ofBody, htake, List.drop_length]

section IsStyle

variable {name : String} (h : IsStyle name)

include h

lemma IsStyle.tagBody?_open (after : List Char) :
    tagBody? (name.toList ++ ']' :: after) = some (name.toList, after) := by
  obtain ⟨c, hc, hstarts, -⟩ := h.starts
  exact tagBody?_eq_some_iff.2 ⟨rfl, ⟨c, hc, hstarts⟩, fun d hd => (h.body d hd).1⟩

lemma IsStyle.tagBody?_close (after : List Char) :
    tagBody? ('/' :: name.toList ++ ']' :: after) = some ('/' :: name.toList, after) :=
  tagBody?_eq_some_iff.2 ⟨rfl, ⟨'/', rfl, by decide⟩,
    List.forall_mem_cons.2 ⟨by decide, fun d hd => (h.body d hd).1⟩⟩

/-- The tag of a style, when it is opened. -/
def opened (name : String) (start : ℕ) : OpenTag := ⟨start, name, ""⟩

lemma IsStyle.follow_open [Platform] (progress : Progress) (start position : ℕ) :
    follow progress start position (Tag.ofBody name.toList) =
      .ok { progress with opened := opened name start :: progress.opened } := by
  obtain ⟨c, hc, -, hslash, -⟩ := h.starts
  rw [Tag.ofBody_of_notMem fun d hd => (h.body d hd).2]
  unfold follow
  split
  · next rest hname =>
    dsimp only at hname
    rw [hname] at hc
    exact absurd (Option.some.inj hc).symm hslash
  · rw [String.ofList_toList, tagName, h.normal]
    rfl

lemma IsStyle.follow_close [Platform] (start stop position : ℕ) :
    follow ⟨[opened name start], []⟩ stop position (Tag.ofBody ('/' :: name.toList)) =
      .ok ⟨[], [⟨start, stop, name⟩]⟩ := by
  obtain ⟨c, hc, -, -, hhandler⟩ := h.starts
  have hname : name ≠ "" := by
    rintro rfl
    simp at hc
  have hsilent : (opened name start).isHandler = false := by
    rw [OpenTag.isHandler, opened, hc]
    simpa using hhandler
  have hclose : close? name [opened name start] = some (opened name start, []) := by
    rw [close?, if_pos (by rfl)]
  rw [Tag.ofBody_of_notMem (List.forall_mem_cons.2 ⟨by decide, fun d hd => (h.body d hd).2⟩)]
  unfold follow
  simp only [String.ofList_toList, h.trimmed, if_neg hname, tagName, h.normal, Except.mapError,
    bind, Except.bind, hclose]
  rw [Progress.close, hsilent]
  rfl

/-- Spans of a style whose numbers read are not faulty. -/
lemma IsStyle.faulty_eq_nil {rendered : Rendered}
    (hspans : ∀ span ∈ rendered.spans, span.style = name) : rendered.faulty = [] := by
  refine List.filterMap_eq_nil_iff.2 fun span hspan => ?_
  rw [Span.faulty?, hspans span hspan, h.sound]
  rfl

/-- An escaped text in a style. Two or more backslashes at its end take part in the tag behind: half
of them are shown, and of an odd number the tag as well. -/
lemma render_styled [Platform] {lead finish : String} (hlead : IsUnmarked lead.toList)
    (hfinish : IsUnmarked finish.toList) (text : String) :
    ∃ rendered, render
        (lead ++ "[" ++ name ++ "]" ++ escape text ++ "[/" ++ name ++ "]" ++ finish) =
          .ok rendered ∧
      rendered.text = shown lead.toList ++ (cut text.toList).pieces.flatMap shown ++
        List.replicate ((cut text.toList).written / 2) '\\' ++
        (if (cut text.toList).written % 2 = 1 then shown ('[' :: '/' :: name.toList ++ [']'])
          else []) ++
        shown finish.toList ∧
      rendered.faulty = [] := by
  have htext : (lead ++ "[" ++ name ++ "]" ++ escape text ++ "[/" ++ name ++ "]" ++ finish).toList =
      lead.toList ++ '[' :: (name.toList ++ ']' :: ((escape text).toList ++
        '[' :: ('/' :: name.toList ++ ']' :: finish.toList))) := by
    simp
  obtain ⟨position, hrun⟩ := renderPieces_escape (shown lead.toList)
    ⟨[opened name (shown lead.toList).length], []⟩
    (lead.toList.length + name.toList.length + 2) text
    (opens_open ('/' :: name.toList ++ ']' :: finish.toList))
  rw [render, pieces, htext, piecesFrom_unmarked hlead, List.append_nil, Nat.zero_add,
    piecesFrom_tag _ _ _ (h.tagBody?_open _), List.reverse_reverse, List.append_assoc,
    renderPieces_textPiece, List.nil_append, tagPieces_bare, List.singleton_append,
    renderPieces_tag _ _ (h.follow_open _ _ _), hrun, piecesFrom_tag _ _ _ (h.tagBody?_close _),
    List.reverse_reverse, List.append_assoc (textPiece _), renderPieces_textPiece, tagPieces,
    List.append_assoc (textPiece _), renderPieces_textPiece, shown_slashes]
  -- after an odd number of backslashes the closing tag is text, and the style ends with the line
  by_cases hodd : (cut text.toList).written % 2 = 1
  · rw [if_pos hodd, if_pos hodd]
    change ∃ rendered,
      renderPieces _ _ (textPiece ('[' :: '/' :: name.toList ++ [']']) ++ _) = _ ∧ _
    rw [renderPieces_textPiece, renderPieces_unmarked hfinish, renderPieces]
    refine ⟨_, rfl, ?_, ?_⟩
    · simp [Cut.pieces]
    · refine h.faulty_eq_nil fun span hspan => ?_
      rw [List.mem_mergeSort] at hspan
      simp only [List.reverse_singleton, List.map_singleton, List.append_nil] at hspan
      rw [List.mem_singleton.1 (List.mem_of_mem_filter hspan)]
      rfl
  · rw [if_neg hodd, if_neg hodd, List.singleton_append,
      renderPieces_tag _ _ (h.follow_close _ _ _), renderPieces_unmarked hfinish, renderPieces]
    refine ⟨_, rfl, ?_, ?_⟩
    · simp [Cut.pieces]
    · refine h.faulty_eq_nil fun span hspan => ?_
      rw [List.mem_mergeSort] at hspan
      rw [List.mem_singleton.1 hspan]

/-- A text in which nothing is marked up or replaced is shown as it is. -/
lemma render_unmarked [Platform] {text : String} (hmarked : IsUnmarked text.toList)
    (hliteral : Literal text.toList) :
    ∃ rendered, render ("[" ++ name ++ "]" ++ text ++ "[/" ++ name ++ "]") = .ok rendered ∧
      rendered.text = text.toList ∧ rendered.faulty = [] := by
  have hempty : IsUnmarked "".toList := by simp [IsUnmarked]
  obtain ⟨rendered, hrendered, htext, hfaulty⟩ := render_styled h hempty hempty text
  rw [escape_of_unmarked hmarked, String.empty_append, String.append_empty] at hrendered
  refine ⟨rendered, hrendered, ?_, hfaulty⟩
  rw [htext, cut_unmarked hmarked]
  simp [Cut.pieces, Cut.written, hliteral.shown_eq]

end IsStyle

end RuleFixtures.Console.Markup
