import RuleFixtures.Proofs.PromQL.Dependencies

/-!
The metric names in the expressions that are read.

A word has characters, and all of them are those of names; the name of a selector is a word. So the
readers are followed with some word that the tokens lack: no selector has it as its name.

* `Token.IsName` holds of the texts that words may have; `Token.lacks_scanFrom?`: no other text is a
  word among the tokens.
* `Grammar.lacks_selector?` and its like: what a reader leaves over are tokens of the text.
* `Grammar.Sound` says what the readers of expressions keep, `Grammar.sound` that they do.
* `Expr.isName_of_parse?`: the selectors in an expression that is read have names that are words.
-/

namespace RuleFixtures.PromQL

/-! ### Words -/

namespace Token

/-- Is the text made of the characters of names, and not empty? -/
def IsName (text : String) : Prop := text ≠ "" ∧ ∀ c ∈ text.toList, isNameChar c = true

variable {w : String}

/-- No token is the word. -/
def Lacks (w : String) (tokens : List Token) : Prop := Token.word w ∉ tokens

@[simp, grind =]
lemma lacks_nil : Lacks w [] ↔ True := by simp [Lacks]

@[simp, grind =]
lemma lacks_cons {token : Token} {tokens : List Token} :
    Lacks w (token :: tokens) ↔ token ≠ .word w ∧ Lacks w tokens := by
  simp [Lacks, eq_comm]

lemma lacks_reverse {tokens : List Token} : Lacks w tokens.reverse ↔ Lacks w tokens := by
  simp [Lacks]

lemma ne_word_of_map {α : Type} {read : Option (α × List Char)} {kind : α → Token}
    {token : Token} {rest : List Char} (hkind : ∀ a, kind a ≠ .word w)
    (h : (read.map fun found => (kind found.1, found.2)) = some (token, rest)) :
    token ≠ .word w := by
  obtain ⟨found, _, hfound⟩ := Option.map_eq_some_iff.1 h
  rw [← (Prod.mk.inj hfound).1]
  exact hkind found.1

lemma readNumber?_ne_word {s rest : List Char} {token : Token}
    (h : readNumber? s = some (token, rest)) : token ≠ .word w := by
  simp only [readNumber?] at h
  repeat' split at h
  all_goals
    simp only [Option.map_eq_some_iff, Prod.mk.injEq, reduceCtorEq] at h
  all_goals
    obtain ⟨_, _, rfl, _⟩ := h
    exact Token.noConfusion

lemma readSymbol?_ne_word {s rest : List Char} {token : Token}
    (h : readSymbol? s = some (token, rest)) : token ≠ .word w := by
  unfold readSymbol? at h
  grind

/-- A word starts with the character at which it is met and goes on as names do. -/
lemma next?_ne_word (hw : ¬ IsName w) {inBrackets : Bool} {s rest : List Char}
    {token : Token} (h : next? inBrackets s = some (token, rest)) : token ≠ .word w := by
  cases s with
  | nil => cases h
  | cons c tail =>
    simp only [next?] at h
    split at h
    · grind
    split at h
    · exact readNumber?_ne_word h
    split at h
    · exact ne_word_of_map (fun _ => Token.noConfusion) h
    split at h
    · exact ne_word_of_map (fun _ => Token.noConfusion) h
    split at h
    -- only this case reads a word, which then consists of characters of names
    · next hcolon _ _ _ hletter =>
      have hkeep : (if inBrackets then isWordChar else isNameChar) c = true := by
        cases inBrackets <;> simp_all [isWordChar, isNameChar]
      have hname (d : Char) (hd : (if inBrackets then isWordChar else isNameChar) d = true) :
          isNameChar d = true := by
        cases inBrackets <;> simp_all [isNameChar]
      rw [← (Prod.mk.inj (Option.some.inj h)).1]
      intro hword
      obtain rfl := Token.word.inj hword
      refine hw ⟨fun hempty => ?_, fun d hd => ?_⟩
      · rw [List.takeWhile_cons_of_pos hkeep] at hempty
        have hnil := congrArg String.toList hempty
        rw [String.toList_ofList] at hnil
        cases hnil
      · rw [String.toList_ofList] at hd
        exact hname d (List.all_eq_true.1 List.all_takeWhile d hd)
    · exact readSymbol?_ne_word h

/-- The words among the tokens that are read are names. -/
lemma lacks_scanFrom? (hw : ¬ IsName w) {inBrackets : Bool} {done : List Token} {s : List Char}
    {tokens : List Token} (hdone : Lacks w done) (h : scanFrom? inBrackets done s = some tokens) :
    Lacks w tokens := by
  fun_induction scanFrom? inBrackets done s with
  | case1 inBrackets done s body hempty =>
    rw [← Option.some.inj h]
    exact lacks_reverse.2 hdone
  | case2 inBrackets done s body hbody token rest hnext hlength inside ih =>
    exact ih (lacks_cons.2 ⟨next?_ne_word hw hnext, hdone⟩) h
  | _ => cases h

end Token

/-! ### What readers leave over -/

namespace Grammar

open Token (Lacks)

variable {w : String} {rest tokens : List Token}

lemma lacks_moment? {moment : Moment} (h : moment? tokens = some (moment, rest))
    (htokens : Lacks w tokens) : Lacks w rest := by
  unfold moment? at h
  grind [Option.bind_eq_some_iff]

lemma lacks_offset? {offset : Int} (h : offset? tokens = some (offset, rest))
    (htokens : Lacks w tokens) : Lacks w rest := by
  unfold offset? at h
  grind [Option.bind_eq_some_iff]

lemma lacks_bounds? {duration : Nat} {step : Option (Option Nat)}
    (h : bounds? tokens = some (duration, step, rest)) (htokens : Lacks w tokens) :
    Lacks w rest := by
  unfold bounds? at h
  grind [Option.bind_eq_some_iff]

lemma lacks_labelsFrom? {labels : List String} (h : labelsFrom? tokens = some (labels, rest))
    (htokens : Lacks w tokens) : Lacks w rest := by
  fun_induction labelsFrom? tokens generalizing labels rest <;> grind [Option.bind_eq_some_iff]

lemma lacks_labels? {labels : List String} (h : labels? tokens = some (labels, rest))
    (htokens : Lacks w tokens) : Lacks w rest := by
  unfold labels? at h
  split at h
  · exact lacks_labelsFrom? h (Token.lacks_cons.1 htokens).2
  · cases h

lemma lacks_grouping? {grouping : Option Grouping} (h : grouping? tokens = some (grouping, rest))
    (htokens : Lacks w tokens) : Lacks w rest := by
  unfold grouping? at h
  split at h
  · have hinner := (Token.lacks_cons.1 htokens).2
    split at h
    · obtain ⟨⟨labels, tail⟩, hlabels, h⟩ := Option.bind_eq_some_iff.1 h
      cases h
      exact lacks_labels? hlabels hinner
    split at h
    · obtain ⟨⟨labels, tail⟩, hlabels, h⟩ := Option.bind_eq_some_iff.1 h
      cases h
      exact lacks_labels? hlabels hinner
    · cases h
      exact htokens
  · cases h
    exact htokens

lemma lacks_group? {group : Option (Side × List String)} (h : group? tokens = some (group, rest))
    (htokens : Lacks w tokens) : Lacks w rest := by
  unfold group? at h
  extract_lets included at h
  have hincluded {side : Side} {inner : List Token} (hinner : Lacks w inner)
      (h : included side inner = some (group, rest)) : Lacks w rest := by
    dsimp only [included] at h
    split at h
    · obtain ⟨⟨labels, after⟩, hlabels, h⟩ := Option.bind_eq_some_iff.1 h
      cases h
      exact lacks_labelsFrom? hlabels (Token.lacks_cons.1 hinner).2
    · cases h
      exact hinner
  split at h
  · have hinner := (Token.lacks_cons.1 htokens).2
    split at h
    · exact hincluded hinner h
    split at h
    · exact hincluded hinner h
    · cases h
      exact htokens
  · cases h
    exact htokens

lemma lacks_matching? {matching : Option Matching} (h : matching? tokens = some (matching, rest))
    (htokens : Lacks w tokens) : Lacks w rest := by
  unfold matching? at h
  extract_lets matchedBy at h
  have hmatched {isOn : Bool} {inner : List Token} (hinner : Lacks w inner)
      (h : matchedBy isOn inner = some (matching, rest)) : Lacks w rest := by
    obtain ⟨⟨labels, tail⟩, hlabels, h⟩ := Option.bind_eq_some_iff.1 h
    obtain ⟨⟨group, after⟩, hgroup, h⟩ := Option.bind_eq_some_iff.1 h
    cases h
    exact lacks_group? hgroup (lacks_labels? hlabels hinner)
  split at h
  · have hinner := (Token.lacks_cons.1 htokens).2
    split at h
    · exact hmatched hinner h
    split at h
    · exact hmatched hinner h
    · cases h
      exact htokens
  · cases h
    exact htokens

lemma lacks_matcher? {matcher : Matcher} (h : matcher? tokens = some (matcher, rest))
    (htokens : Lacks w tokens) : Lacks w rest := by
  unfold matcher? at h
  grind [Option.bind_eq_some_iff]

lemma lacks_matchersFrom? {fuel : Nat} {groups read : List (List Matcher)} {group : List Matcher}
    (h : matchersFrom? fuel groups group tokens = some (read, rest)) (htokens : Lacks w tokens) :
    Lacks w rest := by
  induction fuel generalizing groups group tokens with
  | zero => cases h
  | succ fuel ih =>
    obtain ⟨⟨matcher, after⟩, hmatcher, h⟩ := Option.bind_eq_some_iff.1 h
    have hafter : Lacks w after := lacks_matcher? hmatcher htokens
    dsimp only at h
    split at h
    · cases h
      exact (Token.lacks_cons.1 hafter).2
    · cases h
      exact (Token.lacks_cons.1 (Token.lacks_cons.1 hafter).2).2
    · exact ih h (Token.lacks_cons.1 hafter).2
    · split at h
      · exact ih h (Token.lacks_cons.1 hafter).2
      · cases h
    · cases h

/-- A selector has the name that was read before it. -/
lemma lacks_selector? {name : Option String} {s : Selector}
    (h : selector? name tokens = some (s, rest)) (htokens : Lacks w tokens) :
    Lacks w rest ∧ s.name = name := by
  unfold selector? at h
  split at h
  · cases h
    exact ⟨(Token.lacks_cons.1 (Token.lacks_cons.1 htokens).2).2, rfl⟩
  · obtain ⟨⟨groups, tail⟩, hgroups, h⟩ := Option.bind_eq_some_iff.1 h
    have htail : Lacks w tail := lacks_matchersFrom? hgroups (Token.lacks_cons.1 htokens).2
    dsimp only at h
    split at h
    all_goals
      cases h
      exact ⟨htail, rfl⟩
  · cases h
    exact ⟨htokens, rfl⟩

/-! ### The names in an expression -/

/-- No selector in the expression has the word as its name. -/
def Omits (w : String) (e : Expr) : Prop := w ∉ e.mentions

/-- No selector in one of the expressions has it. -/
def AllOmit (w : String) (es : List Expr) : Prop := ∀ e ∈ es, Omits w e

@[grind =]
lemma omits_selector (s : Selector) : Omits w (.selector s) ↔ s.metric? ≠ some w := by
  cases h : s.metric? <;> simp [Omits, Expr.mentions, Expr.preorder, Expr.selectorName?, h, eq_comm]

@[grind =]
lemma omits_range (s : Selector) (duration : Nat) :
    Omits w (.range s duration) ↔ s.metric? ≠ some w := by
  cases h : s.metric? <;> simp [Omits, Expr.mentions, Expr.preorder, Expr.selectorName?, h, eq_comm]

@[grind =]
lemma omits_number (value : Binary64) : Omits w (.number value) ↔ True := by
  simp [Omits, Expr.mentions, Expr.preorder, Expr.selectorName?]

@[grind =]
lemma omits_text (value : String) : Omits w (.text value) ↔ True := by
  simp [Omits, Expr.mentions, Expr.preorder, Expr.selectorName?]

@[grind =]
lemma omits_subquery (body : Expr) (duration : Nat) (step : Option Nat) (moment : Option Moment)
    (offset : Option Int) :
    Omits w (.subquery body duration step moment offset) ↔ Omits w body := by
  simp [Omits, Expr.mentions, Expr.preorder, Expr.selectorName?]

@[grind =]
lemma omits_call (function : String) (es : List Expr) :
    Omits w (.call function es) ↔ AllOmit w es := by
  have hall (es : List Expr) :
      w ∉ (Expr.preorderAll es).filterMap Expr.selectorName? ↔ AllOmit w es := by
    induction es with
    | nil => simp [Expr.preorderAll, AllOmit]
    | cons e rest ih =>
      rw [Expr.preorderAll, List.filterMap_append, List.mem_append, not_or, ih, AllOmit, AllOmit,
        List.forall_mem_cons]
      rfl
  rw [← hall]
  simp [Omits, Expr.mentions, Expr.preorder, Expr.selectorName?]

@[grind =]
lemma omits_binary (op : BinaryOp) (returnsBool : Bool) (matching : Option Matching)
    (left right : Expr) :
    Omits w (.binary op returnsBool matching left right) ↔ Omits w left ∧ Omits w right := by
  rw [Omits, Expr.mentions, Expr.preorder, List.filterMap_cons_none rfl, List.filterMap_append,
    List.mem_append, not_or]
  rfl

@[grind =]
lemma omits_aggregate (op : Aggregation) (grouping : Option Grouping) (body : Expr) :
    Omits w (.aggregate op grouping body) ↔ Omits w body := by
  simp [Omits, Expr.mentions, Expr.preorder, Expr.selectorName?]

@[grind =]
lemma omits_aggregateWith (op : Aggregation) (grouping : Option Grouping) (body parameter : Expr) :
    Omits w (.aggregateWith op grouping body parameter) ↔ Omits w body ∧ Omits w parameter := by
  rw [Omits, Expr.mentions, Expr.preorder, List.filterMap_cons_none rfl, List.filterMap_append,
    List.mem_append, not_or]
  rfl

@[grind =]
lemma omits_negation (body : Expr) : Omits w (.negation body) ↔ Omits w body := by
  simp [Omits, Expr.mentions, Expr.preorder, Expr.selectorName?]

@[grind =]
lemma omits_paren (body : Expr) : Omits w (.paren body) ↔ Omits w body := by
  simp [Omits, Expr.mentions, Expr.preorder, Expr.selectorName?]

/-! ### Reading expressions -/

lemma omits_withMoment? {moment : Moment} {e changed : Expr}
    (h : withMoment? moment e = some changed) (he : Omits w e) : Omits w changed := by
  unfold withMoment? at h
  grind

lemma omits_withOffset? {offset : Int} {e changed : Expr}
    (h : withOffset? offset e = some changed) (he : Omits w e) : Omits w changed := by
  unfold withOffset? at h
  grind

lemma omits_withRange? {duration : Nat} {e changed : Expr}
    (h : withRange? duration e = some changed) (he : Omits w e) : Omits w changed := by
  unfold withRange? at h
  grind

/-- A selector that is read behind another name, or behind none, omits the word. -/
lemma selector?_sound {name : Option String} {s : Selector} (hname : name ≠ some w)
    (h : selector? name tokens = some (s, rest)) (htokens : Lacks w tokens) :
    Omits w (.selector s) ∧ Lacks w rest := by
  obtain ⟨hrest, hown⟩ := lacks_selector? h htokens
  refine ⟨(omits_selector s).2 fun hmetric => hname ?_, hrest⟩
  obtain ⟨hw, -⟩ := Selector.metric?_eq_some_iff.1 hmetric
  exact hown.symm.trans hw

lemma suffixes?_sound {fuel : Nat} {e read : Expr} (h : suffixes? fuel e tokens = some (read, rest))
    (he : Omits w e) (htokens : Lacks w tokens) : Omits w read ∧ Lacks w rest := by
  induction fuel generalizing e tokens with
  | zero => cases h
  | succ fuel ih =>
    unfold suffixes? at h
    split at h
    -- brackets: a range, or a subquery with its step
    · next inner =>
      have hinner : Lacks w inner := (Token.lacks_cons.1 htokens).2
      obtain ⟨⟨duration, subquery, tail⟩, hbounds, h⟩ := Option.bind_eq_some_iff.1 h
      have htail : Lacks w tail := lacks_bounds? hbounds hinner
      cases subquery with
      | none =>
        obtain ⟨ranged, hranged, h⟩ := Option.bind_eq_some_iff.1 h
        exact ih h (omits_withRange? hranged he) htail
      | some step => exact ih h ((omits_subquery ..).2 he) htail
    · next inner =>
      have hinner : Lacks w inner := (Token.lacks_cons.1 htokens).2
      obtain ⟨⟨moment, tail⟩, hmoment, h⟩ := Option.bind_eq_some_iff.1 h
      obtain ⟨pinned, hpinned, h⟩ := Option.bind_eq_some_iff.1 h
      exact ih h (omits_withMoment? hpinned he) (lacks_moment? hmoment hinner)
    · next inner _ _ =>
      have hinner : Lacks w inner := (Token.lacks_cons.1 htokens).2
      split at h
      · obtain ⟨⟨offset, tail⟩, hoffset, h⟩ := Option.bind_eq_some_iff.1 h
        obtain ⟨shifted, hshifted, h⟩ := Option.bind_eq_some_iff.1 h
        exact ih h (omits_withOffset? hshifted he) (lacks_offset? hoffset hinner)
      · cases h
        exact ⟨he, htokens⟩
    · cases h
      exact ⟨he, htokens⟩

lemma omits_negate {e : Expr} (he : Omits w e) : Omits w (negate e) := by
  unfold negate
  grind

lemma omits_aggregate? {op : Aggregation} {grouping : Option Grouping} {es : List Expr} {e : Expr}
    (h : aggregate? op grouping es = some e) (hes : AllOmit w es) : Omits w e := by
  unfold aggregate? at h
  unfold AllOmit at hes
  grind

/-- What the readers of expressions keep, up to a depth: of tokens without a word they make
expressions without the name, and leave such tokens over. -/
structure Sound (w : String) (fuel : Nat) : Prop where
  expression : ∀ {level : Nat} {tokens rest : List Token} {e : Expr},
    expression? fuel level tokens = some (e, rest) → Lacks w tokens → Omits w e ∧ Lacks w rest
  operations : ∀ {level : Nat} {tokens rest : List Token} {left e : Expr},
    operations? fuel level left tokens = some (e, rest) → Omits w left → Lacks w tokens →
      Omits w e ∧ Lacks w rest
  operand : ∀ {tokens rest : List Token} {e : Expr},
    operand? fuel tokens = some (e, rest) → Lacks w tokens → Omits w e ∧ Lacks w rest
  primary : ∀ {tokens rest : List Token} {e : Expr},
    primary? fuel tokens = some (e, rest) → Lacks w tokens → Omits w e ∧ Lacks w rest
  aggregation : ∀ {op : Aggregation} {tokens rest : List Token} {e : Expr},
    aggregation fuel op tokens = some (e, rest) → Lacks w tokens → Omits w e ∧ Lacks w rest
  arguments : ∀ {tokens rest : List Token} {es : List Expr},
    arguments? fuel tokens = some (es, rest) → Lacks w tokens → AllOmit w es ∧ Lacks w rest
  argumentsFrom : ∀ {tokens rest : List Token} {es : List Expr},
    argumentsFrom? fuel tokens = some (es, rest) → Lacks w tokens → AllOmit w es ∧ Lacks w rest

namespace Sound

variable {fuel : Nat} (ih : Sound w fuel) {e : Expr} {es : List Expr}
include ih

lemma expression_succ {level : Nat} (h : expression? (fuel + 1) level tokens = some (e, rest))
    (htokens : Lacks w tokens) : Omits w e ∧ Lacks w rest := by
  unfold expression? at h
  obtain ⟨⟨left, tail⟩, hleft, h⟩ := Option.bind_eq_some_iff.1 h
  obtain ⟨hnamed, htail⟩ := ih.operand hleft htokens
  exact ih.operations h hnamed htail

lemma operations_succ {level : Nat} {left : Expr}
    (h : operations? (fuel + 1) level left tokens = some (e, rest)) (hleft : Omits w left)
    (htokens : Lacks w tokens) : Omits w e ∧ Lacks w rest := by
  unfold operations? at h
  split at h
  · next token inner =>
    have hinner : Lacks w inner := (Token.lacks_cons.1 htokens).2
    split at h
    · next op _ =>
      split at h
      · cases h
        exact ⟨hleft, htokens⟩
      -- the word that makes a comparison return numbers may stand in between
      · have hflag : ∀ flagged : Bool × List Token, Lacks w flagged.2 →
            ((matching? flagged.2).bind fun matched =>
              (expression? fuel (if op = .pow then bindingLevel op else bindingLevel op + 1)
                matched.2).bind fun right =>
              operations? fuel level (.binary op flagged.1 matched.1 left right.1) right.2) =
                some (e, rest) → Omits w e ∧ Lacks w rest := by
          rintro ⟨returnsBool, after⟩ hafter h
          obtain ⟨⟨matching, tail⟩, hmatching, h⟩ := Option.bind_eq_some_iff.1 h
          obtain ⟨⟨right, final⟩, hright, h⟩ := Option.bind_eq_some_iff.1 h
          obtain ⟨hnamed, hfinal⟩ := ih.expression hright (lacks_matching? hmatching hafter)
          exact ih.operations h ((omits_binary ..).2 ⟨hleft, hnamed⟩) hfinal
        refine hflag _ ?_ h
        split
        · split
          · exact (Token.lacks_cons.1 hinner).2
          · exact hinner
        · exact hinner
    · cases h
      exact ⟨hleft, htokens⟩
  · cases h
    exact ⟨hleft, htokens⟩

lemma operand_succ (h : operand? (fuel + 1) tokens = some (e, rest)) (htokens : Lacks w tokens) :
    Omits w e ∧ Lacks w rest := by
  unfold operand? at h
  split at h
  · obtain ⟨⟨body, tail⟩, hbody, h⟩ := Option.bind_eq_some_iff.1 h
    obtain ⟨hnamed, htail⟩ := ih.expression hbody (Token.lacks_cons.1 htokens).2
    cases h
    exact ⟨omits_negate hnamed, htail⟩
  · obtain ⟨⟨body, tail⟩, hbody, h⟩ := Option.bind_eq_some_iff.1 h
    have hsound := ih.expression hbody (Token.lacks_cons.1 htokens).2
    dsimp only at h
    split at h
    · cases h
      exact hsound
    · cases h
  · obtain ⟨⟨body, tail⟩, hbody, h⟩ := Option.bind_eq_some_iff.1 h
    obtain ⟨hnamed, htail⟩ := ih.primary hbody htokens
    exact suffixes?_sound h hnamed htail

lemma primary_succ (h : primary? (fuel + 1) tokens = some (e, rest)) (htokens : Lacks w tokens) :
    Omits w e ∧ Lacks w rest := by
  unfold primary? at h
  split at h
  · cases h
    exact ⟨(omits_number _).2 trivial, (Token.lacks_cons.1 htokens).2⟩
  · split at h
    · cases h
      exact ⟨(omits_number _).2 trivial, (Token.lacks_cons.1 htokens).2⟩
    · cases h
  · cases h
    exact ⟨(omits_text _).2 trivial, (Token.lacks_cons.1 htokens).2⟩
  -- an expression in parentheses is the first case that goes deeper
  · obtain ⟨⟨body, tail⟩, hbody, h⟩ := Option.bind_eq_some_iff.1 h
    obtain ⟨hnamed, htail⟩ := ih.expression hbody (Token.lacks_cons.1 htokens).2
    dsimp only at h
    split at h
    · cases h
      exact ⟨(omits_paren body).2 hnamed, (Token.lacks_cons.1 htail).2⟩
    · cases h
  · obtain ⟨⟨s, tail⟩, hs, h⟩ := Option.bind_eq_some_iff.1 h
    cases h
    exact selector?_sound (Option.some_ne_none w).symm hs htokens
  -- a word is a number, an aggregation, a function, or else the name of a metric
  · next word inner =>
    obtain ⟨hword, hinner⟩ := Token.lacks_cons.1 htokens
    split at h
    · cases h
      exact ⟨(omits_number _).2 trivial, hinner⟩
    split at h
    · cases h
      exact ⟨(omits_number _).2 trivial, hinner⟩
    dsimp only at h
    split at h
    · exact ih.aggregation h hinner
    split at h
    · cases h
    split at h
    · split at h
      · cases h
      · obtain ⟨⟨es, after⟩, hes, h⟩ := Option.bind_eq_some_iff.1 h
        obtain ⟨hall, hafter⟩ := ih.arguments hes (Token.lacks_cons.1 hinner).2
        cases h
        exact ⟨(omits_call word es).2 hall, hafter⟩
    · obtain ⟨⟨s, tail⟩, hs, h⟩ := Option.bind_eq_some_iff.1 h
      cases h
      exact selector?_sound (fun hname => hword (congrArg Token.word (Option.some.inj hname))) hs
        hinner
  · cases h

lemma aggregation_succ {op : Aggregation}
    (h : Grammar.aggregation (fuel + 1) op tokens = some (e, rest)) (htokens : Lacks w tokens) :
    Omits w e ∧ Lacks w rest := by
  unfold Grammar.aggregation at h
  obtain ⟨⟨before, inner⟩, hbefore, h⟩ := Option.bind_eq_some_iff.1 h
  have hinner : Lacks w inner := lacks_grouping? hbefore htokens
  dsimp only at h
  split at h
  · next tail =>
    obtain ⟨⟨es, after⟩, hes, h⟩ := Option.bind_eq_some_iff.1 h
    obtain ⟨hnamed, hafter⟩ := ih.arguments hes (Token.lacks_cons.1 hinner).2
    -- the labels may stand in front of the arguments or behind them
    cases before with
    | some grouping =>
      obtain ⟨found, hfound, h⟩ := Option.bind_eq_some_iff.1 h
      cases h
      exact ⟨omits_aggregate? hfound hnamed, hafter⟩
    | none =>
      obtain ⟨⟨grouping, final⟩, hgrouping, h⟩ := Option.bind_eq_some_iff.1 h
      obtain ⟨found, hfound, h⟩ := Option.bind_eq_some_iff.1 h
      cases h
      exact ⟨omits_aggregate? hfound hnamed, lacks_grouping? hgrouping hafter⟩
  · cases h

lemma arguments_succ (h : arguments? (fuel + 1) tokens = some (es, rest))
    (htokens : Lacks w tokens) : AllOmit w es ∧ Lacks w rest := by
  unfold arguments? at h
  split at h
  · cases h
    exact ⟨by simp [AllOmit], (Token.lacks_cons.1 htokens).2⟩
  · exact ih.argumentsFrom h htokens

lemma argumentsFrom_succ (h : argumentsFrom? (fuel + 1) tokens = some (es, rest))
    (htokens : Lacks w tokens) : AllOmit w es ∧ Lacks w rest := by
  unfold argumentsFrom? at h
  obtain ⟨⟨e, tail⟩, he, h⟩ := Option.bind_eq_some_iff.1 h
  obtain ⟨hnamed, htail⟩ := ih.expression he htokens
  dsimp only at h
  split at h
  · obtain ⟨⟨others, after⟩, hothers, h⟩ := Option.bind_eq_some_iff.1 h
    obtain ⟨hall, hafter⟩ := ih.argumentsFrom hothers (Token.lacks_cons.1 htail).2
    cases h
    exact ⟨List.forall_mem_cons.2 ⟨hnamed, hall⟩, hafter⟩
  · cases h
    exact ⟨by simpa [AllOmit] using hnamed, (Token.lacks_cons.1 htail).2⟩
  · cases h

end Sound

lemma sound (fuel : Nat) : Sound w fuel := by
  induction fuel with
  | zero => constructor <;> intros <;> contradiction
  | succ fuel ih =>
    exact ⟨ih.expression_succ, ih.operations_succ, ih.operand_succ, ih.primary_succ,
      ih.aggregation_succ, ih.arguments_succ, ih.argumentsFrom_succ⟩

end Grammar

/-- The selectors in an expression that is read have names that are words. -/
theorem Expr.isName_of_parse? {query : String} {e : Expr} (h : Expr.parse? query = some e)
    {name : String} (hname : name ∈ e.mentions) : Token.IsName name := by
  by_contra hno
  obtain ⟨hread, _⟩ := Option.filter_eq_some_iff.1 h
  obtain ⟨tokens, htokens, hwhole⟩ := Option.bind_eq_some_iff.1 hread
  have hlacks : Token.Lacks name tokens :=
    Token.lacks_scanFrom? hno (Token.lacks_nil.2 trivial) htokens
  obtain ⟨⟨found, rest⟩, hfound, hrest⟩ := Option.bind_eq_some_iff.1 hwhole
  dsimp only at hrest
  split at hrest
  · cases hrest
    exact ((Grammar.sound _).expression hfound hlacks).1 hname
  · cases hrest

/-- The project's own grammar reads what its parser reads. -/
lemma Language.parse_eq_ok_iff {query : String} {e : Expr} :
    Language.parse query = .ok e ↔ Expr.parse? query = some e := by
  simp only [Language.parse]
  cases Expr.parse? query <;> simp

/-- Is the text a metric name: that of a selector in an expression that is read? -/
def IsMetricName (name : String) : Prop :=
  ∃ query e, Expr.parse? query = some e ∧ name ∈ e.mentions

lemma IsMetricName.isName {name : String} (h : IsMetricName name) : Token.IsName name := by
  obtain ⟨query, e, hparse, hname⟩ := h
  exact Expr.isName_of_parse? hparse hname

end RuleFixtures.PromQL
