import RuleFixtures.Guarded
import RuleFixtures.Proofs.Fixtures.SampleText

/-!
The line that a fault shows.

Quoted texts, numbers and the fixed wording of messages have no line feed. So the report on a fault
is a single line unless one of the texts that it passes on as they are has more.

* `Breaks` holds of texts with a line feed; the lemmas on `'\n'` follow how messages are put
  together.
* `Json.breaks_display`: a value has a line feed only if it is such a text itself.
* `Fault.passedOn` lists the texts that the report on a fault passes on.
* `Fault.isLine_report_iff`: if none of them has a line feed, and only then, the report is one line.
-/

namespace RuleFixtures

/-! ### Line feeds -/

/-- The text has a line feed. -/
def Breaks (text : String) : Prop := '\n' ∈ text.toList

instance : DecidablePred Breaks := fun text =>
  inferInstanceAs (Decidable ('\n' ∈ text.toList))

@[simp]
lemma toString_text (text : String) : toString text = text := rfl

@[simp]
lemma breaks_append (s t : String) : Breaks (s ++ t) ↔ Breaks s ∨ Breaks t := by
  simp [Breaks]

/-- A fixed text is rewritten with this, so that nothing has to be computed from its bytes. -/
lemma breaks_ofList (s : List Char) : Breaks (String.ofList s) ↔ '\n' ∈ s := by
  rw [Breaks, String.toList_ofList]

/-- A line with its end. -/
def IsLine (text : String) : Prop := ∃ line, text = line ++ "\n" ∧ ¬ Breaks line

/-- What ends with a line feed is a line if there is none before. -/
lemma isLine_append_iff (s : String) : IsLine (s ++ "\n") ↔ ¬ Breaks s := by
  constructor
  · rintro ⟨line, hline, hbreaks⟩
    rwa [(String.append_left_inj _).1 hline]
  · exact fun h => ⟨s, rfl, h⟩

lemma breaks_intercalate {separator : String} (h : ¬ Breaks separator) (texts : List String) :
    Breaks (String.intercalate separator texts) ↔ ∃ text ∈ texts, Breaks text := by
  simp only [Breaks, String.toList_intercalate]
  induction texts with
  | nil => simp
  | cons first rest ih =>
    cases rest with
    | nil => simp
    | cons second rest =>
      rw [Breaks] at h
      rw [List.exists_mem_cons_iff, ← ih]
      simp [List.intercalate, h]

/-! ### Numbers and quoted texts -/

lemma newline_notMem_of_numeral {s : List Char} (h : Numeral s) : '\n' ∉ s := fun hmem =>
  absurd (h '\n' hmem) (by decide)

@[simp]
lemma newline_notMem_toDigits (n : ℕ) : '\n' ∉ Nat.toDigits 10 n :=
  newline_notMem_of_numeral (Numeral.toDigits n)

@[simp]
lemma newline_notMem_intRepr (n : ℤ) : '\n' ∉ n.repr.toList :=
  newline_notMem_of_numeral (numeral_toString n)

@[simp]
lemma Binary64.newline_notMem_text (x : Binary64) : '\n' ∉ x.text.toList := by
  rw [text, String.toList_ofList]
  exact newline_notMem_of_numeral x.numeral_textList

namespace DurationText

lemma newline_notMem_writeParts {units : List (List Char × ℕ)}
    (h : ∀ unit ∈ units, '\n' ∉ unit.1) (ms : ℤ) : '\n' ∉ writeParts units ms := by
  induction units generalizing ms with
  | nil => simp [writeParts]
  | cons unit smaller ih =>
    obtain ⟨hunit, hsmaller⟩ := List.forall_mem_cons.1 h
    rw [writeParts, List.mem_append, not_or]
    refine ⟨?_, ih hsmaller _⟩
    split
    · simp
    · simpa using hunit

@[simp]
lemma newline_notMem_write (d : Duration) : '\n' ∉ (write d).toList := by
  rw [write, writeMilliseconds]
  split
  · decide
  · rw [String.toList_ofList]
    exact newline_notMem_writeParts (by decide) _

end DurationText

namespace Text

@[simp]
lemma newline_notMem_hexDigits (width n : ℕ) : '\n' ∉ hexDigits width n := by
  induction width generalizing n with
  | zero => simp [hexDigits]
  | succ width ih =>
    have hdigit : ∀ value < 16, '\n' ≠ hexDigit value := by decide
    simpa [hexDigits] using ⟨ih (n / 16), hdigit _ (Nat.mod_lt n (by norm_num))⟩

/-- No character of a quoted text is a line feed, which has an escape. -/
lemma newline_notMem_quotedChar {quote : Char} (hquote : quote ≠ '\n') (c : Char) :
    '\n' ∉ quotedChar quote c := by
  rw [quotedChar]
  split
  · next h =>
    have hc : '\n' ≠ c := by
      rintro rfl
      simp [hquote.symm] at h
    simpa using hc
  · by_cases hc : c = '\n'
    · rw [if_pos hc]
      decide
    · rw [if_neg hc]
      split_ifs <;> simp [Ne.symm hc]

@[simp]
lemma newline_notMem_quoted (text : String) : '\n' ∉ (quoted text).toList := by
  have hquote : quoteFor text.toList ≠ '\n' := by
    rw [quoteFor]
    split <;> decide
  rw [quoted, String.toList_ofList]
  simp only [List.cons_append, List.mem_cons, List.mem_append, List.mem_flatMap, List.not_mem_nil,
    or_false, not_or, not_exists, not_and]
  exact ⟨hquote.symm, fun c _ => newline_notMem_quotedChar hquote c, hquote.symm⟩

end Text

/-! ### Values -/

namespace Json

mutual

/-- Texts are quoted in it. -/
lemma newline_notMem_inspect : ∀ value : Json, '\n' ∉ value.inspect.toList
  | .null => by decide
  | .bool true => by decide
  | .bool false => by decide
  | .int n => newline_notMem_intRepr n
  | .float x => x.newline_notMem_text
  | .text s => Text.newline_notMem_quoted s
  | .list items => by
    have hitems := newline_notMem_inspectItems items
    simp [inspect, hitems]
  | .object members => by
    have hmembers := newline_notMem_inspectMembers members
    simp [inspect, hmembers]

lemma newline_notMem_inspectItems : ∀ items : List Json, '\n' ∉ (inspectItems items).toList
  | [] => by decide
  | [item] => newline_notMem_inspect item
  | item :: second :: rest => by
    have hitem := newline_notMem_inspect item
    have hrest := newline_notMem_inspectItems (second :: rest)
    simp [inspectItems, hitem, hrest]

lemma newline_notMem_inspectMembers : ∀ members : List (String × Json),
    '\n' ∉ (inspectMembers members).toList
  | [] => by decide
  | [(name, value)] => by
    have hvalue := newline_notMem_inspect value
    simp [inspectMembers, hvalue]
  | (name, value) :: second :: rest => by
    have hvalue := newline_notMem_inspect value
    have hrest := newline_notMem_inspectMembers (second :: rest)
    simp [inspectMembers, hvalue, hrest]

end

/-- The text that is shown of a value as it is, if it is a text. -/
def passedOn : Json → List String
  | .text s => [s]
  | _ => []

/-- Of the values, only a text can have a line feed. -/
lemma breaks_display (value : Json) :
    Breaks value.display ↔ ∃ text ∈ value.passedOn, Breaks text := by
  cases value with
  | text s => simp [display, passedOn]
  | _ => exact iff_of_false (newline_notMem_inspect _) (by simp [passedOn])

end Json

/-! ### Failures -/

/-- The texts that a problem passes on. -/
def AnswerProblem.passedOn : AnswerProblem → List String
  | .unreachable reason => [reason]
  | .badStatus _ reason => [reason]
  | .reported error => [error]
  | _ => []

lemma AnswerProblem.breaks_text (problem : AnswerProblem) :
    Breaks problem.text ↔ ∃ text ∈ problem.passedOn, Breaks text := by
  unfold text passedOn
  cases problem <;> simp only [breaks_append] <;> (repeat rw [breaks_ofList]) <;> simp [Breaks]

@[simp]
lemma Operation.newline_notMem_failureText (operation : Operation) :
    '\n' ∉ operation.failureText.toList := by
  cases operation <;> simp [failureText]

@[simp]
lemma ResultKind.newline_notMem_name (kind : ResultKind) : '\n' ∉ kind.name.toList := by
  cases kind <;> decide

@[simp]
lemma Category.newline_notMem_name (category : Category) : '\n' ∉ category.name.toList := by
  unfold name
  cases category <;> simp

namespace Failure

/-- The texts that a failure passes on. -/
def passedOn : Failure → List String
  | .missingUrl => []
  | .refusedScheme scheme url => [scheme, url]
  | .missingHost url => [url]
  | .unreadableExpression expr reason => [reason, expr]
  | .answer _ url problem => problem.passedOn ++ [url]
  | .undecodable .rules reason => [reason]
  | .undecodable (.query expr) reason => [reason, expr]
  | .undecodable (.queryRange expr) reason => [reason, expr]
  | .unexpectedResult _ expr => [expr]
  | .noSamples rule _ => rule.passedOn
  | .told _ message details =>
    message :: details.flatMap fun (name, value) => name :: value.passedOn

/-- A line has a line feed if its message or a detail does. -/
lemma breaks_line (failure : Failure) :
    Breaks failure.line ↔ Breaks failure.message ∨
      ∃ detail ∈ failure.details, Breaks detail.1 ∨ Breaks detail.2.display := by
  have hshown (details : List (String × Json)) :
      Breaks (String.intercalate ", " (details.map fun (name, value) =>
        name ++ "=" ++ value.display)) ↔
          ∃ detail ∈ details, Breaks detail.1 ∨ Breaks detail.2.display := by
    rw [breaks_intercalate (by decide)]
    simp [Breaks]
  rw [line]
  cases hdetails : failure.details with
  | nil => simp
  | cons detail rest =>
    rw [← hdetails, ← hshown]
    simp [hdetails, Breaks]

lemma breaks_line_iff (failure : Failure) :
    Breaks failure.line ↔ ∃ text ∈ failure.passedOn, Breaks text := by
  rw [breaks_line]
  -- the message and the details of each kind are unfolded; those that carry a text from outside
  -- need a fact about that text, in the other ones no line ends
  cases failure with
  | answer operation url problem =>
    have hmessage : Breaks (answer operation url problem).message ↔ Breaks problem.text := by
      unfold message
      simp [Breaks]
    have hdetails : (∃ detail ∈ (answer operation url problem).details,
        Breaks detail.1 ∨ Breaks detail.2.display) ↔ Breaks url := by
      unfold details
      cases problem <;> simp [Json.display, Json.inspect, Breaks]
    rw [hmessage, hdetails, problem.breaks_text]
    simp [passedOn, or_and_right, exists_or]
  | undecodable operation reason =>
    unfold message details passedOn
    cases operation <;> simp [Json.display, Breaks]
  | noSamples rule lookback =>
    unfold message details passedOn
    simp only [← rule.breaks_display]
    simp [Breaks]
  | told category message details =>
    unfold Failure.message Failure.details passedOn
    simp only [Json.breaks_display, List.exists_mem_cons_iff]
    refine or_congr_right ⟨?_, ?_⟩
    · rintro ⟨⟨name, value⟩, hdetail, hname | ⟨text, htext, hbreaks⟩⟩
      · exact ⟨name, List.mem_flatMap.2 ⟨_, hdetail, List.mem_cons_self⟩, hname⟩
      · exact ⟨text, List.mem_flatMap.2 ⟨_, hdetail, List.mem_cons_of_mem _ htext⟩, hbreaks⟩
    · rintro ⟨text, htext, hbreaks⟩
      obtain ⟨⟨name, value⟩, hdetail, htext⟩ := List.mem_flatMap.1 htext
      refine ⟨⟨name, value⟩, hdetail, ?_⟩
      obtain rfl | htext := List.mem_cons.1 htext
      · exact .inl hbreaks
      · exact .inr ⟨text, htext, hbreaks⟩
  | _ =>
    unfold message details passedOn
    simp only [breaks_append]
    repeat rw [breaks_ofList]
    simp [Json.display, Breaks]

end Failure

/-! ### Other faults -/

/-- The texts that a fault of the wrong shape passes on. -/
def ShapeFault.passedOn : ShapeFault → List String
  | .noOperation type operation => [type, operation]
  | .notIndexable type => [type]
  | .notIterable type => [type]
  | .notContainer type => [type]
  | .unhashable type => [type]
  | .incomparable left right => [left, right]
  | .notNumber type => [type]
  | .notQuery type => [type]
  | .notText type => [type]
  | .unknownResultType shown => [shown]
  | .unknownRuleType shown => [shown]
  | .unreadableNumber shown => [shown]
  | _ => []

lemma ShapeFault.breaks_message (fault : ShapeFault) :
    Breaks fault.message ↔ ∃ text ∈ fault.passedOn, Breaks text := by
  unfold message passedOn
  cases fault <;> simp only [breaks_append, toString_text] <;> (repeat rw [breaks_ofList]) <;>
    simp [Breaks]

@[simp]
lemma ShapeFault.newline_notMem_kind (fault : ShapeFault) : '\n' ∉ fault.kind.toList := by
  unfold kind
  cases fault <;> simp

lemma RangeFault.not_breaks_message (fault : RangeFault) : ¬ Breaks fault.message := by
  unfold message
  cases fault <;> simp only [breaks_append, toString_text] <;> (repeat rw [breaks_ofList]) <;>
    simp [Breaks]

@[simp]
lemma RangeFault.newline_notMem_kind (fault : RangeFault) : '\n' ∉ fault.kind.toList := by
  unfold kind
  cases fault <;> simp

lemma FileFault.not_breaks_message (fault : FileFault) : ¬ Breaks fault.message := by
  obtain ⟨problem, path⟩ := fault
  have htext : '\n' ∉ problem.text.toList := by
    unfold FileProblem.text
    cases problem <;> (rw [String.toList_ofList]; decide)
  unfold message
  cases path <;> simp only [breaks_append, toString_text] <;> (repeat rw [breaks_ofList]) <;>
    simp [Breaks, htext]

@[simp]
lemma FileFault.newline_notMem_kind (fault : FileFault) : '\n' ∉ fault.kind.toList := by
  obtain ⟨problem, path⟩ := fault
  unfold kind
  cases problem <;> simp

lemma Text.Utf8.Broken.not_breaks_message (fault : Text.Utf8.Broken) : ¬ Breaks fault.message := by
  have hreason : '\n' ∉ fault.reason.text.toList := by
    unfold BreakReason.text
    cases fault.reason <;> simp
  unfold message
  dsimp only
  split <;> simp only [breaks_append, toString_text] <;> (repeat rw [breaks_ofList]) <;>
    simp [Breaks, hreason]

lemma HeaderFault.not_breaks_message (fault : HeaderFault) : ¬ Breaks fault.message := by
  have hescape : '\n' ∉ (escape fault.first).toList := by
    rw [escape]
    split_ifs <;> simp
  unfold message
  dsimp only
  split <;> simp only [breaks_append, toString_text] <;> (repeat rw [breaks_ofList]) <;>
    simp [Breaks, hescape]

/-- The texts that an address fault passes on. -/
def AddressFault.passedOn : AddressFault → List String
  | .notAddress shown => [shown]
  | .disguised authority => [authority]
  | .refused (.longComponent name) => [name]
  | .refused (.control shown _) => [shown]
  | .refused (.port shown) => [shown]
  | .refused (.hostVersionFour shown) => [shown]
  | .refused (.hostVersionSix shown) => [shown]
  | .refused (.hostName shown) => [shown]
  | .refusedBecause reason => [reason]
  | _ => []

lemma AddressFault.breaks_message (fault : AddressFault) :
    Breaks fault.message ↔ ∃ text ∈ fault.passedOn, Breaks text := by
  unfold message passedOn
  cases fault with
  | refused part =>
    unfold AddressPart.reason
    cases part <;> simp only [breaks_append, toString_text] <;> (repeat rw [breaks_ofList]) <;>
      simp [Breaks]
  | _ =>
    simp only [breaks_append, toString_text]
    repeat rw [breaks_ofList]
    simp [Breaks]

@[simp]
lemma AddressFault.newline_notMem_kind (fault : AddressFault) : '\n' ∉ fault.kind.toList := by
  unfold kind
  cases fault <;> simp

lemma NumberFault.not_breaks_message (fault : NumberFault) : ¬ Breaks fault.message := by
  unfold message
  cases fault <;> simp only [breaks_append, toString_text] <;> (repeat rw [breaks_ofList]) <;>
    simp [Breaks]

/-- A markup fault passes on its tag, or the reason that is given for it. -/
def MarkupFault.passedOn : MarkupFault → List String
  | .nothingOpen tag _ => [tag]
  | .notOpen tag _ => [tag]
  | .handler reason => [reason]
  | .number _ => []

@[simp]
lemma MarkupFault.newline_notMem_kind (fault : MarkupFault) : '\n' ∉ fault.kind.toList := by
  unfold kind
  cases fault <;> simp

lemma MarkupFault.breaks_message (fault : MarkupFault) :
    Breaks fault.message ↔ ∃ text ∈ fault.passedOn, Breaks text := by
  unfold message passedOn
  cases fault with
  | number fault => simpa using fault.not_breaks_message
  | _ =>
    simp only [breaks_append, toString_text]
    repeat rw [breaks_ofList]
    simp [Breaks]

namespace Fault

/-- The texts that the report on a fault passes on as they are. -/
def passedOn : Fault → List String
  | .failure told => told.passedOn
  | .shape fault => fault.passedOn
  | .address fault => fault.passedOn
  | .markup fault => fault.passedOn
  | .settings _ text => [text]
  | .foreign kind text => [kind, text]
  | _ => []

/-- The names of kinds are fixed, but for faults from outside. -/
lemma breaks_kind (fault : Fault) :
    Breaks fault.kind ↔ ∃ kind text, fault = .foreign kind text ∧ Breaks kind := by
  unfold kind
  cases fault <;> simp [Breaks]

/-- The kind of a fault and its message, where no message is a line of its own. -/
lemma breaks_kind_message {fault : Fault} (h : ∀ told, fault ≠ .failure told) :
    Breaks (fault.kind ++ ": " ++ fault.message) ↔ ∃ text ∈ fault.passedOn, Breaks text := by
  have hparts (kind message : String) :
      Breaks (kind ++ ": " ++ message) ↔ Breaks kind ∨ Breaks message := by
    simp [Breaks]
  rw [hparts, breaks_kind]
  -- the kinds of faults one by one: fixed texts end no line, the other ones are passed on
  unfold message passedOn
  cases fault with
  | failure told => exact absurd rfl (h told)
  | shape fault => simpa using fault.breaks_message
  | range fault => simpa using fault.not_breaks_message
  | file fault => simpa using fault.not_breaks_message
  | broken fault => simpa using fault.not_breaks_message
  | nesting inObject =>
    simp only [breaks_append]
    repeat rw [breaks_ofList]
    cases inObject <;> simp [Breaks]
  | address fault => simpa using fault.breaks_message
  | header fault => simpa using fault.not_breaks_message
  | markup fault => simpa using fault.breaks_message
  | foreign kind text => simp
  | _ => simp [Breaks]

/-- The report on a fault is one line, unless a text that is passed on has a line feed. An interrupt
shows nothing. -/
lemma isLine_report_iff {fault : Fault} (h : fault ≠ .interrupted) :
    IsLine fault.report ↔ ∀ text ∈ fault.passedOn, ¬ Breaks text := by
  suffices hbody : ∃ body, fault.report = body ++ "\n" ∧
      (Breaks body ↔ ∃ text ∈ fault.passedOn, Breaks text) by
    obtain ⟨body, hreport, hbreaks⟩ := hbody
    rw [hreport, isLine_append_iff, hbreaks]
    simp
  cases fault with
  | failure told => exact ⟨told.line, rfl, told.breaks_line_iff⟩
  | interrupted => exact absurd rfl h
  | _ => exact ⟨_, rfl, breaks_kind_message nofun⟩

end Fault

end RuleFixtures
