import Mathlib.Tactic
import RuleFixtures.Query.Result
import RuleFixtures.Rules.Rule

/-!
The faults of decoding.

The data of an answer is any document, and what is asked of it is not checked beforehand. A fault
of decoding tells of the shape of the document, or of a number out of range.

* `FaultsIn` says that a computation has no faults but those of a class.
* `faultsIn_bind` puts two computations together.
* `QueryResult.decode_faultsIn` and `RuleGroup.decodeAll_faultsIn` give the classes for the data
  of the two kinds of answers.
-/

namespace RuleFixtures

/-! ### Classes of faults -/

/-- The computation gives a value or a fault of a class. -/
def FaultsIn {ε α : Type} (P : ε → Prop) (result : Except ε α) : Prop :=
  ∀ fault, result = .error fault → P fault

section FaultsIn

variable {ε ε' α β : Type} {P Q : ε → Prop} {R : ε' → Prop}

lemma faultsIn_ok (a : α) : FaultsIn P (.ok a) := fun _ h => nomatch h

lemma faultsIn_pure (a : α) : FaultsIn P (pure a : Except ε α) := faultsIn_ok a

lemma faultsIn_error {fault : ε} (h : P fault) : FaultsIn P (.error fault : Except ε α) := by
  rintro _ ⟨⟩
  exact h

/-- A class holds of two computations in turn when it holds of both. -/
lemma faultsIn_bind {x : Except ε α} {f : α → Except ε β} (hx : FaultsIn P x)
    (hf : ∀ a, FaultsIn P (f a)) : FaultsIn P (x >>= f) := by
  cases x with
  | error fault => exact faultsIn_error (hx fault rfl)
  | ok a => exact hf a

/-- A fault told in another way keeps its class if the telling does. -/
lemma faultsIn_mapError {tell : ε → ε'} {x : Except ε α} (hx : FaultsIn P x)
    (htell : ∀ fault, P fault → R (tell fault)) : FaultsIn R (x.mapError tell) := by
  cases x with
  | error fault => exact faultsIn_error (htell fault (hx fault rfl))
  | ok a => exact faultsIn_ok a

lemma faultsIn_ite {c : Prop} [Decidable c] {x y : Except ε α} (hx : FaultsIn P x)
    (hy : FaultsIn P y) : FaultsIn P (if c then x else y) := by
  split
  · exact hx
  · exact hy

lemma faultsIn_true (x : Except ε α) : FaultsIn (fun _ => True) x := fun _ _ => trivial

end FaultsIn

/-! ### Documents -/

namespace ShapeFault

/-- The fault is not about a position beyond the end. -/
def IsWithin : ShapeFault → Prop
  | .shortList | .shortText => False
  | _ => True

end ShapeFault

namespace Json

lemma get_faultsIn (value : Json) (name : String) :
    FaultsIn ShapeFault.IsWithin (value.get name) := by
  cases value with
  | object members => exact faultsIn_ok _
  | _ => exact faultsIn_error trivial

lemma need_faultsIn (value : Json) (name : String) :
    FaultsIn ShapeFault.IsWithin (value.need name) := by
  cases value with
  | object members =>
    rw [need]
    split
    · exact faultsIn_ok _
    · exact faultsIn_error trivial
  | _ => exact faultsIn_error trivial

lemma elements_faultsIn (value : Json) : FaultsIn ShapeFault.IsWithin value.elements := by
  cases value with
  | list items => exact faultsIn_ok _
  | object members => exact faultsIn_ok _
  | text s => exact faultsIn_ok _
  | _ => exact faultsIn_error trivial

lemma elementsOrNone_faultsIn (value? : Option Json) :
    FaultsIn ShapeFault.IsWithin (elementsOrNone value?) := by
  cases value? with
  | none => exact faultsIn_ok _
  | some value => exact faultsIn_ite value.elements_faultsIn (faultsIn_ok _)

lemma checkHashable_faultsIn (value : Json) :
    FaultsIn ShapeFault.IsWithin value.checkHashable := by
  cases value with
  | list items => exact faultsIn_error trivial
  | object members => exact faultsIn_error trivial
  | _ => exact faultsIn_ok _

end Json

/-! ### Labels -/

namespace Labels

lemma pairOf_faultsIn (position : Nat) (entry : Json) :
    FaultsIn ShapeFault.IsWithin (pairOf position entry) := by
  unfold pairOf
  split
  case h_4 => exact faultsIn_error trivial
  -- lists, objects and texts are taken apart alike
  all_goals
    refine faultsIn_bind (Json.elements_faultsIn _) fun parts => ?_
    split
    · exact faultsIn_bind (Json.checkHashable_faultsIn _) fun _ => faultsIn_pure _
    · exact faultsIn_error trivial

lemma ofPairs_faultsIn (position : Nat) (labels : Labels) (entries : List Json) :
    FaultsIn ShapeFault.IsWithin (ofPairs position labels entries) := by
  induction entries generalizing position labels with
  | nil => exact faultsIn_ok _
  | cons entry rest ih => exact faultsIn_bind (pairOf_faultsIn position entry) fun _ => ih _ _

lemma ofJson_faultsIn (value : Json) : FaultsIn ShapeFault.IsWithin (ofJson value) := by
  cases value with
  | object members => exact faultsIn_ok _
  | _ => exact faultsIn_bind (Json.elements_faultsIn _) fun _ => ofPairs_faultsIn _ _ _

lemma ofJsonOrNone_faultsIn (value? : Option Json) :
    FaultsIn ShapeFault.IsWithin (ofJsonOrNone value?) := by
  cases value? with
  | none => exact faultsIn_ok _
  | some value => exact faultsIn_ite (ofJson_faultsIn value) (faultsIn_ok _)

end Labels

/-! ### Rules -/

lemma Rule.decode_faultsIn (raw : Json) : FaultsIn ShapeFault.IsWithin (Rule.decode raw) := by
  refine faultsIn_bind (raw.get_faultsIn _) fun type? => ?_
  refine faultsIn_bind ?_ fun kind => ?_
  · exact faultsIn_ite (faultsIn_ok _) (faultsIn_ite (faultsIn_ok _) (faultsIn_error trivial))
  refine faultsIn_bind (raw.need_faultsIn _) fun name => ?_
  refine faultsIn_bind (raw.need_faultsIn _) fun query => ?_
  refine faultsIn_bind (raw.get_faultsIn _) fun labels? => ?_
  exact faultsIn_bind (Labels.ofJsonOrNone_faultsIn labels?) fun _ => faultsIn_pure _

lemma Rule.decodeAll_faultsIn (items : List Json) :
    FaultsIn ShapeFault.IsWithin (Rule.decodeAll items) := by
  induction items with
  | nil => exact faultsIn_ok _
  | cons raw rest ih =>
    exact faultsIn_bind (Rule.decode_faultsIn raw) fun _ =>
      faultsIn_bind ih fun _ => faultsIn_pure _

namespace RuleGroup

lemma decode_faultsIn (raw : Json) : FaultsIn ShapeFault.IsWithin (decode raw) := by
  refine faultsIn_bind (raw.get_faultsIn _) fun name? => ?_
  refine faultsIn_bind (raw.get_faultsIn _) fun rules? => ?_
  refine faultsIn_bind (Json.elementsOrNone_faultsIn rules?) fun items => ?_
  exact faultsIn_bind (Rule.decodeAll_faultsIn items) fun _ => faultsIn_pure _

lemma decodeList_faultsIn (items : List Json) :
    FaultsIn ShapeFault.IsWithin (decodeList items) := by
  induction items with
  | nil => exact faultsIn_ok _
  | cons raw rest ih =>
    exact faultsIn_bind (decode_faultsIn raw) fun _ => faultsIn_bind ih fun _ => faultsIn_pure _

/-- Decoding the rules never looks for a position. -/
theorem decodeAll_faultsIn (data : Json) : FaultsIn ShapeFault.IsWithin (decodeAll data) :=
  faultsIn_bind (data.get_faultsIn _) fun groups? =>
    faultsIn_bind (Json.elementsOrNone_faultsIn groups?) decodeList_faultsIn

end RuleGroup

/-! ### Results of queries -/

namespace Fault

/-- A fault of a document's shape, or of a number or a time that is out of range. -/
inductive OfResult : Fault → Prop
  | shape (fault : ShapeFault) : OfResult (.shape fault)
  | beyondDoubles : OfResult (.range .beyondDoubles)
  | timestamp : OfResult (.range .timestamp)
  | year (number : Int) : OfResult (.range (.year number))
  | calendar : OfResult (.range .calendar)
  | timeNotNumber : OfResult (.range .timeNotNumber)

/-- Whatever objects to the shape of a document. -/
lemma ofResult_shape {α : Type} (x : Except ShapeFault α) : FaultsIn OfResult (x.mapError .shape) :=
  faultsIn_mapError (faultsIn_true x) fun fault _ => .shape fault

end Fault

open Fault (OfResult ofResult_shape)

lemma Json.toDouble_faultsIn (value : Json) : FaultsIn OfResult value.toDouble := by
  cases value with
  | int n => exact faultsIn_ite (faultsIn_ok _) (faultsIn_error .beyondDoubles)
  | float x => exact faultsIn_ok _
  | bool b => exact faultsIn_ok _
  | text s =>
    rw [toDouble]
    split
    · exact faultsIn_ok _
    · exact faultsIn_error (.shape _)
  | _ => exact faultsIn_error (.shape _)

lemma Instant.ofParts_faultsIn (seconds micros : Int) :
    FaultsIn (fun fault => OfResult (.range fault)) (Instant.ofParts seconds micros) :=
  faultsIn_ite (faultsIn_error .calendar)
    (faultsIn_ite (faultsIn_error (.year _)) (faultsIn_ok _))

lemma Instant.ofSeconds_faultsIn (seconds : Binary64) :
    FaultsIn (fun fault => OfResult (.range fault)) (Instant.ofSeconds seconds) := by
  delta Instant.ofSeconds
  split
  · exact faultsIn_error .timeNotNumber
  · exact faultsIn_error .timestamp
  · -- The parts of the number are made opaque, so that no step evaluates them.
    extract_lets whole fraction micros
    clear_value whole micros
    split
    exact faultsIn_ite (faultsIn_error .timestamp) (ofParts_faultsIn _ _)

lemma decodeTime_faultsIn (raw : Json) : FaultsIn OfResult (decodeTime raw) :=
  faultsIn_bind raw.toDouble_faultsIn fun seconds =>
    faultsIn_mapError (Instant.ofSeconds_faultsIn seconds) fun _ h => h

lemma Sample.ofPair_faultsIn (pair : Json) : FaultsIn OfResult (Sample.ofPair pair) := by
  refine faultsIn_bind (ofResult_shape _) fun raw => ?_
  refine faultsIn_bind (decodeTime_faultsIn raw) fun time => ?_
  refine faultsIn_bind (ofResult_shape _) fun value => ?_
  exact faultsIn_bind value.toDouble_faultsIn fun _ => faultsIn_pure _

namespace QueryResult

lemma itemLabels_faultsIn (item : Json) : FaultsIn OfResult (itemLabels item) := by
  refine faultsIn_bind (ofResult_shape _) fun metric? => ?_
  cases metric? with
  | none => exact faultsIn_pure _
  | some metric => exact ofResult_shape _

lemma decodeInstant_faultsIn (item : Json) : FaultsIn OfResult (decodeInstant item) := by
  refine faultsIn_bind (itemLabels_faultsIn item) fun labels => ?_
  refine faultsIn_bind (ofResult_shape _) fun pair => ?_
  exact faultsIn_bind (Sample.ofPair_faultsIn pair) fun _ => faultsIn_pure _

lemma decodeVector_faultsIn (items : List Json) : FaultsIn OfResult (decodeVector items) := by
  induction items with
  | nil => exact faultsIn_ok _
  | cons item rest ih =>
    refine faultsIn_bind (ofResult_shape _) fun hasValue => ?_
    cases hasValue with
    | false => exact ih
    | true =>
      exact faultsIn_bind (decodeInstant_faultsIn item) fun _ =>
        faultsIn_bind ih fun _ => faultsIn_pure _

lemma decodeSamples_faultsIn (pairs : List Json) : FaultsIn OfResult (decodeSamples pairs) := by
  induction pairs with
  | nil => exact faultsIn_ok _
  | cons pair rest ih =>
    exact faultsIn_bind (Sample.ofPair_faultsIn pair) fun _ =>
      faultsIn_bind ih fun _ => faultsIn_pure _

lemma decodeStream_faultsIn (item : Json) : FaultsIn OfResult (decodeStream item) := by
  refine faultsIn_bind (itemLabels_faultsIn item) fun labels => ?_
  refine faultsIn_bind (ofResult_shape _) fun values? => ?_
  cases values? with
  | none => exact faultsIn_pure _
  | some values =>
    refine faultsIn_bind (ofResult_shape _) fun pairs => ?_
    exact faultsIn_bind (decodeSamples_faultsIn pairs) fun _ => faultsIn_pure _

lemma decodeMatrix_faultsIn (items : List Json) : FaultsIn OfResult (decodeMatrix items) := by
  induction items with
  | nil => exact faultsIn_ok _
  | cons item rest ih =>
    exact faultsIn_bind (decodeStream_faultsIn item) fun _ =>
      faultsIn_bind ih fun _ => faultsIn_pure _

lemma decodeContent_faultsIn (kind : ResultKind) (content : Option Json) :
    FaultsIn OfResult (decodeContent kind content) := by
  cases kind with
  | scalar => exact faultsIn_bind (Sample.ofPair_faultsIn _) fun _ => faultsIn_pure _
  | string =>
    refine faultsIn_bind (ofResult_shape _) fun raw => ?_
    refine faultsIn_bind (decodeTime_faultsIn raw) fun time => ?_
    exact faultsIn_bind (ofResult_shape _) fun _ => faultsIn_pure _
  | vector =>
    refine faultsIn_bind (ofResult_shape _) fun items => ?_
    exact faultsIn_bind (decodeVector_faultsIn items) fun _ => faultsIn_pure _
  | matrix =>
    refine faultsIn_bind (ofResult_shape _) fun items => ?_
    exact faultsIn_bind (decodeMatrix_faultsIn items) fun _ => faultsIn_pure _

/-- Decoding a result finds fault with the shape of the document, or with a number or a time out of
range. -/
theorem decode_faultsIn (data : Json) : FaultsIn OfResult (decode data) := by
  refine faultsIn_bind (ofResult_shape _) fun kindValue => ?_
  refine faultsIn_bind (ofResult_shape _) fun kind => ?_
  exact faultsIn_bind (ofResult_shape _) fun content => decodeContent_faultsIn kind content

end QueryResult

end RuleFixtures
