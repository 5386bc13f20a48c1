import RuleFixtures.Labels
import RuleFixtures.Query.Sample

/-!
Results of queries.

* `QueryResult` has one constructor per shape of result.
* `QueryResult.decode` reads the data member of an answer. Nothing of it is returned if any part
  does not decode.
-/

namespace RuleFixtures

/-- A series with one sample. -/
structure InstantSeries where
  labels : Labels
  sample : Sample
  deriving DecidableEq

/-- A series with samples in the order of the answer. -/
structure Stream where
  labels : Labels
  samples : List Sample
  deriving DecidableEq

/-- The canonical key of a series. -/
def InstantSeries.key (s : InstantSeries) : Except ShapeFault Json := s.labels.key

/-- The canonical key of a series. -/
def Stream.key (s : Stream) : Except ShapeFault Json := s.labels.key

/-- The last sample of a series. -/
def Stream.last? (s : Stream) : Option Sample := s.samples.getLast?

/-- The result of a query. -/
inductive QueryResult where
  | scalar (sample : Sample)
  | string (time : Instant) (value : String)
  | vector (series : List InstantSeries)
  | matrix (series : List Stream)
  deriving DecidableEq

namespace QueryResult

/-- The shape of a result. -/
def kind : QueryResult → ResultKind
  | .scalar _ => .scalar
  | .string _ _ => .string
  | .vector _ => .vector
  | .matrix _ => .matrix

/-- The labels of an item of a result. -/
def itemLabels (item : Json) : Except Fault Labels := do
  match ← (item.get "metric").mapError .shape with
  | some metric => (Labels.ofJson metric).mapError .shape
  | none => return .empty

/-- Decodes an item of a vector. -/
def decodeInstant (item : Json) : Except Fault InstantSeries := do
  let labels ← itemLabels item
  let pair ← (item.need "value").mapError .shape
  return ⟨labels, ← Sample.ofPair pair⟩

/-- Decodes the items of a vector; items without a value are left out. -/
def decodeVector : List Json → Except Fault (List InstantSeries)
  | [] => .ok []
  | item :: rest => do
    if ← (item.holds "value").mapError .shape then
      let series ← decodeInstant item
      return series :: (← decodeVector rest)
    else decodeVector rest

/-- Decodes pairs in order. -/
def decodeSamples : List Json → Except Fault (List Sample)
  | [] => .ok []
  | pair :: rest => do
    let sample ← Sample.ofPair pair
    return sample :: (← decodeSamples rest)

/-- Decodes an item of a matrix; an item without values has no samples. -/
def decodeStream (item : Json) : Except Fault Stream := do
  let labels ← itemLabels item
  match ← (item.get "values").mapError .shape with
  | some values => do
    let pairs ← values.elements.mapError .shape
    return ⟨labels, ← decodeSamples pairs⟩
  | none => return ⟨labels, []⟩

/-- Decodes the items of a matrix. -/
def decodeMatrix : List Json → Except Fault (List Stream)
  | [] => .ok []
  | item :: rest => do
    let stream ← decodeStream item
    return stream :: (← decodeMatrix rest)

/-- The shape that a value names. -/
def decodeKind (value : Json) : Except ShapeFault ResultKind :=
  let unknown : Except ShapeFault ResultKind := .error (.unknownResultType value.inspect)
  match value with
  | .text name => match ResultKind.ofName? name with
    | some kind => .ok kind
    | none => unknown
  | _ => unknown

/-- Decodes the content of a result of a known shape. -/
def decodeContent (kind : ResultKind) (content : Option Json) : Except Fault QueryResult := do
  let value := content.getD .null
  match kind with
  | .scalar => return .scalar (← Sample.ofPair value)
  | .string =>
    let time ← decodeTime (← pairElement value 0)
    return .string time (← pairElement value 1).display
  | .vector =>
    let items ← (Json.elementsOrNone content).mapError .shape
    return .vector (← decodeVector items)
  | .matrix =>
    let items ← (Json.elementsOrNone content).mapError .shape
    return .matrix (← decodeMatrix items)

/-- Decodes the data member of an answer. -/
def decode (data : Json) : Except Fault QueryResult := do
  let kindValue ← (data.get "resultType").mapError .shape
  let kind ← (decodeKind (kindValue.getD .null)).mapError .shape
  let content ← (data.get "result").mapError .shape
  decodeContent kind content

end QueryResult

end RuleFixtures
