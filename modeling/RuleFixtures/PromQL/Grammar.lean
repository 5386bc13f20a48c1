import RuleFixtures.PromQL.Typing

/-!
Reading expressions.

Operators bind, from loose to tight: `or`; `and`, `unless`; comparisons; sums; products and
`atan2`; powers, which associate to the right. A sign binds tighter than a product and looser than
a power. Ranges, offsets and moments belong to the operand right before them.

* `Expr.parse?` reads a query; the result is well typed.
-/

namespace RuleFixtures.PromQL

namespace Grammar

/-! ### Words -/

/-- A word in lower case, for comparison with keywords. -/
def lower (word : String) : String := word.map Char.toLower

/-- Is the token this keyword? -/
def isKeyword (keyword : String) : Token → Bool
  | .word w => lower w = keyword
  | _ => false

/-- The words that never are names of metrics. -/
def reserved : List String := ["on", "ignoring", "group_left", "group_right", "bool", "atan2"]

/-- The words that never are names of functions. -/
def keywords : List String :=
  reserved ++ ["by", "without", "offset", "and", "or", "unless", "start", "end"]

/-- The aggregations by their names. -/
def aggregations : List (String × Aggregation) :=
  [("sum", .sum), ("avg", .avg), ("min", .min), ("max", .max), ("count", .count),
   ("group", .group), ("stddev", .stddev), ("stdvar", .stdvar), ("topk", .topk),
   ("bottomk", .bottomk), ("quantile", .quantile), ("count_values", .countValues),
   ("limitk", .limitk), ("limit_ratio", .limitRatio)]

/-- The aggregation of a name in any case. -/
def aggregation? (word : String) : Option Aggregation :=
  (aggregations.find? fun entry => entry.1 = lower word).map Prod.snd

/-- The operators by their symbols or words. -/
def operators : List (String × BinaryOp) :=
  [("+", .add), ("-", .sub), ("*", .mul), ("/", .div), ("%", .mod), ("^", .pow), ("==", .equal),
   ("!=", .notEqual), ("<", .less), ("<=", .atMost), (">", .greater), (">=", .atLeast)]

/-- The operators that are words. -/
def wordOperators : List (String × BinaryOp) :=
  [("and", .and), ("or", .or), ("unless", .unless), ("atan2", .atan2)]

/-- The operator that a token stands for. -/
def operator? : Token → Option BinaryOp
  | .symbol s => (operators.find? fun entry => entry.1 = s).map Prod.snd
  | .word w => (wordOperators.find? fun entry => entry.1 = lower w).map Prod.snd
  | _ => none

/-- How tightly an operator binds. -/
def bindingLevel : BinaryOp → Nat
  | .or => 1
  | .and | .unless => 2
  | .equal | .notEqual | .less | .atMost | .greater | .atLeast => 3
  | .add | .sub => 4
  | .mul | .div | .mod | .atan2 => 5
  | .pow => 6

/-- The level of powers, at which the operand of a sign is read. -/
def powerLevel : Nat := 6

/-! ### Pieces without expressions in them -/

/-- A duration in milliseconds: a positive span, or a positive number of seconds. -/
def duration? : Token → Option Nat
  | .span ms => if 0 < ms then some ms else none
  | .number seconds => do
    let units ← seconds.signedUnits?
    if 0 < units then some (units.toNat * 1000 / Binary64.unitsOfOne) else none
  | _ => none

/-- The value of a number; a span counts as its seconds. -/
def number? : Token → Option Binary64
  | .number value => some value
  | .span ms => some (.ofQuotient ms 1000)
  | _ => none

/-- A moment in milliseconds: the seconds times a thousand, a half rounded away from zero. -/
def momentOf? (negative : Bool) (seconds : Binary64) : Option Moment := do
  let ms := seconds.mul (.ofInt 1000)
  let (_, units) ← ms.units?
  let rounded : Int := (((2 * units + Binary64.unitsOfOne) / (2 * Binary64.unitsOfOne) : Nat) : Int)
  some (.instant (if negative then -rounded else rounded))

/-- Reads a moment, behind its sign. -/
def moment? : List Token → Option (Moment × List Token)
  | .symbol "+" :: token :: rest => do return (← momentOf? false (← number? token), rest)
  | .symbol "-" :: token :: rest => do return (← momentOf? true (← number? token), rest)
  | .word w :: .symbol "(" :: .symbol ")" :: rest =>
    if lower w = "start" then some (.start, rest)
    else if lower w = "end" then some (.finish, rest)
    else none
  | token :: rest => do return (← momentOf? false (← number? token), rest)
  | [] => none

/-- Reads an offset in milliseconds, behind its keyword. -/
def offset? : List Token → Option (Int × List Token)
  | .symbol "-" :: token :: rest => do return (-((← duration? token) : Int), rest)
  | .symbol "+" :: token :: rest => do return ((← duration? token : Nat), rest)
  | token :: rest => do return ((← duration? token : Nat), rest)
  | [] => none

/-- Reads a range or the bounds of a subquery, behind the opening bracket: the duration, and for
a subquery the step if it has one. -/
def bounds? : List Token → Option (Nat × Option (Option Nat) × List Token)
  | token :: .symbol "]" :: rest => do return (← duration? token, none, rest)
  | token :: .symbol ":" :: .symbol "]" :: rest => do return (← duration? token, some none, rest)
  | token :: .symbol ":" :: step :: .symbol "]" :: rest => do
    return (← duration? token, some (some (← duration? step)), rest)
  | _ => none

/-- The name of a label: a word without colon. -/
def label? : Token → Option String
  | .word w => if w.toList.contains ':' then none else some w
  | _ => none

/-- Reads labels up to the closing bracket; a comma may stand behind the last. -/
def labelsFrom? : List Token → Option (List String × List Token)
  | .symbol ")" :: rest => some ([], rest)
  | token :: .symbol "," :: rest => do
    let label ← label? token
    let (labels, tail) ← labelsFrom? rest
    some (label :: labels, tail)
  | token :: .symbol ")" :: rest => do return ([← label? token], rest)
  | _ => none

/-- Reads a list of labels in brackets. -/
def labels? : List Token → Option (List String × List Token)
  | .symbol "(" :: rest => labelsFrom? rest
  | _ => none

/-- Reads the grouping of an aggregation if there is one. -/
def grouping? (tokens : List Token) : Option (Option Grouping × List Token) :=
  match tokens with
  | token :: rest =>
    if isKeyword "by" token then do
      let (labels, tail) ← labels? rest
      some (some ⟨true, labels⟩, tail)
    else if isKeyword "without" token then do
      let (labels, tail) ← labels? rest
      some (some ⟨false, labels⟩, tail)
    else some (none, tokens)
  | [] => some (none, tokens)

/-- Reads the side with many series and the labels it takes over, if it is given. -/
def group? (tokens : List Token) : Option (Option (Side × List String) × List Token) :=
  let included (side : Side) (rest : List Token) :
      Option (Option (Side × List String) × List Token) :=
    match rest with
    | .symbol "(" :: tail => do
      let (labels, after) ← labelsFrom? tail
      some (some (side, labels), after)
    | _ => some (some (side, []), rest)
  match tokens with
  | token :: rest =>
    if isKeyword "group_left" token then included .left rest
    else if isKeyword "group_right" token then included .right rest
    else some (none, tokens)
  | [] => some (none, tokens)

/-- Reads how operands are matched, if it is given. -/
def matching? (tokens : List Token) : Option (Option Matching × List Token) :=
  let matchedBy (isOn : Bool) (rest : List Token) : Option (Option Matching × List Token) := do
    let (labels, tail) ← labels? rest
    let (group, after) ← group? tail
    some (some ⟨isOn, labels, group⟩, after)
  match tokens with
  | token :: rest =>
    if isKeyword "on" token then matchedBy true rest
    else if isKeyword "ignoring" token then matchedBy false rest
    else some (none, tokens)
  | [] => some (none, tokens)

/-! ### Selectors -/

/-- The comparison that a symbol stands for. -/
def matchOp? : Token → Option MatchOp
  | .symbol "=" => some .equal
  | .symbol "!=" => some .notEqual
  | .symbol "=~" => some .pattern
  | .symbol "!~" => some .notPattern
  | _ => none

/-- Reads a matcher; a lone text in quotes is the metric name. -/
def matcher? : List Token → Option (Matcher × List Token)
  | .word w :: op :: .text value :: rest => do
    return (⟨← label? (.word w), ← matchOp? op, value⟩, rest)
  | .text label :: op :: rest =>
    match matchOp? op, rest with
    | some kind, .text value :: tail => some (⟨label, kind, value⟩, tail)
    | some _, _ => none
    | none, _ => some (⟨metricNameLabel, .equal, label⟩, op :: rest)
  | _ => none

/-- Reads groups of matchers up to the closing brace. The group at hand and the groups before it
are kept last first; a comma may stand behind the last matcher. -/
def matchersFrom? : (fuel : Nat) → (groups : List (List Matcher)) → (group : List Matcher) →
    List Token → Option (List (List Matcher) × List Token)
  | 0, _, _, _ => none
  | fuel + 1, groups, group, tokens => do
    let (matcher, rest) ← matcher? tokens
    let grown := matcher :: group
    match rest with
    | .symbol "\x7d" :: tail => some ((grown.reverse :: groups).reverse, tail)
    | .symbol "," :: .symbol "\x7d" :: tail => some ((grown.reverse :: groups).reverse, tail)
    | .symbol "," :: tail => matchersFrom? fuel groups grown tail
    | token :: tail =>
      if isKeyword "or" token then matchersFrom? fuel (grown.reverse :: groups) [] tail else none
    | [] => none

/-- Reads a selector, behind its name: matchers in braces, if there are any. -/
def selector? (name : Option String) (tokens : List Token) : Option (Selector × List Token) :=
  match tokens with
  | .symbol "\x7b" :: .symbol "\x7d" :: rest => some (⟨name, [], [], none, none⟩, rest)
  | .symbol "\x7b" :: rest => do
    let (groups, tail) ← matchersFrom? (rest.length + 1) [] [] rest
    match groups with
    | [matchers] => some (⟨name, matchers, [], none, none⟩, tail)
    | _ => some (⟨name, [], groups, none, none⟩, tail)
  | _ => some (⟨name, [], [], none, none⟩, tokens)

/-! ### What follows an operand -/

/-- Sets the moment of an operand that has none. -/
def withMoment? (moment : Moment) : Expr → Option Expr
  | .selector s =>
    if s.moment = none then some (.selector { s with moment := some moment }) else none
  | .range s duration =>
    if s.moment = none then some (.range { s with moment := some moment } duration) else none
  | .subquery body duration step none offset =>
    some (.subquery body duration step (some moment) offset)
  | _ => none

/-- Sets the offset of an operand that has none. -/
def withOffset? (offset : Int) : Expr → Option Expr
  | .selector s =>
    if s.offset = none then some (.selector { s with offset := some offset }) else none
  | .range s duration =>
    if s.offset = none then some (.range { s with offset := some offset } duration) else none
  | .subquery body duration step moment none =>
    some (.subquery body duration step moment (some offset))
  | _ => none

/-- The range of a selector, which must have neither moment nor offset. -/
def withRange? (duration : Nat) : Expr → Option Expr
  | .selector s =>
    if s.moment = none && s.offset = none then some (.range s duration) else none
  | _ => none

/-- Reads ranges, subqueries, moments and offsets behind an operand. -/
def suffixes? : (fuel : Nat) → Expr → List Token → Option (Expr × List Token)
  | 0, _, _ => none
  | fuel + 1, e, tokens =>
    match tokens with
    | .symbol "[" :: rest => do
      let (duration, subquery, tail) ← bounds? rest
      match subquery with
      | none => suffixes? fuel (← withRange? duration e) tail
      | some step => suffixes? fuel (.subquery e duration step none none) tail
    | .symbol "@" :: rest => do
      let (moment, tail) ← moment? rest
      suffixes? fuel (← withMoment? moment e) tail
    | token :: rest =>
      if isKeyword "offset" token then do
        let (offset, tail) ← offset? rest
        suffixes? fuel (← withOffset? offset e) tail
      else some (e, tokens)
    | [] => some (e, tokens)

/-- An operand with a minus in front: the sign of a number is part of the number. -/
def negate : Expr → Expr
  | .number value => .number value.neg
  | e => .negation e

/-- An aggregation of the arguments read: the operand, behind the parameter if there is one. -/
def aggregate? (op : Aggregation) (grouping : Option Grouping) : List Expr → Option Expr
  | [body] => some (.aggregate op grouping body)
  | [parameter, body] => some (.aggregateWith op grouping body parameter)
  | _ => none

/-- Does the token open a bracket or a grouping, so that an aggregation goes on with it? -/
def opensAggregation : Token → Bool
  | .symbol s => s = "("
  | token => isKeyword "by" token || isKeyword "without" token

/-! ### Expressions -/

mutual

/-- Reads an expression of operators that bind at least as tightly as the level. -/
def expression? : (fuel : Nat) → (level : Nat) → List Token → Option (Expr × List Token)
  | 0, _, _ => none
  | fuel + 1, level, tokens => do
    let (left, rest) ← operand? fuel tokens
    operations? fuel level left rest

/-- Reads the operators behind an operand, with their right operands. -/
def operations? :
    (fuel : Nat) → (level : Nat) → Expr → List Token → Option (Expr × List Token)
  | 0, _, _, _ => none
  | fuel + 1, level, left, tokens =>
    match tokens with
    | token :: rest => match operator? token with
      | some op =>
        if bindingLevel op < level then some (left, tokens)
        else do
          let (returnsBool, rest) := match rest with
            | flag :: tail => if isKeyword "bool" flag then (true, tail) else (false, rest)
            | [] => (false, rest)
          let (matching, rest) ← matching? rest
          let next := if op = .pow then bindingLevel op else bindingLevel op + 1
          let (right, tail) ← expression? fuel next rest
          operations? fuel level (.binary op returnsBool matching left right) tail
      | none => some (left, tokens)
    | [] => some (left, tokens)

/-- Reads an operand with the signs in front of it. -/
def operand? : (fuel : Nat) → List Token → Option (Expr × List Token)
  | 0, _ => none
  | fuel + 1, tokens =>
    match tokens with
    | .symbol "-" :: rest => do
      let (e, tail) ← expression? fuel powerLevel rest
      some (negate e, tail)
    | .symbol "+" :: rest => do
      let (e, tail) ← expression? fuel powerLevel rest
      if e.valueType.isOperand then some (e, tail) else none
    | _ => do
      let (e, rest) ← primary? fuel tokens
      suffixes? (rest.length + 1) e rest

/-- Reads a literal, a selector, a call, an aggregation or an expression in brackets. -/
def primary? : (fuel : Nat) → List Token → Option (Expr × List Token)
  | 0, _ => none
  | fuel + 1, tokens =>
    match tokens with
    | .number value :: rest => some (.number value, rest)
    | .span ms :: rest => if 0 < ms then some (.number (.ofQuotient ms 1000), rest) else none
    | .text value :: rest => some (.text value, rest)
    | .symbol "(" :: rest => do
      let (e, tail) ← expression? fuel 1 rest
      match tail with
      | .symbol ")" :: after => some (.paren e, after)
      | _ => none
    | .symbol "\x7b" :: _ => do
      let (s, tail) ← selector? none tokens
      some (.selector s, tail)
    | .word w :: rest =>
      if lower w = "inf" then some (.number (.infinite false), rest)
      else if lower w = "nan" then some (.number .nan, rest)
      else
        let opens := (rest.head?.map opensAggregation).getD false
        match aggregation? w, opens with
        | some op, true => aggregation fuel op rest
        | _, _ =>
          if reserved.contains (lower w) then none
          else match rest with
            | .symbol "(" :: tail =>
              if keywords.contains (lower w) || w.toList.contains ':' then none
              else do
                let (es, after) ← arguments? fuel tail
                some (.call w es, after)
            | _ => do
              let (s, tail) ← selector? (some w) rest
              some (.selector s, tail)
    | _ => none

/-- Reads an aggregation, behind its name. -/
def aggregation : (fuel : Nat) → Aggregation → List Token → Option (Expr × List Token)
  | 0, _, _ => none
  | fuel + 1, op, tokens => do
    let (before, rest) ← grouping? tokens
    match rest with
    | .symbol "(" :: tail => do
      let (es, after) ← arguments? fuel tail
      match before with
      | some grouping => do return (← aggregate? op (some grouping) es, after)
      | none => do
        let (grouping, final) ← grouping? after
        return (← aggregate? op grouping es, final)
    | _ => none

/-- Reads the arguments of a call up to the closing bracket. -/
def arguments? : (fuel : Nat) → List Token → Option (List Expr × List Token)
  | 0, _ => none
  | fuel + 1, tokens =>
    match tokens with
    | .symbol ")" :: rest => some ([], rest)
    | _ => argumentsFrom? fuel tokens

/-- Reads arguments with commas between them, and the closing bracket. -/
def argumentsFrom? : (fuel : Nat) → List Token → Option (List Expr × List Token)
  | 0, _ => none
  | fuel + 1, tokens => do
    let (e, rest) ← expression? fuel 1 tokens
    match rest with
    | .symbol "," :: tail => do
      let (es, after) ← argumentsFrom? fuel tail
      some (e :: es, after)
    | .symbol ")" :: tail => some ([e], tail)
    | _ => none

end

/-- Reads an expression that takes up all tokens. -/
def whole? (tokens : List Token) : Option Expr := do
  let (e, rest) ← expression? (6 * tokens.length + 6) 1 tokens
  if rest.isEmpty then some e else none

end Grammar

/-- Reads a query; none if it is no expression or not well typed. -/
def Expr.parse? (query : String) : Option Expr :=
  ((Token.scan? query).bind Grammar.whole?).filter Expr.isWellTyped

end RuleFixtures.PromQL
