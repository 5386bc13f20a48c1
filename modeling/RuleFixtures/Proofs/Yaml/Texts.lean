import Mathlib.Tactic
import RuleFixtures.Json.Basic

/-!
The texts in a document, names of members apart.

* `Json.texts` lists them, `Json.mapTexts` changes each.
* `Json.mapTexts_eq_iff`: a document is kept if and only if each of its texts is.
-/

namespace RuleFixtures.Json

mutual

/-- The document with each text changed. -/
def mapTexts (f : String → String) : Json → Json
  | .text s => .text (f s)
  | .list items => .list (mapTextsAll f items)
  | .object members => .object (mapTextsMembers f members)
  | .null => .null
  | .bool value => .bool value
  | .int value => .int value
  | .float value => .float value

/-- The items with each text changed. -/
def mapTextsAll (f : String → String) : List Json → List Json
  | [] => []
  | item :: rest => mapTexts f item :: mapTextsAll f rest

/-- The members with each text in their values changed. -/
def mapTextsMembers (f : String → String) : List (String × Json) → List (String × Json)
  | [] => []
  | (name, value) :: rest => (name, mapTexts f value) :: mapTextsMembers f rest

end

mutual

/-- The texts in a document. -/
def texts : Json → List String
  | .text s => [s]
  | .list items => textsAll items
  | .object members => textsMembers members
  | _ => []

/-- The texts in items. -/
def textsAll : List Json → List String
  | [] => []
  | item :: rest => texts item ++ textsAll rest

/-- The texts in the values of members. -/
def textsMembers : List (String × Json) → List String
  | [] => []
  | (_, value) :: rest => texts value ++ textsMembers rest

end

variable {f : String → String}

mutual

/-- A document is kept if and only if each of its texts is. -/
theorem mapTexts_eq_iff : ∀ value : Json, mapTexts f value = value ↔ ∀ s ∈ texts value, f s = s
  | .text s => by simp [mapTexts, texts]
  | .list items => by simp [mapTexts, texts, mapTextsAll_eq_iff items]
  | .object members => by simp [mapTexts, texts, mapTextsMembers_eq_iff members]
  | .null | .bool _ | .int _ | .float _ => by simp [mapTexts, texts]

lemma mapTextsAll_eq_iff : ∀ items : List Json,
    mapTextsAll f items = items ↔ ∀ s ∈ textsAll items, f s = s
  | [] => by simp [mapTextsAll, textsAll]
  | item :: rest => by
    rw [mapTextsAll, textsAll, List.cons.injEq, mapTexts_eq_iff item, mapTextsAll_eq_iff rest,
      List.forall_mem_append]

lemma mapTextsMembers_eq_iff : ∀ members : List (String × Json),
    mapTextsMembers f members = members ↔ ∀ s ∈ textsMembers members, f s = s
  | [] => by simp [mapTextsMembers, textsMembers]
  | (name, value) :: rest => by
    rw [mapTextsMembers, textsMembers, List.cons.injEq, Prod.mk.injEq, mapTexts_eq_iff value,
      mapTextsMembers_eq_iff rest, List.forall_mem_append]
    simp

end

end RuleFixtures.Json
