import RuleFixtures.Console.Message
import RuleFixtures.Proofs.Console.Escape

/-!
Status messages in which nothing is marked up or replaced.

* `Message.warning_eq`, `Message.success_eq`: such a message is shown as it is, behind its sign, on
  as many lines as it needs.
-/

namespace RuleFixtures.Console

namespace Markup

lemma isStyle_warning : IsStyle "warning" :=
  ⟨by decide, ⟨'w', by decide, by decide, by decide, by decide⟩, by simp; decide,
    by decide +kernel, by decide +kernel⟩

lemma isStyle_success : IsStyle "success" :=
  ⟨by decide, ⟨'s', by decide, by decide, by decide, by decide⟩, by simp; decide,
    by decide +kernel, by decide +kernel⟩

end Markup

namespace Message

open Markup

variable [Platform] (width : ℕ)

/-- A text in a style, as it is written when it wraps. -/
lemma wrapped_unmarked {style : String} (hstyle : IsStyle style) {text : String}
    (hmarked : IsUnmarked text.toList) (hliteral : Literal text.toList) :
    wrapped width ("[" ++ style ++ "]" ++ text ++ "[/" ++ style ++ "]") =
      .ok (ended (flow width text.toList)) := by
  obtain ⟨rendered, hrendered, htext, hfaulty⟩ := render_unmarked hstyle hmarked hliteral
  rw [wrapped, hrendered]
  change (rendered.lines (flow width)).map ended = _
  rw [Rendered.lines_flow hfaulty, htext]
  rfl

/-- A plain warning is shown as it is. -/
lemma warning_eq {text : String} (hmarked : IsUnmarked ("⚠ " ++ text).toList)
    (hliteral : Literal ("⚠ " ++ text).toList) :
    warning width text = .ok (ended (flow width ("⚠ " ++ text).toList)) := by
  have hmarkup : "[" ++ "warning" ++ "]" ++ ("⚠ " ++ text) ++ "[/" ++ "warning" ++ "]" =
      "[warning]⚠ " ++ text ++ "[/warning]" := by
    rw [← String.toList_inj]
    simp
  rw [warning, ← hmarkup, wrapped_unmarked width isStyle_warning hmarked hliteral]

/-- A plain message on something done is shown as it is. -/
lemma success_eq {text : String} (hmarked : IsUnmarked ("✓ " ++ text).toList)
    (hliteral : Literal ("✓ " ++ text).toList) :
    success width text = .ok (ended (flow width ("✓ " ++ text).toList)) := by
  have hmarkup : "[" ++ "success" ++ "]" ++ ("✓ " ++ text) ++ "[/" ++ "success" ++ "]" =
      "[success]✓ " ++ text ++ "[/success]" := by
    rw [← String.toList_inj]
    simp
  rw [success, ← hmarkup, wrapped_unmarked width isStyle_success hmarked hliteral]

end Message

end RuleFixtures.Console
