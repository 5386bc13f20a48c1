import RuleFixtures.Fixtures.Accumulator
import RuleFixtures.Proofs.Labels.Key

/-!
The first series of a key is the one that is kept.

* `Stream.hasKey` holds of a series with a given key, `firstWith` finds the first of these.
* `Accumulator.get?_offer`: an offer counts only for a key that is not known yet;
  `Accumulator.size_offer`: it is one more then.
* `Accumulator.exists_addStreams`: after a result every key has the samples it had before, or those
  of its first series in the result, and the new keys are counted.
-/

namespace RuleFixtures

/-- Has the series the key? -/
def Stream.hasKey (key : Json) (stream : Stream) : Bool :=
  match stream.key with
  | .ok other => other = key
  | .error _ => false

/-- The first series with a key. -/
def firstWith (key : Json) (streams : List Stream) : Option Stream :=
  streams.find? (Stream.hasKey key)

lemma Stream.hasKey_iff {key : Json} {stream : Stream} :
    stream.hasKey key = true ↔ stream.key = .ok key := by
  unfold Stream.hasKey
  split
  · next other h => simp [h]
  · next fault h => simp [h]

/-- What is found is a series with the key. -/
lemma mem_of_firstWith {key : Json} {streams : List Stream} {stream : Stream}
    (h : firstWith key streams = some stream) : stream ∈ streams :=
  List.mem_of_find?_eq_some h

lemma key_of_firstWith {key : Json} {streams : List Stream} {stream : Stream}
    (h : firstWith key streams = some stream) : stream.key = .ok key :=
  Stream.hasKey_iff.1 (List.find?_some h)

lemma firstWith_append (key : Json) (first second : List Stream) :
    firstWith key (first ++ second) = (firstWith key first).or (firstWith key second) :=
  List.find?_append

namespace Accumulator

/-- The samples of a key after an offer. -/
lemma get?_offer (history : Accumulator) (key other : Json) (samples : List Sample) :
    (history.offer key samples).2.get? other =
      (history.get? other).or (if key = other then some samples else none) := by
  unfold offer
  by_cases hknown : history.contains key
  · rw [if_pos hknown]
    by_cases hkey : key = other
    · subst hkey
      rw [OrderedMap.contains, Option.isSome_iff_exists] at hknown
      obtain ⟨known, hknown⟩ := hknown
      rw [hknown, Option.some_or]
    · rw [if_neg hkey, Option.or_none]
  · rw [if_neg hknown]
    by_cases hkey : key = other
    · subst hkey
      have hnone : history.get? key = none := by
        simpa [OrderedMap.contains] using hknown
      rw [OrderedMap.insert, OrderedMap.get?_alter_self, hnone, if_pos rfl, Option.none_or]
    · rw [OrderedMap.insert, OrderedMap.get?_alter_of_ne _ (Ne.symm hkey), if_neg hkey,
        Option.or_none]

/-- A key that is kept is one more. -/
lemma size_offer (history : Accumulator) (key : Json) (samples : List Sample) :
    (history.offer key samples).2.size =
      history.size + if (history.offer key samples).1 then 1 else 0 := by
  unfold offer
  by_cases hknown : history.contains key
  · rw [if_pos hknown]
    rfl
  · have hkeys := OrderedMap.keys_alter history key fun _ => samples
    rw [if_neg (mt (history.contains_iff_mem_keys key).2 hknown)] at hkeys
    have hlength := congrArg List.length hkeys
    rw [if_neg hknown]
    simpa [OrderedMap.keys, OrderedMap.size, OrderedMap.insert] using hlength

/-- Series with texts as keys are taken up and those that are kept are counted; of series with one
key the first is kept. -/
theorem exists_addStreams (history : Accumulator) {streams : List Stream}
    (htexts : ∀ stream ∈ streams, ∃ text, stream.key = .ok (.text text)) :
    ∃ counted grown, addStreams history streams = (.ok counted, grown) ∧
      grown.size = history.size + counted ∧
      ∀ key, grown.get? key =
        (history.get? key).or ((firstWith key streams).map Stream.samples) := by
  induction streams generalizing history with
  | nil => exact ⟨0, history, rfl, rfl, fun key => by simp [firstWith]⟩
  | cons stream rest ih =>
    obtain ⟨text, htext⟩ := htexts stream (by simp)
    obtain ⟨counted, grown, hgrown, hsize, hget⟩ :=
      ih (history.offer (.text text) stream.samples).2 fun other hother =>
        htexts other (List.mem_cons_of_mem _ hother)
    -- the first series is offered, and the other ones go on from what it leaves
    have hoffer : (stream.key.bind fun key => add history key stream.samples) =
        .ok (history.offer (.text text) stream.samples) := by
      rw [htext]
      rfl
    have hadd : addStreams history (stream :: rest) =
        (.ok (counted + if (history.offer (.text text) stream.samples).1 then 1 else 0),
          grown) := by
      rw [addStreams, hoffer]
      simp only [hgrown]
      rfl
    refine ⟨_, _, hadd, ?_, fun key => ?_⟩
    · rw [hsize, size_offer, add_assoc, add_comm counted]
    rw [hget, get?_offer, Option.or_assoc]
    refine congrArg ((history.get? key).or ·) ?_
    -- the first series is the first with this key, or has no part in it
    by_cases hkey : Json.text text = key
    · have hfirst : stream.hasKey key := Stream.hasKey_iff.2 (by rw [htext, hkey])
      simp [firstWith, hkey, hfirst]
    · have hother : stream.hasKey key = false := by
        rw [Bool.eq_false_iff, ne_eq, Stream.hasKey_iff, htext]
        simpa using hkey
      simp [firstWith, hkey, hother]

end Accumulator

end RuleFixtures
